import TicketKeeper.Proofs.Cycle.Faulty
import TicketKeeper.Proofs.Rerun

/-! Attempts that fail and are made again. When only the tracker and the loading of the record fail,
they come to what one attempt without faults comes to; at most a last comment gets lost. -/
namespace TicketKeeper

open Store (Backend Depot)

theorem Situation.decide_untracked {s : Situation} (built : s.previous ≠ none)
    (failed : s.outcome = .failure) (h : s.tracked? = none) :
    s.decide = .settled (.create s.draft) := by
  simp [decide, built, failed, alreadyApplied, onFailure, h]

theorem Board.steady : Board.tracker.Steady (id : Board → Board) where
  status key x := by
    simp only [Board.tracker, Board.status]
    split <;> rfl
  comment _ _ _ := rfl
  create_error h := by cases h
  status_congr key x y h := by rw [show x = y from h]
  comment_congr _ _ _ _ _ := rfl
  create_congr form x y h := by
    rw [show x = y from h]
    exact ⟨rfl, rfl⟩
  refuses h := by cases h

section Progress

variable {τ φ σ : Type} {p : Parties τ σ} {face : τ → φ} {j : Job} {s₀ s s' sc : Scene τ σ}
  {cs : List (String × String)} {draft : Draft}

/-- What a plan comes to is what the cycle without faults comes to. -/
structure Comes {α : Type} (p : Parties τ σ) (face : τ → φ) (j : Job) (s₀ : Scene τ σ)
    (out : Except Fault α × Scene τ σ) : Prop where
  lacks : (p.reconcile j s₀).2.Lacks face [] out.2
  ok : out.1.isOk = (p.reconcile j s₀).1.isOk

def Dropped (p : Parties τ σ) (j : Job) (s₀ : Scene τ σ) : Prop :=
  ⟨j.report.job, .clear, true⟩ ∈ (p.reconcile j s₀).2.told.written

/-- A ticket was dropped, and the one in its place is still to be created: a cycle without faults
creates it in the scene `sc`. -/
structure Between (p : Parties τ σ) (face : τ → φ) (j : Job) (s₀ sc : Scene τ σ)
    (cs : List (String × String)) (draft : Draft) (s : Scene τ σ) : Prop where
  lacks : sc.Lacks face cs s
  once : Comes p face j s₀ (p.carry (Step.plan j.report.job j.report.number {} (.create draft)) sc)
  missing : p.store.load j.report.job s.store = (.ok none, s.store)
  decides : (j.situation none).decide = .settled (.create draft)
  free : j.check (.create draft) = .ok ()
  short : cs.length ≤ 1
  dropped : Dropped p j s₀

/-- How far attempts at a cycle can have come. -/
inductive Progress (p : Parties τ σ) (face : τ → φ) (j : Job) (s₀ : Scene τ σ) : Scene τ σ → Prop
  | before {s : Scene τ σ} : s₀.Lacks face [] s → Progress p face j s₀ s
  | between {sc : Scene τ σ} {cs : List (String × String)} {draft : Draft} {s : Scene τ σ} :
    Between p face j s₀ sc cs draft s → Progress p face j s₀ s
  | after {cs : List (String × String)} {s : Scene τ σ} : (p.reconcile j s₀).2.Lacks face cs s →
    cs.length ≤ 1 → (cs ≠ [] → Dropped p j s₀) → (p.reconcile j s₀).1.isOk = true →
    Progress p face j s₀ s

theorem Between.of_lacks (h : Between p face j s₀ sc cs draft s) (lacks : s.Lacks face [] s') :
    Between p face j s₀ sc cs draft s' where
  lacks := h.lacks.trans lacks
  once := h.once
  missing := by
    rw [lacks.store]
    exact h.missing
  decides := h.decides
  free := h.free
  short := h.short
  dropped := h.dropped

theorem Progress.of_lacks (h : Progress p face j s₀ s) (lacks : s.Lacks face [] s') :
    Progress p face j s₀ s' := by
  cases h with
  | before before => exact .before (before.trans lacks)
  | between between => exact .between (between.of_lacks lacks)
  | after after short dropped ok => exact .after (after.trans lacks) short dropped ok

section Settled

variable {calm : σ → Prop} (k : Keeping p.store) (answers : Answering p.store calm)
  (tidy : ∀ x ∈ (p.reconcile j s₀).2.told.opened, Tidy x.2.key)

include k answers tidy

theorem Parties.reconcile_settled (ok : (p.reconcile j s₀).1.isOk = true) :
    ∃ record reason, p.store.load j.report.job (p.reconcile j s₀).2.store =
        (.ok record, (p.reconcile j s₀).2.store) ∧
      (j.situation record).decide = .settled (.idle reason) := by
  obtain ⟨es, path, stored, -, logged⟩ := p.carry_spec j.plan s₀
  have course := Job.course path
  have tidy : ∀ x ∈ openings es, Tidy x.2.key := by
    rw [Parties.reconcile, Scene.told_append logged] at tidy
    exact fun x hx => tidy x (List.mem_append_right _ hx)
  rw [Parties.reconcile] at ok
  cases ended : (p.carry j.plan s₀).1 with
  | error fault =>
    rw [ended] at ok
    cases ok
  | ok r =>
    rw [ended] at course
    obtain ⟨record, loaded, reason, idle⟩ := course.settled k answers tidy stored
    exact ⟨record, reason, loaded, idle⟩

theorem Progress.choose_after (after : (p.reconcile j s₀).2.Lacks face cs s)
    (ok : (p.reconcile j s₀).1.isOk = true) :
    (p.store.load j.report.job s.store).2 = s.store ∧ ∃ record reason,
      p.carry j.choose s = (.ok (record, .idle reason), (p.call (.load j.report.job) s).2) := by
  obtain ⟨record, reason, loaded, idle⟩ := Parties.reconcile_settled k answers tidy ok
  rw [← after.store] at loaded
  exact ⟨congrArg Prod.snd loaded, record, reason,
    Parties.carry_choose_settled (congrArg Prod.fst loaded) idle rfl⟩

end Settled

section Attempt

variable {faults : Faults} (spares : faults.SparesWrites) (steady : p.tracker.Steady face)

include spares steady

theorem Progress.of_attempt (h : Progress p face j s₀ s)
    (rests : (p.store.load j.report.job s.store).2 = s.store)
    (onward : ∀ record action s', p.carry j.choose s = (.ok (record, action), s') →
      s.Lacks face [] s' → Progress p face j s₀
        ((p.withFaults faults).carry (action.plan j.report.job j.report.number) s').2) :
    Progress p face j s₀ ((p.withFaults faults).reconcile j s).2 := by
  have lacks := Parties.choose_lacks (j := j) steady rests
  obtain same | ⟨fault, failed, kept⟩ := Parties.choose_faulty (p := p) spares face rests
  · rcases chosen : p.carry j.choose s with ⟨fault | ⟨record, action⟩, s'⟩
    · rw [chosen] at lacks
      rw [Parties.reconcile, Job.plan,
        Parties.carry_bind_error (congrArg Prod.fst (same.trans chosen)),
        same, chosen]
      exact h.of_lacks lacks
    · rw [chosen] at same lacks
      rw [Parties.reconcile, (Parties.carry_plan_ok same).1]
      exact onward record action s' chosen lacks
  · rw [Parties.reconcile, Job.plan, Parties.carry_bind_error failed]
    exact h.of_lacks kept

theorem Progress.of_after {calm : σ → Prop} (k : Keeping p.store)
    (answers : Answering p.store calm)
    (tidy : ∀ x ∈ (p.reconcile j s₀).2.told.opened, Tidy x.2.key)
    (after : (p.reconcile j s₀).2.Lacks face cs s) (short : cs.length ≤ 1)
    (dropped : cs ≠ [] → Dropped p j s₀) (ok : (p.reconcile j s₀).1.isOk = true) :
    Progress p face j s₀ ((p.withFaults faults).reconcile j s).2 := by
  obtain ⟨rests, record, reason, settled⟩ := Progress.choose_after k answers tidy after ok
  apply Progress.of_attempt spares steady (.after after short dropped ok) rests
  intro record' action s' chosen lacks
  cases chosen.symm.trans settled
  exact .after (after.trans lacks) short dropped ok

variable (written : ∀ w ∈ (p.reconcile j s₀).2.told.written, w.ok = true)

include written

/-- A step that creates or comments is taken as without faults, or nothing has happened. -/
theorem Comes.step {step : Step} (other : ∀ key text, step ≠ .forget key text)
    (once : Comes p face j s₀ (p.carry (step.plan j.report.job j.report.number {}) sc))
    (lacks : sc.Lacks face cs s) (mute : cs = [] ∨ ∀ es r,
      (step.plan j.report.job j.report.number {}).Path es r → comments es = []) :
    ((p.reconcile j s₀).2.Lacks face cs
        ((p.withFaults faults).carry (step.plan j.report.job j.report.number {}) s).2 ∧
      (p.reconcile j s₀).1.isOk = true) ∨
    s.Lacks face []
      ((p.withFaults faults).carry (step.plan j.report.job j.report.number {}) s).2 := by
  obtain same | ⟨fault, -, kept⟩ :=
    Parties.step_faulty (p := p) (s := s) spares face j.report.job j.report.number {} other
  · rw [same]
    obtain ⟨result, lacks⟩ := p.carry_lacks steady lacks _ mute
    have after := once.lacks.trans lacks
    rw [List.append_nil] at after
    have ok := once.ok
    rw [← result] at ok
    cases made : (p.carry (step.plan j.report.job j.report.number {}) s).1 with
    | ok applied =>
      rw [made] at ok
      exact .inl ⟨after, ok.symm⟩
    | error fault =>
      refine .inr (Parties.step_error steady other made ?_)
      rw [after.written]
      exact written
  · exact .inr kept

theorem Between.create (h : Between p face j s₀ sc cs draft s) (done : Applied) :
    Progress p face j s₀ ((p.withFaults faults).carry
      (Step.plan j.report.job j.report.number done (.create draft)) s).2 := by
  rw [(Parties.carry_create j.report.job j.report.number done {} draft).1]
  have other : ∀ key text, Step.create draft ≠ .forget key text := nofun
  obtain ⟨after, ok⟩ | kept := h.once.step spares steady written other h.lacks
    (.inr fun _ _ path => (Step.course path).mute)
  · exact .after after h.short (fun _ => h.dropped) ok
  · exact .between (h.of_lacks kept)

theorem Between.attempt (h : Between p face j s₀ sc cs draft s) :
    Progress p face j s₀ ((p.withFaults faults).reconcile j s).2 := by
  apply Progress.of_attempt spares steady (.between h) (congrArg Prod.snd h.missing)
  intro record action s' chosen lacks
  have settled := Parties.carry_choose_settled (congrArg Prod.fst h.missing) h.decides h.free
  cases chosen.symm.trans settled
  rw [Action.plan, Action.steps, Step.planAll_singleton]
  exact (h.of_lacks lacks).create spares steady written {}

theorem Progress.of_step {step : Step} (other : ∀ key text, step ≠ .forget key text)
    (lacks : s₀.Lacks face [] s)
    (once : Comes p face j s₀ (p.carry (step.plan j.report.job j.report.number {}) s)) :
    Progress p face j s₀
      ((p.withFaults faults).carry (step.plan j.report.job j.report.number {}) s).2 := by
  obtain ⟨after, ok⟩ | kept := once.step spares steady written other (.refl face s) (.inl rfl)
  · exact .after after (Nat.zero_le 1) (fun any => absurd rfl any) ok
  · exact .before (lacks.trans kept)

theorem Progress.of_forget {key : String} {text : Option String} (lacks : s₀.Lacks face [] s)
    (once : Comes p face j s₀
      (p.carry (Step.plan j.report.job j.report.number {} (.forget key text)) s)) :
    Progress p face j s₀ ((p.withFaults faults).carry
      (Step.plan j.report.job j.report.number {} (.forget key text)) s).2 := by
  obtain ⟨fault, -, kept⟩ | ⟨cs, short, missing, -⟩ := Parties.forget_faulty (p := p) (s := s) spares
    steady j.report.job j.report.number {} key text
  · exact .before (lacks.trans kept)
  · have after := once.lacks.trans missing
    rw [List.append_nil] at after
    rw [← once.lacks.written] at written
    obtain ⟨done, cleared, -⟩ := Parties.forget_ok steady written
    refine .after after short (fun _ => ?_) (once.ok ▸ done)
    rw [Dropped, ← once.lacks.written]
    exact cleared

theorem Progress.of_replace {calm : σ → Prop} (k : Keeping p.store)
    (answers : Answering p.store calm) {key : String} {text : Option String}
    (awake : k.awake s.store j.report.job)
    (decides : (j.situation none).decide = .settled (.create draft))
    (free : j.check (.create draft) = .ok ()) (lacks : s₀.Lacks face [] s)
    (once : Comes p face j s₀
      (p.carry ((Action.replace key text draft).plan j.report.job j.report.number) s)) :
    Progress p face j s₀ ((p.withFaults faults).carry
      ((Action.replace key text draft).plan j.report.job j.report.number) s).2 := by
  have dropping : ∀ w ∈ (p.carry (Step.plan j.report.job j.report.number {}
      (.forget key text)) s).2.told.written, w ∈ (p.reconcile j s₀).2.told.written := by
    intro w hw
    rw [← once.lacks.written]
    exact p.written_bind _ _ hw
  obtain ⟨done, cleared, stored⟩ :=
    Parties.forget_ok steady fun w hw => written w (dropping w hw)
  obtain ⟨fault, failed, kept⟩ | ⟨cs, short, missing, same⟩ :=
    Parties.forget_faulty (p := p) (s := s) spares steady j.report.job j.report.number {} key text
  · rw [Action.plan, Action.steps, Step.planAll, Parties.carry_bind_error failed]
    exact .before (lacks.trans kept)
  · rw [done] at same
    have dropped := dropping _ cleared
    rcases forgot : p.carry (Step.plan j.report.job j.report.number {} (.forget key text)) s with
      ⟨_ | applied, sc⟩
    · rw [forgot] at done
      cases done
    rcases forgot' : (p.withFaults faults).carry
      (Step.plan j.report.job j.report.number {} (.forget key text)) s with ⟨_ | applied', s'⟩
    · rw [forgot'] at same
      cases same
    rw [forgot, forgot'] at missing
    rw [forgot] at stored
    rw [Parties.carry_replace draft forgot] at once
    rw [Parties.carry_replace draft forgot']
    obtain ⟨scene, result⟩ := Parties.carry_create (p := p) (s := sc) j.report.job j.report.number
      applied {} draft
    have between : Between p face j s₀ sc cs draft s' := {
      lacks := missing
      once := ⟨scene ▸ once.lacks, result ▸ once.ok⟩
      missing := by
        rw [missing.store]
        exact answers.load_cleared k stored awake
      decides := decides
      free := free
      short := short
      dropped := dropped }
    exact between.create spares steady written applied'

variable {calm : σ → Prop} (k : Keeping p.store) (answers : Answering p.store calm)

include k answers

theorem Progress.of_before (sound : calm s.store) (lacks : s₀.Lacks face [] s) :
    Progress p face j s₀ ((p.withFaults faults).reconcile j s).2 := by
  obtain ⟨result, alike⟩ := p.carry_lacks steady lacks j.plan (.inl rfl)
  apply Progress.of_attempt spares steady (.before lacks) (answers.load_calm sound)
  intro record action s' chosen rests
  obtain ⟨scene, ok⟩ := Parties.carry_plan_ok chosen
  have once : Comes p face j s₀ (p.carry (action.plan j.report.job j.report.number) s') :=
    ⟨scene ▸ alike, ok ▸ congrArg Except.isOk result⟩
  obtain ⟨leads, free, loaded⟩ := Parties.chosen_spec chosen
  have lacks := lacks.trans rests
  cases leads with
  | idle reason => exact .before lacks
  | create | comment =>
    rw [Action.plan, Action.steps, Step.planAll_singleton] at once ⊢
    refine Progress.of_step spares steady written ?_ lacks once
    intro key text same
    cases same
  | forget =>
    rw [Action.plan, Action.steps, Step.planAll_singleton] at once ⊢
    exact Progress.of_forget spares steady written lacks once
  | replace built failed tracked =>
    obtain ⟨r, rfl, -, -⟩ := Job.tracked?_eq tracked
    have awake := (k.found loaded).2
    rw [← rests.store] at awake
    have decides : (j.situation none).decide = .settled (.create (j.situation none).draft) :=
      Situation.decide_untracked built failed rfl
    exact Progress.of_replace spares steady written k answers awake decides free lacks once

theorem Progress.attempt (tidy : ∀ x ∈ (p.reconcile j s₀).2.told.opened, Tidy x.2.key)
    (sound : calm s₀.store) (h : Progress p face j s₀ s) :
    Progress p face j s₀ ((p.withFaults faults).reconcile j s).2 := by
  cases h with
  | before lacks =>
    rw [← lacks.store] at sound
    exact Progress.of_before spares steady written k answers sound lacks
  | between between => exact between.attempt spares steady written
  | after after short dropped ok =>
    exact Progress.of_after spares steady k answers tidy after short dropped ok

end Attempt

theorem Progress.finish {calm : σ → Prop} (k : Keeping p.store) (answers : Answering p.store calm)
    (steady : p.tracker.Steady face)
    (tidy : ∀ x ∈ (p.reconcile j s₀).2.told.opened, Tidy x.2.key) (h : Progress p face j s₀ s) :
    ∃ cs, (p.reconcile j s₀).2.Lacks face cs (p.reconcile j s).2 ∧ cs.length ≤ 1 ∧
      (cs ≠ [] → Dropped p j s₀) := by
  cases h with
  | before lacks =>
    exact ⟨[], (p.carry_lacks steady lacks j.plan (.inl rfl)).2, Nat.zero_le 1,
      fun any => absurd rfl any⟩
  | @between sc cs draft _ h =>
    have chosen := Parties.carry_choose_settled (congrArg Prod.fst h.missing) h.decides h.free
    have lacks := h.lacks.trans (Parties.lacks_load (congrArg Prod.snd h.missing))
    obtain ⟨-, created⟩ := p.carry_lacks steady lacks
      (Step.plan j.report.job j.report.number {} (.create draft))
      (.inr fun _ _ path => (Step.course path).mute)
    have finished := h.once.lacks.trans created
    rw [List.append_nil] at finished
    refine ⟨cs, ?_, h.short, fun _ => h.dropped⟩
    rw [Parties.reconcile, (Parties.carry_plan_ok chosen).1, Action.plan, Action.steps,
      Step.planAll_singleton]
    exact finished
  | @after cs _ after short dropped ok =>
    obtain ⟨rests, record, reason, settled⟩ := Progress.choose_after k answers tidy after ok
    refine ⟨cs, ?_, short, dropped⟩
    rw [Parties.reconcile, (Parties.carry_plan_ok settled).1]
    exact after.trans (Parties.lacks_load rests)

/-- The scene after attempts at a cycle, each with faults of its own. -/
def Parties.attempts (p : Parties τ σ) (j : Job) (faults : List Faults) (s : Scene τ σ) :
    Scene τ σ :=
  faults.foldl (fun s faults => ((p.withFaults faults).reconcile j s).2) s

theorem Progress.attempts {calm : σ → Prop} (k : Keeping p.store)
    (answers : Answering p.store calm) (steady : p.tracker.Steady face)
    (written : ∀ w ∈ (p.reconcile j s₀).2.told.written, w.ok = true)
    (tidy : ∀ x ∈ (p.reconcile j s₀).2.told.opened, Tidy x.2.key) (sound : calm s₀.store)
    {faults : List Faults} (spares : ∀ f ∈ faults, f.SparesWrites) (h : Progress p face j s₀ s) :
    Progress p face j s₀ (p.attempts j faults s) := by
  induction faults generalizing s with
  | nil => exact h
  | cons f faults ih =>
    have one := h.attempt (spares f List.mem_cons_self) steady written k answers tidy sound
    exact ih (fun f hf => spares f (List.mem_cons_of_mem _ hf)) one

end Progress

/-- Attempts with faults of the tracker and of the loading, and then one without, come to what a
single attempt without faults comes to: the same store and the same tickets. The comments are the
same, too, unless the last comment on a dropped ticket got lost. -/
theorem reconcile_retried {τ φ : Type} (t : Tracker τ) (face : τ → φ) (steady : t.Steady face)
    (b : Backend) (j : Job) (x : τ) (d : Depot) (sound : b.Calm d) (faults : List Faults)
    (spares : ∀ f ∈ faults, f.SparesWrites) :
    let p := Parties.mk t b.store
    let once := (p.reconcile j ⟨x, d, []⟩).2
    let many := (p.reconcile j (p.attempts j faults ⟨x, d, []⟩)).2
    (∀ w ∈ writes (exchanges once.log), w.ok = true) →
    (∀ o ∈ openings (exchanges once.log), Tidy o.2.key) →
    many.store = once.store ∧ face many.tracker = face once.tracker ∧
      openings (exchanges many.log) = openings (exchanges once.log) ∧
      (comments (exchanges many.log) = comments (exchanges once.log) ∨
        ∃ r, (b.store.load j.report.job d).1 = .ok (some r) ∧
          ⟨j.report.job, .clear, true⟩ ∈ writes (exchanges once.log) ∧
          comments (exchanges once.log) =
            comments (exchanges many.log) ++ [(r.key, j.build.forgotten)]) := by
  intro p once many written tidy
  have progress : Progress p face j ⟨x, d, []⟩ (p.attempts j faults ⟨x, d, []⟩) :=
    Progress.attempts b.keeping b.answering steady written tidy sound spares
      (.before (.refl face _))
  obtain ⟨cs, lacks, short, dropped⟩ := progress.finish b.keeping b.answering steady tidy
  have said : comments (exchanges once.log) = comments (exchanges many.log) ++ cs := lacks.said
  refine ⟨lacks.store, lacks.face, lacks.opened, ?_⟩
  obtain rfl | ⟨c, rfl⟩ : cs = [] ∨ ∃ c, cs = [c] := by
    match cs, short with
    | [], _ => exact .inl rfl
    | [c], _ => exact .inr ⟨c, rfl⟩
  · rw [List.append_nil] at said
    exact .inl said.symm
  · right
    have cleared : ⟨j.report.job, .clear, true⟩ ∈ writes (exchanges once.log) :=
      dropped (List.cons_ne_nil c [])
    obtain ⟨es, path, stored, -, logged⟩ := p.carry_spec j.plan ⟨x, d, []⟩
    have logged : exchanges once.log = es := logged
    rw [logged] at cleared said ⊢
    obtain ⟨r, rest, rfl, last⟩ := (Job.course path).last_said cleared rfl
    obtain ⟨mid, loaded, -⟩ := stored
    obtain rfl := last c (by rw [said]; exact List.mem_append_right _ List.mem_cons_self)
    exact ⟨r, congrArg Prod.fst loaded, cleared, said⟩

/-- A ticket was closed. The first attempt drops it without a word and gets no further, the second
one reads nothing. -/
theorem reconcile_retried_replaced :
    let p : Parties Board Depot := ⟨Board.tracker, Backend.table.store⟩
    let j := Job.plain "J" 8 .failure
    let past := (p.reconcile (.plain "J" 7 .failure) ⟨{}, {}, []⟩).2
    let board := past.tracker.setStatus "T-101" "Closed"
    let faults : List Faults := [
      fun
      | .comment => some (.failure (.commentFailed "T-101" "down" 503))
      | .create => some (.defect .badValue)
      | _ => none,
      fun | .load => some (.failure (.storeUnavailable "down" "J")) | _ => none]
    let once := (p.reconcile j ⟨board, past.store, []⟩).2
    let many := (p.reconcile j (p.attempts j faults ⟨board, past.store, []⟩)).2
    many.store = once.store ∧ (openings (exchanges many.log)).map (·.2.key) = ["T-102"] ∧
      comments (exchanges many.log) = [] ∧
      comments (exchanges once.log) = [("T-101", j.build.forgotten)] := by
  intro p j past board faults once many
  have spares : ∀ f ∈ faults, f.SparesWrites := by
    simp only [faults, List.mem_cons, List.not_mem_nil, or_false]
    rintro f (rfl | rfl) <;> exact ⟨rfl, rfl, rfl⟩
  have sound : Backend.table.Calm past.store := by
    change past.store.table.broken = false
    decide +kernel
  have written : ∀ w ∈ writes (exchanges once.log), w.ok = true := by decide +kernel
  have tidy : ∀ o ∈ openings (exchanges once.log), Tidy o.2.key := by decide +kernel
  have created : (openings (exchanges once.log)).map (·.2.key) = ["T-102"] := by decide +kernel
  have silent : comments (exchanges many.log) = [] := by decide +kernel
  have said : comments (exchanges once.log) = [("T-101", j.build.forgotten)] := by decide +kernel
  clear_value past board faults
  obtain ⟨store, -, opened, -⟩ := reconcile_retried Board.tracker id Board.steady .table j board
    past.store sound faults spares written tidy
  exact ⟨store, (congrArg _ opened).trans created, silent, said⟩

end TicketKeeper