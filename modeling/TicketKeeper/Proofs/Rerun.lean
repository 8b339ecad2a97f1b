import TicketKeeper.Proofs.Cycle.Steady
import TicketKeeper.Proofs.OncePerBuild

/-! A cycle that has ended well is done with: run again it reads the record, finds nothing to do,
and asks the tracker nothing. -/
namespace TicketKeeper

open Store (Backend Depot)

namespace Situation

variable {s : Situation}

def Idles (s : Situation) : Prop := ∃ reason, s.decide = .settled (.idle reason)

theorem idles_of_alreadyApplied (h : s.alreadyApplied = true) : s.Idles := by
  unfold Idles decide
  split
  · exact ⟨_, rfl⟩
  split
  · exact ⟨_, rfl⟩
  · exact ⟨_, rfl⟩

theorem settled_of_idle {extra : Status.Extra} {es reason}
    (h : s.decide.Course extra es (.ok (.idle reason))) : s.decide = .settled (.idle reason) := by
  generalize made : s.decide = d at h
  generalize given : Action.idle reason = action at h
  cases h with
  | settled => rfl
  | @answered _ _ _ status =>
    exfalso
    simp only [decide, onFailure, onSuccess] at made
    grind

theorem idles_of_untracked (h : s.tracked? = none) (passed : s.outcome = .success) : s.Idles := by
  unfold Idles decide
  split
  · exact ⟨_, rfl⟩
  split
  · exact ⟨_, rfl⟩
  split
  · exact ⟨_, rfl⟩
  simp [passed, onSuccess, h]

end Situation

namespace Job

variable {j : Job}

theorem idles_of_marked {r : Record} (named : r.key ≠ "") (marked : r.build = some j.report.number) :
    (j.situation (some r)).Idles := by
  apply Situation.idles_of_alreadyApplied
  simp [Situation.alreadyApplied, Situation.tracked?, situation, build, named, marked]

theorem idles_of_missing (passed : j.report.outcome = .success) : (j.situation none).Idles :=
  Situation.idles_of_untracked rfl passed

end Job

namespace Step

variable {job : String} {n : Int} {done done' : Applied} {es : List Exchange}

theorem Course.last_written {s : Step} (h : Course job n done s es (.ok done')) :
    ∃ front e w, es = front ++ [e] ∧ e.written? = some ⟨job, w, true⟩ := by
  cases h with
  | created => exact ⟨[_], _, _, rfl, rfl⟩
  | commented => exact ⟨[_], _, _, rfl, rfl⟩
  | forgotten => exact ⟨_, _, _, rfl, rfl⟩

theorem Courses.last_written {steps : List Step} (h : Courses job n done steps es (.ok done'))
    (any : steps ≠ []) : ∃ front e w, es = front ++ [e] ∧ e.written? = some ⟨job, w, true⟩ := by
  generalize given : (.ok done' : Except Fault Applied) = r at h
  induction h with
  | done => exact absurd rfl any
  | stopped => cases given
  | @next _ _ rest es _ es' _ step courses ih =>
    cases rest with
    | nil =>
      cases courses
      rw [List.append_nil]
      exact step.last_written
    | cons s rest =>
      obtain ⟨front, e, w, rfl, written⟩ := ih (List.cons_ne_nil s rest) given
      exact ⟨es ++ front, e, w, (List.append_assoc ..).symm, written⟩

theorem Courses.loads {σ : Type} {s : Store σ} {calm : σ → Prop} {st st' : σ} {steps : List Step}
    (h : Courses job n done steps es (.ok done')) (any : steps ≠ []) (k : Keeping s)
    (answers : Answering s calm) (replays : s.Replays es st st') :
    ∃ record, s.load job st' = (.ok record, st') := by
  obtain ⟨front, e, w, rfl, written⟩ := h.last_written any
  obtain ⟨before, -, after, served, rfl⟩ := Store.replays_append.mp replays
  obtain ⟨ok, next⟩ := Store.write_of_serves served written
  obtain ⟨record, loaded⟩ := answers.write_ok (Keeping.ok_of_isOk ok)
  rw [next] at loaded
  exact ⟨record, Prod.ext loaded (k.load_ok loaded)⟩

end Step

namespace Parties

variable {τ σ : Type} (p : Parties τ σ) {j : Job} (scene : Scene τ σ) {record : Option Record}

theorem reconcile_idle {reason : IdleReason}
    (idle : (j.situation record).decide = .settled (.idle reason))
    (loaded : p.store.load j.report.job scene.store = (.ok record, scene.store)) :
    p.reconcile j scene = (.ok (j.result record (.idle reason) {}),
      { scene with log := scene.log ++ [.call (.load j.report.job) (.ok record)] }) := by
  have chosen := carry_choose_settled (congrArg Prod.fst loaded) idle rfl
  have load : (p.call (.load j.report.job) scene).2 =
      { scene with log := scene.log ++ [.call (.load j.report.job) (.ok record)] } := by
    simp [call, Cycle.onStore, loaded]
  rw [reconcile, Job.plan, carry_bind_ok chosen, load]
  rfl

end Parties

section Settled

variable {σ : Type} {s : Store σ} {calm : σ → Prop} {j : Job} {es : List Exchange} {st st' : σ}

namespace Job

/-- What the steps of an action leave behind: a record that is marked with the build, or none after
a success. -/
theorem settled_of_courses {k : Keeping s} {record : Option Record} {action : Action} {applied}
    (leads : (j.situation record).Leads action) (any : action.steps ≠ [])
    (h : Step.Courses j.report.job j.report.number {} action.steps es (.ok applied))
    (tidy : ∀ x ∈ openings es, Tidy x.2.key)
    (found : ∀ r, record = some r → k.stands st j.report.job = some r ∧ k.awake st j.report.job)
    (replays : s.Replays es st st') :
    k.Marked st' j.report.job j.report.number ∨
      (j.report.outcome = .success ∧ k.Vacant st' j.report.job) := by
  have acts := k.acts_of_replays replays
  cases leads with
  | idle => exact absurd rfl any
  | create =>
    cases h.singleton with
    | created => exact .inl (Account.marked_of_saved acts (tidy _ List.mem_cons_self))
  | comment _ tracked =>
    obtain ⟨r, hr, rfl, named⟩ := tracked?_eq tracked
    obtain ⟨stands, awake⟩ := found r hr
    cases h.singleton with
    | commented =>
      obtain ⟨mid, rests, awake, stands⟩ := acts.marked awake stands
      have stands := (congrFun rests.1 _).trans stands
      exact .inl ⟨rests.2 _ awake, _, stands, named, rfl⟩
  | forget passed tracked =>
    obtain ⟨r, hr, rfl, -⟩ := tracked?_eq tracked
    obtain ⟨last, -, told⟩ := h.singleton.tally_forgotten
    rw [← List.append_nil es, Account.written_eq (told [] rfl)] at acts
    obtain ⟨mid, rests, vacant⟩ := acts.cleared (found r hr).2
    exact .inr ⟨passed, Account.vacant_of_rests rests vacant⟩
  | replace _ _ tracked =>
    obtain ⟨r, hr, rfl, -⟩ := tracked?_eq tracked
    cases h with
    | next step rest =>
      obtain ⟨last, -, told⟩ := step.tally_forgotten
      cases rest.singleton with
      | created =>
        rw [Account.written_eq (told _ rfl)] at acts
        rw [Account.opened_eq (told _ rfl)] at tidy
        obtain ⟨mid, acts, -⟩ := acts.cleared (found r hr).2
        exact .inl (Account.marked_of_saved acts (tidy _ List.mem_cons_self))

theorem idles_of_settled {k : Keeping s} {record : Option Record}
    (settled : k.Marked st j.report.job j.report.number ∨
      (j.report.outcome = .success ∧ k.Vacant st j.report.job))
    (loaded : (s.load j.report.job st).1 = .ok record) : (j.situation record).Idles := by
  cases record with
  | none =>
    obtain ⟨awake, r, stands, -⟩ | ⟨passed, -⟩ := settled
    · rw [k.missing loaded awake] at stands
      cases stands
    · exact idles_of_missing passed
  | some r =>
    have stands := (k.found loaded).1
    obtain ⟨-, r', stands', named, marked⟩ | ⟨-, -, stands'⟩ := settled
    · obtain rfl := Option.some.inj (stands.symm.trans stands')
      exact idles_of_marked named marked
    · rw [stands'] at stands
      cases stands

/-- After a cycle that has ended well, the record of the job can be loaded, and with it there is
nothing to do. -/
theorem Course.settled {r : CycleResult} (k : Keeping s) (answers : Answering s calm)
    (h : j.Course es (.ok r)) (tidy : ∀ x ∈ openings es, Tidy x.2.key)
    (replays : s.Replays es st st') :
    ∃ record, s.load j.report.job st' = (.ok record, st') ∧ (j.situation record).Idles := by
  cases h with
  | @applied _ record action steps _ choice courses =>
  obtain ⟨loaded, onward⟩ := choice.replays k replays
  cases choice with
  | chosen course =>
  by_cases any : action.steps = []
  · -- The action is idle, and the record is still the one that was loaded.
    rw [any] at courses
    cases courses
    cases onward
    refine ⟨record, loaded, ?_⟩
    cases action with
    | idle reason => exact ⟨reason, Situation.settled_of_idle course⟩
    | create | comment | forget | replace => cases any
  · have found : ∀ r, record = some r → k.stands st j.report.job = some r ∧
        k.awake st j.report.job := by
      rintro r rfl
      exact k.found (congrArg Prod.fst loaded)
    have tidy : ∀ x ∈ openings steps, Tidy x.2.key := fun x hx => tidy x (by simp [hx])
    have settled := settled_of_courses (Situation.leads_of_course course) any courses tidy found
      onward
    obtain ⟨record', loaded'⟩ := courses.loads any k answers onward
    exact ⟨record', loaded', idles_of_settled settled (congrArg Prod.fst loaded')⟩

end Job

end Settled

/-- A cycle that has ended well is idempotent: whatever has become of the tracker, a second one
makes no call but to load the record, leaves everything as it is, and reports the ticket of that
record. -/
theorem reconcile_again_idle {τ : Type} (t t' : Tracker τ) (b : Backend) (j : Job) (x now : τ)
    (d : Depot) (r : CycleResult) (scene : Scene τ Depot)
    (first : (Parties.mk t b.store).reconcile j ⟨x, d, []⟩ = (.ok r, scene))
    (tidy : ∀ x ∈ openings (exchanges scene.log), Tidy x.2.key) :
    ∃ again reason record,
      (Parties.mk t' b.store).reconcile j { scene with tracker := now } =
        (.ok again, { scene with
          tracker := now
          log := scene.log ++ [.call (.load j.report.job) (.ok record)] }) ∧
      again.action = .idle reason ∧
      (b.store.load j.report.job scene.store).1 = .ok record ∧
      again.ticket = record.map (·.key) := by
  obtain ⟨es, path, stored, -, logged⟩ :=
    (Parties.mk t b.store).carry_spec j.plan ⟨x, d, []⟩
  have first : (Parties.mk t b.store).carry j.plan ⟨x, d, []⟩ = (.ok r, scene) := first
  rw [first] at path stored logged
  rw [logged] at tidy
  obtain ⟨record, loaded, reason, idle⟩ :=
    (Job.course path).settled b.keeping b.answering tidy stored
  have second := (Parties.mk t' b.store).reconcile_idle { scene with tracker := now } idle loaded
  exact ⟨_, reason, record, second, rfl, congrArg Prod.fst loaded, rfl⟩

/-- A ticket was opened, and was closed before the cycle is run again. -/
theorem reconcile_again_idle_closed :
    let p : Parties Board Depot := ⟨Board.tracker, Backend.table.store⟩
    let j := Job.plain "J" 7 .failure
    let first := p.reconcile j ⟨{}, {}, []⟩
    ∃ r, first.1 = .ok r ∧ r.ticket = some "T-101" ∧ ∃ again reason,
      (p.reconcile j { first.2 with tracker := .setStatus "T-101" "Closed" first.2.tracker }).1 =
        .ok again ∧ again.action = .idle reason := by
  intro p j first
  have ticket : first.1.toOption.bind (·.ticket) = some "T-101" := by decide +kernel
  obtain ⟨r, ok⟩ : ∃ r, first.1 = .ok r := by
    cases h : first.1 with
    | ok r => exact ⟨r, rfl⟩
    | error => rw [h] at ticket; cases ticket
  rw [ok] at ticket
  obtain ⟨again, reason, _, second, idle, -⟩ := reconcile_again_idle Board.tracker Board.tracker
    .table j {} (.setStatus "T-101" "Closed" first.2.tracker) {} r first.2 (Prod.ext ok rfl)
    (by decide +kernel)
  exact ⟨r, ok, ticket, again, reason, congrArg Prod.fst second, idle⟩

end TicketKeeper
