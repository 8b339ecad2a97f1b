import TicketKeeper.Proofs.Created
import TicketKeeper.Proofs.Rerun

/-! What a cycle reports. The result is not read back from the store: the ticket that it shows comes
from the record that was loaded at first and from what was done since. It is the truth all the same.
-/
namespace TicketKeeper

open Store (Backend Depot)
open TicketKeeper.Text (IsLine)

variable {σ : Type} {s : Store σ}

/-- A report on a cycle for a build that agrees with the records of the job before and after it and
with the calls that were made. -/
structure CycleResult.Tells (r : CycleResult) (n : Int) (before after : Option Record)
    (calls : List CallKind) : Prop where
  previous : r.previousTicket = before.map (·.key)
  ticket : r.ticket = after.map (·.key)
  created : r.applied.created.isSome ↔ .create ∈ calls
  saved {key} : r.applied.created = some key → after = some ⟨key, some n⟩
  forgotten : r.applied.forgotten.isSome ↔ .clear ∈ calls
  dropped {key} : r.applied.forgotten = some key → r.previousTicket = some key
  commented : r.applied.commented.isSome ↔ .markBuild ∈ calls
  marked {key} : r.applied.commented = some key →
    ∃ record, before = some record ∧ record.key = key ∧ after = some { record with build := some n }

namespace Applied

structure Counts (done done' : Applied) (calls : List CallKind) : Prop where
  created : done'.created.isSome ↔ done.created.isSome ∨ .create ∈ calls
  forgotten : done'.forgotten.isSome ↔ done.forgotten.isSome ∨ .clear ∈ calls
  commented : done'.commented.isSome ↔ done.commented.isSome ∨ .markBuild ∈ calls

theorem Counts.refl (done : Applied) : Counts done done [] := by constructor <;> simp

theorem Counts.trans {a b c : Applied} {calls more : List CallKind} (h : Counts a b calls)
    (h' : Counts b c more) : Counts a c (calls ++ more) where
  created := by rw [h'.created, h.created, List.mem_append, or_assoc]
  forgotten := by rw [h'.forgotten, h.forgotten, List.mem_append, or_assoc]
  commented := by rw [h'.commented, h.commented, List.mem_append, or_assoc]

/-- What an action has done for a build, and what it makes of the record of the job. -/
inductive Leaves (n : Int) (before : Option Record) : Applied → Option Record → Prop
  | nothing : Leaves n before {} before
  | created {key} : key ≠ "" → Leaves n before { created := some key } (some ⟨key, some n⟩)
  | commented {r} : before = some r →
    Leaves n before { commented := some r.key } (some { r with build := some n })
  | forgotten {r warnings} : before = some r → r.key ≠ "" →
    Leaves n before { forgotten := some r.key, warnings := warnings } none
  | replaced {r key warnings} : before = some r → key ≠ "" →
    Leaves n before { created := some key, forgotten := some r.key, warnings := warnings }
      (some ⟨key, some n⟩)

variable {n : Int} {before after : Option Record} {done : Applied}

theorem Leaves.trackedAfter (h : Leaves n before done after) :
    done.trackedAfter (before.map (·.key)) = after.map (·.key) := by
  cases h with
  | nothing => rfl
  | created named | replaced _ named => simp [Applied.trackedAfter, Option.filter, named]
  | commented known => rw [known]; rfl
  | forgotten _ named => simp [Applied.trackedAfter, Option.filter, named]

theorem Leaves.tells (h : Leaves n before done after) {calls : List CallKind}
    (counts : Counts {} done calls) (j : Job) (action : Action) :
    (j.result before action done).Tells n before after calls where
  previous := rfl
  ticket := h.trackedAfter
  created := counts.created.trans (or_iff_right Bool.false_ne_true)
  saved := by cases h <;> simp [Job.result]
  forgotten := counts.forgotten.trans (or_iff_right Bool.false_ne_true)
  dropped := by cases h <;> simp_all [Job.result, Job.situation]
  commented := counts.commented.trans (or_iff_right Bool.false_ne_true)
  marked := by cases h <;> simp_all [Job.result]

end Applied

namespace Keeping

variable {k : Keeping s} {job : String} {st : σ} {record : Option Record}

def Shows (k : Keeping s) (st : σ) (job : String) (record : Option Record) : Prop :=
  k.awake st job ∧ k.stands st job = record

theorem Shows.eq_of_load (h : k.Shows st job record) {r : Option Record}
    (loaded : (s.load job st).1 = .ok r) : r = record := by
  cases r with
  | none => rw [← h.2, k.missing loaded h.1]
  | some r => rw [← h.2, (k.found loaded).1]

theorem Shows.of_rests {st' : σ} (h : k.Shows st job record) (rests : k.Rests st st') :
    k.Shows st' job record :=
  ⟨rests.2 job h.1, (congrFun rests.1 job).trans h.2⟩

end Keeping

namespace Step

variable {job : String} {n : Int} {done done' : Applied} {es : List Exchange} {st st' : σ}
  {k : Keeping s} {r : Record}

theorem Course.counts {step : Step} (h : Course job n done step es (.ok done')) :
    done.Counts done' (TicketKeeper.kinds es) := by
  cases h with
  | created | commented => constructor <;> simp [Call.kind]
  | @forgotten _ _ said _ farewell =>
    have quiet : ∀ kind, kind ≠ .comment → kind ∉ TicketKeeper.kinds said := fun kind other hkind =>
      other (List.mem_singleton.mp (farewell.kinds.subset hkind))
    constructor <;> simp [Call.kind, quiet]

theorem Courses.counts {steps : List Step} (h : Courses job n done steps es (.ok done')) :
    done.Counts done' (TicketKeeper.kinds es) := by
  generalize given : (.ok done' : Except Fault Applied) = r at h
  induction h with
  | done =>
    cases given
    exact .refl _
  | stopped => cases given
  | next step _ ih =>
    rw [kinds_append]
    exact step.counts.trans (ih given)

theorem Course.shows_created {draft : Draft} (k : Keeping s)
    (h : Course job n done (.create draft) es (.ok done'))
    (sound : ∀ x ∈ openings es, Tidy x.2.key ∧ IsLine x.2.key.toList)
    (replays : s.Replays es st st') :
    ∃ key, done' = { done with created := some key } ∧ key ≠ "" ∧
      k.Shows st' job (some ⟨key, some n⟩) := by
  cases h with
  | @created _ issue =>
    obtain ⟨tidy, line⟩ := sound (draft.form, issue) List.mem_cons_self
    obtain ⟨mid, shown, rests, awake, stands, named, same⟩ := (k.acts_of_replays replays).saved tidy
    obtain rfl := same line
    exact ⟨_, rfl, named, Keeping.Shows.of_rests ⟨awake, stands⟩ rests⟩

theorem Course.shows_commented {key text : String}
    (h : Course job n done (.comment key text) es (.ok done')) (known : k.Shows st job (some r))
    (replays : s.Replays es st st') :
    done' = { done with commented := some key } ∧
      k.Shows st' job (some { r with build := some n }) := by
  cases h with
  | commented =>
    obtain ⟨mid, rests, awake, stands⟩ := (k.acts_of_replays replays).marked known.1 known.2
    exact ⟨rfl, Keeping.Shows.of_rests ⟨awake, stands⟩ rests⟩

theorem Course.shows_forgotten {key : String} {text : Option String}
    (h : Course job n done (.forget key text) es (.ok done')) (known : k.Shows st job (some r))
    (replays : s.Replays es st st') :
    ∃ warnings, done' = { done with forgotten := some key, warnings := warnings } ∧
      k.Shows st' job none := by
  have cleared : (s.clear job st) = (.ok (), st') := h.cleared_store replays
  have shown : k.Shows st' job none := by
    have awake : k.awake (s.write job .clear st).2 job := k.awake_write .clear known.1
    have stands := k.clear_ok (congrArg Prod.fst cleared) known.1
    rw [Store.write, cleared] at awake
    rw [cleared] at stands
    exact ⟨awake, stands⟩
  cases h with
  | forgotten => exact ⟨_, rfl, shown⟩

/-- What the steps of an action have done, and what they make of the record of the job. -/
theorem Courses.leaves {j : Job} {before : Option Record} {action : Action}
    (leads : (j.situation before).Leads action) (any : action.steps ≠ [])
    (h : Courses j.report.job n {} action.steps es (.ok done))
    (found : ∀ r, before = some r → k.Shows st j.report.job (some r))
    (sound : ∀ x ∈ openings es, Tidy x.2.key ∧ IsLine x.2.key.toList)
    (replays : s.Replays es st st') :
    ∃ after, done.Leaves n before after ∧ k.Shows st' j.report.job after := by
  cases leads with
  | idle => exact absurd rfl any
  | create =>
    obtain ⟨key, rfl, named, shown⟩ := h.singleton.shows_created k sound replays
    exact ⟨_, .created named, shown⟩
  | comment _ tracked =>
    obtain ⟨r, known, rfl, named⟩ := Job.tracked?_eq tracked
    obtain ⟨rfl, shown⟩ := h.singleton.shows_commented (found r known) replays
    exact ⟨_, .commented known, shown⟩
  | forget _ tracked =>
    obtain ⟨r, known, rfl, named⟩ := Job.tracked?_eq tracked
    obtain ⟨warnings, rfl, shown⟩ := h.singleton.shows_forgotten (found r known) replays
    exact ⟨_, .forgotten known named, shown⟩
  | replace _ _ tracked =>
    obtain ⟨r, known, rfl, named⟩ := Job.tracked?_eq tracked
    cases h with
    | next step rest =>
      obtain ⟨mid, forgot, onward⟩ := Store.replays_append.mp replays
      obtain ⟨warnings, rfl, -⟩ := step.shows_forgotten (found r known) forgot
      obtain ⟨key, rfl, named, shown⟩ :=
        rest.singleton.shows_created k (fun x hx => sound x (by simp [hx])) onward
      exact ⟨_, .replaced known named, shown⟩

end Step

section Told

variable {calm : σ → Prop} {j : Job} {es : List Exchange} {st st' : σ}

/-- A cycle that ends well tells the truth about the record of its job. -/
theorem Job.Course.tells {r : CycleResult} (k : Keeping s) (answers : Answering s calm)
    (h : j.Course es (.ok r)) (sound : ∀ x ∈ openings es, Tidy x.2.key ∧ IsLine x.2.key.toList)
    (replays : s.Replays es st st') :
    ∃ before after, (s.load j.report.job st).1 = .ok before ∧
      (s.load j.report.job st').1 = .ok after ∧
      r.Tells j.report.number before after (TicketKeeper.kinds es) := by
  cases h with
  | @applied front before action steps done choice courses =>
  have counts : Applied.Counts {} done (TicketKeeper.kinds (front ++ steps)) := by
    have quiet : ∀ kind, kind ≠ .load → kind ≠ .status → kind ∉ TicketKeeper.kinds front :=
      fun kind load status hkind => by simpa [load, status] using choice.kinds.subset hkind
    have counts := courses.counts
    constructor <;> simp [quiet, counts.created, counts.forgotten, counts.commented]
  obtain ⟨loaded, onward⟩ := choice.replays k replays
  cases choice with
  | chosen course =>
  refine ⟨before, ?_⟩
  by_cases any : action.steps = []
  · -- Nothing was done, and the record is still the one that was loaded.
    rw [any] at courses
    cases courses
    cases onward
    exact ⟨before, congrArg Prod.fst loaded, congrArg Prod.fst loaded,
      Applied.Leaves.nothing.tells counts j action⟩
  · have found : ∀ r, before = some r → k.Shows st j.report.job (some r) := by
      rintro r rfl
      exact (k.found (congrArg Prod.fst loaded)).symm
    obtain ⟨after, leaves, shown⟩ := courses.leaves (Situation.leads_of_course course) any found
      (fun x hx => sound x (by simp [hx])) onward
    obtain ⟨record, loaded'⟩ := courses.loads any k answers onward
    have loaded' := congrArg Prod.fst loaded'
    obtain rfl := shown.eq_of_load loaded'
    exact ⟨record, congrArg Prod.fst loaded, loaded', leaves.tells counts j action⟩

end Told

/-- The result of a cycle is the truth about the store: the tickets before and after the cycle are
those of the records that can be loaded then, and what is reported to be done has been done. -/
theorem reconcile_tells_store {τ : Type} (t : Tracker τ) (b : Backend) (j : Job) (x : τ) (d : Depot)
    (r : CycleResult) (scene : Scene τ Depot)
    (ended : (Parties.mk t b.store).reconcile j ⟨x, d, []⟩ = (.ok r, scene))
    (sound : ∀ x ∈ openings (exchanges scene.log), Tidy x.2.key ∧ IsLine x.2.key.toList) :
    ∃ before after, (b.store.load j.report.job d).1 = .ok before ∧
      (b.store.load j.report.job scene.store).1 = .ok after ∧
      r.Tells j.report.number before after (kinds (exchanges scene.log)) := by
  obtain ⟨es, path, stored, -, logged⟩ := (Parties.mk t b.store).carry_spec j.plan ⟨x, d, []⟩
  have ended : (Parties.mk t b.store).carry j.plan ⟨x, d, []⟩ = (.ok r, scene) := ended
  rw [ended] at path stored logged
  have logged : exchanges scene.log = es := logged
  rw [logged] at sound ⊢
  exact (Job.course path).tells b.keeping b.answering sound stored

/-- In a directory a closed ticket is replaced. -/
theorem reconcile_tells_store_replaced :
    let b := Backend.files []
    let p : Parties Board Depot := ⟨Board.tracker, b.store⟩
    let before := (p.reconcile (.plain "J" 7 .failure) ⟨{}, {}, []⟩).2
    let closed := Board.setStatus "T-101" "Closed" before.tracker
    let out := p.reconcile (.plain "J" 8 .failure) ⟨closed, before.store, []⟩
    ∃ r, out.1 = .ok r ∧ r.applied = { created := some "T-102", forgotten := some "T-101" } ∧
      r.previousTicket = some "T-101" ∧ r.ticket = some "T-102" ∧
      (b.store.load "J" out.2.store).1 = .ok (some ⟨"T-102", some 8⟩) := by
  intro b p before closed out
  have applied : out.1.toOption.map (·.applied) =
      some { created := some "T-102", forgotten := some "T-101" } := by decide +kernel
  have sound : ∀ x ∈ openings (exchanges out.2.log), Tidy x.2.key ∧ IsLine x.2.key.toList := by
    decide +kernel
  have ran : p.reconcile (.plain "J" 8 .failure) ⟨closed, before.store, []⟩ = out := rfl
  clear_value out closed before
  obtain ⟨result, scene⟩ := out
  cases result with
  | error => cases applied
  | ok r =>
    have applied : r.applied = _ := Option.some.inj applied
    obtain ⟨_, after, -, loaded, tells⟩ := reconcile_tells_store _ b _ _ _ r scene ran sound
    obtain rfl := tells.saved (congrArg Applied.created applied)
    have previous := tells.dropped (congrArg Applied.forgotten applied)
    exact ⟨r, rfl, applied, previous, tells.ticket, loaded⟩

end TicketKeeper
