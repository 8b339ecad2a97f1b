import TicketKeeper.Proofs.Cycle.Order
import TicketKeeper.Proofs.Cycle.Steady
import TicketKeeper.Proofs.Reading
import TicketKeeper.Proofs.Run

/-! Cycles that fail. The records are as they were before, unless a ticket was dropped and the one
in its place was not opened; and a cycle that fails before it acts has only read. -/
namespace TicketKeeper

open Store (Backend Depot)

theorem mem_writes_clear {job : String} {es : List Exchange} :
    ⟨job, .clear, true⟩ ∈ writes es ↔ ⟨.clear job, .ok ()⟩ ∈ es := by
  constructor
  · intro h
    obtain ⟨⟨c, reply⟩, he, written⟩ := List.mem_filterMap.mp h
    cases c with
    | clear other =>
      cases reply with
      | ok =>
        cases written
        exact he
      | error => cases written
    | save | markBuild | load | create | status | comment => cases written
  · intro h
    exact List.mem_filterMap.mpr ⟨_, h, rfl⟩

section Steps

variable {job : String} {n : Int} {done done' : Applied} {es : List Exchange}

theorem Farewell.writes_eq {key : String} {text : Option String} {r} (h : Farewell key text es r) :
    writes es = [] := by
  cases h <;> rfl

theorem Step.Course.writes_error {s : Step} {fault : Fault}
    (h : Course job n done s es (.error fault)) : ∀ w ∈ writes es, w.ok = false := by
  cases h with
  | uncreated | unsaved | unsaid | unmarked => simp [Exchange.written?, Except.isOk, Except.toBool]
  | kept farewell => simp [farewell.writes_eq]
  | uncleared farewell => simp [farewell.writes_eq, Exchange.written?, Except.isOk, Except.toBool]

/-- When an action fails, nothing was written, or a ticket was dropped and none opened in its place.
-/
theorem Action.writes_error {action : Action} {fault : Fault}
    (h : Step.Courses job n {} action.steps es (.error fault)) :
    (∀ w ∈ writes es, w.ok = false) ∨
      ∃ key text draft ws, action = .replace key text draft ∧
        writes es = ⟨job, .clear, true⟩ :: ws ∧ ∀ w ∈ ws, w.ok = false := by
  cases action with
  | idle => cases h
  | create | comment | forget => exact .inl h.singleton.writes_error
  | replace key text draft =>
    cases h with
    | stopped step => exact .inl step.writes_error
    | next step rest =>
      obtain ⟨last, -, told⟩ := step.tally_forgotten
      have written := congrArg Tally.written (told _ rest.singleton.mute)
      exact .inr ⟨key, text, draft, _, rfl, written, rest.singleton.writes_error⟩

end Steps

def Status.refusal? (extra : Status.Extra) : Except Fault String → Option Fault
  | .error fault => some fault
  | .ok raw => match project (.str raw) extra with
    | .error f => some (.failure f)
    | .ok _ => none

theorem Decision.Course.refused {extra : Status.Extra} {d : Decision} {es : List Exchange}
    {r : Except Fault Action} {key : String} {reply : Except Fault String} {fault : Fault}
    (h : d.Course extra es r) (asked : ⟨.status key, reply⟩ ∈ es)
    (refused : Status.refusal? extra reply = some fault) : r = .error fault := by
  cases h with
  | settled => cases asked
  | unanswered | unknown known | answered known =>
    cases List.mem_singleton.mp asked
    simp_all [Status.refusal?]

namespace Job

variable {j : Job} {es : List Exchange}

theorem Choice.writes_eq {r} (h : j.Choice es r) : writes es = [] := by
  obtain ⟨reply, asked, d, r', rfl, course⟩ := h.reads
  rw [writes_cons, show writes asked = [] from congrArg Tally.written course.tally_eq]
  rfl

theorem Choice.refused {r} {key : String} {reply : Except Fault String} {fault : Fault}
    (h : j.Choice es r) (asked : ⟨.status key, reply⟩ ∈ es)
    (refused : Status.refusal? j.extra reply = some fault) : r = .error fault := by
  cases h with
  | unread => simp at asked
  | undecided course =>
    apply congrArg
    have same := course.refused (by simpa using asked) refused
    exact Except.error.inj same
  | barred course | chosen course => cases course.refused (by simpa using asked) refused

/-- Reads the record and decides, but does not look whether the action can be applied. -/
def intend (j : Job) : Plan (Option Record × Action) := do
  let record ← Plan.ask (.load j.report.job)
  let action ← (j.situation record).decide.plan j.extra
  return (record, action)

theorem choose_eq (j : Job) : j.choose = do
    let (record, action) ← j.intend
    Plan.orFail (j.check action)
    return (record, action) := by
  rw [choose, intend, Plan.bind_assoc]
  congr 1
  funext record
  rw [Plan.bind_assoc]
  rfl

theorem check_missing {action : Action} (missing : action.draft?.any (·.projectKey = "")) :
    (j.check action = .error (.defect .badValue) ∧ Number.isWritable j.report.number = false) ∨
      j.check action =
        .error (.failure
          (.badRequest "project_key_required" [("job_name", .str j.report.job)])) := by
  have worded : action.isWorded = true := by
    cases action with
    | create | replace => rfl
    | idle | comment | forget => cases missing
  rw [check_eq, worded, if_pos missing]
  cases Number.isWritable j.report.number with
  | false => exact .inl ⟨rfl, rfl⟩
  | true => exact .inr rfl

end Job

section Outcome

variable {τ σ : Type} {p : Parties τ σ} {j : Job} {s s' : Scene τ σ} {record : Option Record}
  {action : Action} {fault : Fault}

namespace Parties

theorem carry_choose_of_intend (intended : p.carry j.intend s = (.ok (record, action), s')) :
    p.carry j.choose s = ((j.check action).map fun () => (record, action), s') := by
  rw [Job.choose_eq, carry_bind_ok intended]
  dsimp only
  cases j.check action <;> rfl

theorem carry_intend_of_choose (chosen : (p.carry j.choose s).1 = .ok (record, action)) :
    (p.carry j.intend s).1 = .ok (record, action) := by
  cases intended : p.carry j.intend s with
  | mk r s' =>
    cases r with
    | error fault =>
      rw [Job.choose_eq, carry_bind, intended] at chosen
      cases chosen
    | ok choice =>
      rw [carry_choose_of_intend intended] at chosen
      cases free : j.check choice.2 with
      | error => simp [free, Except.map] at chosen
      | ok => simpa [free, Except.map] using chosen

theorem reconcile_unsettled (failed : (p.carry j.choose s).1 = .error fault) :
    p.reconcile j s = (.error fault, (p.carry j.choose s).2) := carry_bind_error failed _

theorem reads_of_unsettled (unlogged : s.log = [])
    (failed : (p.carry j.choose s).1 = .error fault) :
    (p.reconcile j s).1 = .error fault ∧
      (kinds (exchanges (p.reconcile j s).2.log)).Sublist [.load, .status] := by
  obtain ⟨es, path, -, -, logged⟩ := p.carry_spec j.choose s
  rw [reconcile_unsettled failed, logged, unlogged]
  exact ⟨rfl, (Job.choice path).kinds⟩

theorem choose_refused {key : String} {reply : Except Fault String} (unlogged : s.log = [])
    (asked : ⟨.status key, reply⟩ ∈ exchanges (p.reconcile j s).2.log)
    (refused : Status.refusal? j.extra reply = some fault) :
    (p.carry j.choose s).1 = .error fault := by
  cases chosen : p.carry j.choose s with
  | mk r s' =>
    cases r with
    | error other =>
      obtain ⟨es, path, -, -, logged⟩ := p.carry_spec j.choose s
      rw [reconcile_unsettled (congrArg Prod.fst chosen), logged, unlogged] at asked
      rw [chosen] at path
      exact (Job.choice path).refused asked refused
    | ok choice =>
      obtain ⟨record, action⟩ := choice
      obtain ⟨es, es', ended, choice, courses, -, -, logged⟩ := reconcile_chosen chosen
      rw [logged, unlogged] at asked
      rcases List.mem_append.mp asked with asked | asked
      · exact choice.refused asked refused
      · -- The steps of an action ask for no status.
        have kind := courses.kinds.trans action.kinds_steps
        have := kind.subset (List.mem_map_of_mem asked)
        simp [Call.kind] at this

end Parties

namespace Parties

variable (k : Keeping p.store)

theorem rests_choose (j : Job) (s : Scene τ σ) : k.Rests s.store (p.carry j.choose s).2.store := by
  obtain ⟨es, path, stored, -, -⟩ := p.carry_spec j.choose s
  have rests := k.acts_of_replays stored
  rwa [(Job.choice path).writes_eq] at rests

/-- What a cycle that fails makes of the records: nothing, or its ticket is dropped and none is
opened in its place. -/
theorem acts_of_error (unlogged : s.log = []) (failed : (p.reconcile j s).1 = .error fault) :
    (k.Rests s.store (p.reconcile j s).2.store ∧
      ⟨.clear j.report.job, .ok ()⟩ ∉ exchanges (p.reconcile j s).2.log) ∨
    ∃ ws r key text draft, (p.carry j.intend s).1 = .ok (some r, .replace key text draft) ∧
      (p.store.load j.report.job s.store).1 = .ok (some r) ∧
      k.Acts (⟨j.report.job, .clear, true⟩ :: ws) s.store (p.reconcile j s).2.store ∧
      (∀ w ∈ ws, w.ok = false) ∧
      ⟨.clear j.report.job, .ok ()⟩ ∈ exchanges (p.reconcile j s).2.log := by
  have rests := rests_choose k j s
  cases chosen : p.carry j.choose s with
  | mk r s' =>
    cases r with
    | error other =>
      left
      have unsettled := congrArg Prod.fst chosen
      obtain ⟨-, reads⟩ := reads_of_unsettled unlogged unsettled
      refine ⟨by rwa [reconcile_unsettled unsettled], fun cleared => ?_⟩
      simpa [Call.kind] using reads.subset (List.mem_map_of_mem cleared)
    | ok choice =>
      obtain ⟨record, action⟩ := choice
      obtain ⟨es, es', ended, choice, courses, ends, stored, logged⟩ := reconcile_chosen chosen
      rw [chosen] at rests
      have acts := Keeping.Acts.of_rests rests (k.acts_of_replays stored)
      rw [logged, unlogged, ← mem_writes_clear, writes_append, writes_append, choice.writes_eq]
      rw [failed] at ends
      cases ended with
      | ok => cases ends
      | error other =>
        obtain refused | ⟨key, text, draft, ws, rfl, written, refused⟩ := Action.writes_error courses
        · left
          exact ⟨acts.rests_of_failed refused, fun cleared => by cases refused _ cleared⟩
        · right
          obtain ⟨leads, -, loaded⟩ := chosen_spec chosen
          obtain ⟨r, rfl, -, -⟩ := Job.tracked?_eq (leads.ticket List.mem_cons_self rfl)
          rw [written] at acts ⊢
          have intended := carry_intend_of_choose (congrArg Prod.fst chosen)
          exact ⟨ws, r, key, text, draft, intended, loaded, acts, refused, List.mem_cons_self⟩

end Parties

end Outcome

/-- When a cycle raises, the records of other jobs stand as before, and so does its own, except that
a ticket may have been dropped in whose place none was opened. A status that is not told and a
project that is missing end a cycle before it writes or posts anything. -/
theorem reconcile_error_keeps_records {τ : Type} (t : Tracker τ) (b : Backend) (faults : Faults)
    (j : Job) (x : τ) (d : Depot) :
    let p := (Parties.mk t b.store).withFaults faults
    let out := p.reconcile j ⟨x, d, []⟩
    let calls := exchanges out.2.log
    let intended := (p.carry j.intend ⟨x, d, []⟩).1
    (∀ fault, out.1 = .error fault →
      (∀ other, b.Separates j.report.job other →
        b.keeping.stands out.2.store other = b.keeping.stands d other) ∧
      (⟨.clear j.report.job, .ok ()⟩ ∉ calls →
        b.keeping.stands out.2.store j.report.job = b.keeping.stands d j.report.job) ∧
      (⟨.clear j.report.job, .ok ()⟩ ∈ calls →
        b.keeping.stands out.2.store j.report.job = none ∧
        ∃ record key text draft, intended = .ok (record, .replace key text draft))) ∧
    (∀ key reply fault, ⟨.status key, reply⟩ ∈ calls →
      Status.refusal? j.extra reply = some fault →
      out.1 = .error fault ∧ (kinds calls).Sublist [.load, .status]) ∧
    (∀ record action, intended = .ok (record, action) → action.draft?.any (·.projectKey = "") →
      (∃ fault, out.1 = .error fault ∧ (j.report.Accepted →
        fault = .failure (.badRequest "project_key_required" [("job_name", .str j.report.job)]))) ∧
      (kinds calls).Sublist [.load, .status]) := by
  intro p out calls intended
  let k : Keeping p.store := b.keeping.withFaults faults
  refine ⟨fun fault failed => ⟨?_, ?_⟩, ?_, ?_⟩
  · intro other apart
    obtain ⟨es, path, stored, -, -⟩ := p.carry_spec j.plan ⟨x, d, []⟩
    obtain ⟨record, account⟩ := (Job.course path).account k stored
    apply account.stands_apart
    change b.keeping.apart _ _
    rwa [b.keeping_apart]
  · rcases Parties.acts_of_error k rfl failed with ⟨rests, uncleared⟩ | replaced
    · refine ⟨fun _ => congrFun rests.1 _, fun cleared => absurd cleared uncleared⟩
    · obtain ⟨ws, r, key, text, draft, replace, loaded, acts, refused, cleared⟩ := replaced
      obtain ⟨mid, acts, -, vacant⟩ := acts.cleared (k.found loaded).2
      have rests := acts.rests_of_failed refused
      refine ⟨fun uncleared => absurd cleared uncleared, fun _ => ⟨?_, _, _, _, _, replace⟩⟩
      exact (congrFun rests.1 _).trans vacant
  · intro key reply fault asked refused
    exact Parties.reads_of_unsettled rfl (Parties.choose_refused rfl asked refused)
  · intro record action decided missing
    have chosen := congrArg Prod.fst (Parties.carry_choose_of_intend (Prod.ext decided rfl))
    rcases Job.check_missing missing with ⟨bar, unwritable⟩ | bar
    · rw [bar] at chosen
      obtain ⟨failed, reads⟩ := Parties.reads_of_unsettled rfl chosen
      refine ⟨⟨_, failed, fun accepted => ?_⟩, reads⟩
      rw [accepted.isWritable] at unwritable
      cases unwritable
    · rw [bar] at chosen
      obtain ⟨failed, reads⟩ := Parties.reads_of_unsettled rfl chosen
      exact ⟨⟨_, failed, fun _ => rfl⟩, reads⟩

/-- The ticket was dropped, but there was none to be opened in its place. -/
example :
    let p : Parties Board Depot := ⟨Board.tracker, Backend.table.store⟩
    let past := (p.reconcile (.plain "J" 7 .failure) ⟨{}, {}, []⟩).2
    let broken := p.withFaults fun | .create => some (.defect .badValue) | _ => none
    let out := broken.reconcile (.plain "J" 8 .failure)
      ⟨past.tracker.setStatus "T-101" "Closed", past.store, []⟩
    out.1.isOk = false ∧
      Backend.table.keeping.stands past.store "J" = some ⟨"T-101", some 7⟩ ∧
      Backend.table.keeping.stands out.2.store "J" = none := by
  decide +kernel

end TicketKeeper
