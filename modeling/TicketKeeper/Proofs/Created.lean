import TicketKeeper.Proofs.Cycle.Order
import TicketKeeper.Proofs.Run
import TicketKeeper.Proofs.Store.Healthy

/-! Tickets that were created. A healthy store has the record of a ticket that was created, unless
it cannot hold the number of the build; then the cycle faults, and the ticket is lost. -/
namespace TicketKeeper

open Store (Backend Depot)
open TicketKeeper.Text (IsLine)

variable {σ : Type} {s : Store σ} {st mid st' : σ} {es : List Exchange} {form : IssueForm}
  {issue : Issue}

theorem mem_openings : (form, issue) ∈ openings es ↔ ⟨.create form, .ok issue⟩ ∈ es := by
  constructor
  · intro h
    obtain ⟨⟨c, reply⟩, he, opened⟩ := List.mem_filterMap.mp h
    cases c with
    | create form' =>
      cases reply with
      | ok =>
        cases opened
        exact he
      | error => cases opened
    | load | save | markBuild | clear | status | comment => cases opened
  · intro h
    exact List.mem_filterMap.mpr ⟨_, h, rfl⟩

theorem Farewell.replays {key : String} {text : Option String} {r}
    (h : Farewell key text es r) (replays : s.Replays es st st') : st' = st := by
  cases h with
  | none | empty => exact replays
  | said | refused | broken =>
    obtain ⟨mid, rfl, rfl⟩ := replays
    rfl

namespace Step

variable {job : String} {n : Int} {done done' : Applied}

theorem Course.saved {draft : Draft} {r} (h : Course job n done (.create draft) es r)
    (created : ⟨.create form, .ok issue⟩ ∈ es) (replays : s.Replays es st st') :
    ∃ reply, s.save job (some issue.key) (some n) st = (reply, st') ∧ r.isOk = reply.isOk := by
  cases h with
  | uncreated => simp at created
  | unsaved | created =>
    obtain ⟨-, rfl⟩ : form = draft.form ∧ issue = _ := by simpa using created
    obtain ⟨_, rfl, _, saved, rfl⟩ := replays
    exact ⟨_, saved, rfl⟩

theorem Course.cleared_store {key : String} {text : Option String}
    (h : Course job n done (.forget key text) es (.ok done')) (replays : s.Replays es st st') :
    s.clear job st = (.ok (), st') := by
  cases h with
  | forgotten farewell =>
    obtain ⟨mid, said, _, cleared, rfl⟩ := Store.replays_append.mp replays
    rw [farewell.replays said] at cleared
    exact cleared

theorem Course.not_created {step : Step} {r} (h : Course job n done step es r)
    (other : .create ∉ step.kinds) (created : ⟨.create form, .ok issue⟩ ∈ es) : False :=
  other (h.kinds.subset (List.mem_map_of_mem created))

/-- An action that creates a ticket saves it at once, in the store as it was before, or as it is
when another ticket has been dropped. -/
theorem Courses.saved {action : Action} {r} (h : Courses job n {} action.steps es r)
    (created : ⟨.create form, .ok issue⟩ ∈ es) (replays : s.Replays es st st') :
    action.isWorded = true ∧ ∃ before reply, (before = st ∨ s.clear job st = (.ok (), before)) ∧
      s.save job (some issue.key) (some n) before = (reply, st') ∧ r.isOk = reply.isOk := by
  cases action with
  | idle =>
    cases h
    cases created
  | comment | forget => exact (h.singleton.not_created (by simp [Step.kinds]) created).elim
  | create draft =>
    obtain ⟨reply, saved, same⟩ := h.singleton.saved created replays
    exact ⟨rfl, st, reply, .inl rfl, saved, same⟩
  | replace key text draft =>
    cases h with
    | stopped step => exact (step.not_created (by simp [Step.kinds]) created).elim
    | next step rest =>
      obtain ⟨mid, forgot, onward⟩ := Store.replays_append.mp replays
      rcases List.mem_append.mp created with created | created
      · exact (step.not_created (by simp [Step.kinds]) created).elim
      · obtain ⟨reply, saved, same⟩ := rest.singleton.saved created onward
        exact ⟨rfl, mid, reply, .inr (step.cleared_store forgot), saved, same⟩

end Step

namespace Job

variable {j : Job}

theorem isWritable_of_check {action : Action} (worded : action.isWorded = true)
    (free : j.check action = .ok ()) : Number.isWritable j.report.number = true := by
  by_contra unwritable
  rw [Bool.not_eq_true] at unwritable
  rw [check_eq, worded, unwritable] at free
  cases free

theorem Course.saved {r} (h : j.Course es r) (k : Keeping s)
    (created : ⟨.create form, .ok issue⟩ ∈ es) (replays : s.Replays es st st') :
    (∃ record, (s.load j.report.job st).1 = .ok record) ∧
      Number.isWritable j.report.number = true ∧
      ∃ before reply, (before = st ∨ s.clear j.report.job st = (.ok (), before)) ∧
        s.save j.report.job (some issue.key) (some j.report.number) before = (reply, st') ∧
        r.isOk = reply.isOk := by
  have unread {es' r'} (choice : j.Choice es' r') : ⟨.create form, .ok issue⟩ ∉ es' := by
    intro created
    have := choice.kinds.subset (List.mem_map_of_mem created)
    simp [Call.kind] at this
  cases h with
  | unsettled choice => exact absurd created (unread choice)
  | @stopped _ _ _ _ _ choice courses | @applied _ _ _ _ _ choice courses =>
    have opened := (List.mem_append.mp created).resolve_left (unread choice)
    obtain ⟨loaded, taken⟩ := choice.replays k replays
    cases choice with
    | chosen course free =>
      obtain ⟨worded, saved⟩ := courses.saved opened taken
      exact ⟨⟨_, congrArg Prod.fst loaded⟩, isWritable_of_check worded free, saved⟩

end Job

theorem Store.Backend.load_saved (b : Backend) {job key : String} {n : Int} {d d' : Depot}
    (saved : b.store.save job (some key) (some n) d = (.ok (), d')) (tidy : Tidy key)
    (line : IsLine key.toList) : (b.store.load job d').1 = .ok (some ⟨key, some n⟩) := by
  have ok := congrArg Prod.fst saved
  obtain ⟨awake, shown, stands, -, same⟩ := b.keeping.save_ok ok tidy
  obtain ⟨r, loaded⟩ := b.answering.write_ok (w := .save (some key) (some n)) ok
  rw [Store.write, saved] at loaded
  rw [saved] at awake stands
  cases r with
  | none =>
    rw [b.keeping.missing loaded awake] at stands
    cases stands
  | some r =>
    rw [(b.keeping.found loaded).1] at stands
    rw [loaded, stands, same line]

/-- On a healthy store a ticket that was created is tracked, and the cycle ends well, if the store
can hold the number of the build, and only then. -/
theorem reconcile_created_iff {τ : Type} (t : Tracker τ) (b : Backend) (j : Job) (x : τ) (d : Depot)
    (healthy : b.Healthy d) (form : IssueForm) (issue : Issue) (tidy : Tidy issue.key)
    (line : IsLine issue.key.toList) :
    let out := (Parties.mk t b.store).reconcile j ⟨x, d, []⟩
    (form, issue) ∈ openings (exchanges out.2.log) →
      ((∃ r, out.1 = .ok r) ∧ (b.store.load j.report.job out.2.store).1 =
        .ok (some ⟨issue.key, some j.report.number⟩) ↔ b.Holds j.report.number) := by
  intro out created
  obtain ⟨es, path, stored, -, logged⟩ := (Parties.mk t b.store).carry_spec j.plan ⟨x, d, []⟩
  have logged : exchanges out.2.log = es := logged
  rw [logged, mem_openings] at created
  obtain ⟨⟨record, loaded⟩, writable, before, reply, start, saved, ends⟩ :=
    (Job.course path).saved b.keeping created stored
  have ready : b.Healthy before ∧ ∃ r, (b.store.load j.report.job before).1 = .ok r := by
    rcases start with rfl | cleared
    · exact ⟨healthy, record, loaded⟩
    · have ok : (b.store.write j.report.job .clear d).1 = .ok () := congrArg Prod.fst cleared
      obtain ⟨r, after⟩ := b.answering.write_ok ok
      refine ⟨healthy.clear cleared, r, ?_⟩
      rwa [Store.write, cleared] at after
  obtain ⟨healthy, r, loaded⟩ := ready
  have holds := healthy.save_ok_iff loaded issue.key writable
  rw [← holds]
  rw [saved]
  change out.1.isOk = _ at ends
  change b.store.save _ _ _ before = (reply, out.2.store) at saved
  constructor
  · rintro ⟨⟨r, ok⟩, -⟩
    rw [ok] at ends
    exact Keeping.ok_of_isOk ends.symm
  · rintro rfl
    constructor
    · cases result : out.1 with
      | ok r => exact ⟨r, rfl⟩
      | error => rw [result] at ends; cases ends
    · exact b.load_saved saved tidy line

/-- A ticket in an empty directory. -/
theorem reconcile_created_iff_files :
    let b := Backend.files []
    let j := Job.plain "J" 7 .failure
    let out := (Parties.mk Board.tracker b.store).reconcile j ⟨{}, {}, []⟩
    (openings (exchanges out.2.log)).map (·.2.key) = ["T-101"] ∧ (∃ r, out.1 = .ok r) ∧
      (b.store.load j.report.job out.2.store).1 = .ok (some ⟨"T-101", some j.report.number⟩) := by
  intro b j out
  have healthy : b.Healthy {} := {
    named := rfl
    made := ⟨[], rfl, rfl⟩
    room := by decide
    sparse := by decide
    sound := fun path name stands => by
      cases path <;> exact absurd rfl stands }
  have opened : openings (exchanges out.2.log) =
      [((j.situation none).draft.form, ⟨"101", "T-101"⟩)] := by
    decide +kernel
  have holds : b.Holds j.report.number := trivial
  clear_value b j
  have tracked := reconcile_created_iff Board.tracker b j {} {} healthy
    (j.situation none).draft.form ⟨"101", "T-101"⟩ (by decide) (by decide)
  refine ⟨?_, (tracked ?_).mpr holds⟩
  · rw [opened]
    rfl
  · rw [opened]
    exact List.mem_cons_self

/-- A ticket of a build whose number is accepted, but the table does not take it. -/
theorem reconcile_created_lost :
    let j := Job.plain "J" 9223372036854775808 .failure
    let out := (Parties.mk Board.tracker Backend.table.store).reconcile j ⟨{}, {}, []⟩
    (Report.ofJson j.report.toJson).toOption = some j.report ∧ Backend.table.Healthy {} ∧
      (openings (exchanges out.2.log)).map (·.2.key) = ["T-101"] ∧ out.1.isOk = false ∧
      Backend.table.keeping.stands out.2.store "J" = none := by
  refine ⟨?_, ?_, ?_, ?_, ?_⟩
  · decide +kernel
  · simp [Backend.Healthy, Store.Table.empty]
  · decide +kernel
  · decide +kernel
  · decide +kernel

end TicketKeeper
