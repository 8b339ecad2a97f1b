import TicketKeeper.Proofs.Created
import TicketKeeper.Proofs.Jira.Posting
import TicketKeeper.Proofs.Naming

/-! Forgetting a ticket. Whatever the tracker has against the last comment, the record is dropped;
but a comment that breaks takes the cycle with it, and the ticket stays. -/
namespace TicketKeeper

open Store (Backend Depot)
open TicketKeeper.Text (IsLine)

/-- After a record was dropped none is found, even where the folder of the job cannot be found. -/
theorem Store.Backend.load_cleared (b : Backend) {job : String} {d d' : Depot}
    (cleared : b.store.clear job d = (.ok (), d')) : (b.store.load job d').1 = .ok none := by
  cases b with
  | files root =>
    have loaded := Directory.load_clear (congrArg Prod.fst cleared)
    rwa [← show d'.files = (Directory.clear root job d.files).2 from
      congrArg (·.2.files) cleared.symm] at loaded
  | table =>
    have answers := Backend.table.answering.load_cleared Backend.table.keeping cleared trivial
    exact congrArg Prod.fst answers

/-- What a store holds for a job when its record was dropped: nothing, or the ticket that has been
created since. One that could not be saved leaves the records as they were then. -/
inductive Store.Backend.Forgotten (b : Backend) (job : String) (n : Int) (dropped : Depot)
    (es : List Exchange) : Depot → Prop
  | vacant : (∀ form issue, ⟨.create form, .ok issue⟩ ∉ es) →
    (b.store.load job dropped).1 = .ok none → Forgotten b job n dropped es dropped
  | replaced {form issue after} : ⟨.create form, .ok issue⟩ ∈ es →
    ⟨.save job issue.key n, .ok ()⟩ ∈ es →
    (IsLine issue.key.toList → (b.store.load job after).1 = .ok (some ⟨issue.key, some n⟩)) →
    Forgotten b job n dropped es after
  | unsaved {form issue fault after} : ⟨.create form, .ok issue⟩ ∈ es →
    ⟨.save job issue.key n, .error fault⟩ ∈ es →
    b.keeping.stands after = b.keeping.stands dropped → Forgotten b job n dropped es after

section Steps

variable {c : Jira.Client} {key text job : String} {n : Int} {done : Applied}
  {es : List Exchange} {link link' : Jira.Link}

theorem Farewell.breaks {r} (h : Farewell key (some text) es r)
    (told : c.tracker.Replays es link link') :
    (∃ d, r = .error (.defect d) ∧ text ≠ "" ∧ c.CommentBreaks link key text d) ∨
      ∃ warnings, r = .ok warnings ∧ ¬ (text ≠ "" ∧ ∃ d, c.CommentBreaks link key text d) := by
  cases h with
  | empty => exact .inr ⟨_, rfl, fun broke => broke.1 rfl⟩
  | said =>
    obtain ⟨_, ⟨said, -⟩, -⟩ := told
    refine .inr ⟨_, rfl, fun ⟨_, d, broke⟩ => ?_⟩
    cases said.symm.trans broke.result
  | refused _ refused =>
    obtain ⟨_, ⟨said, -⟩, -⟩ := told
    refine .inr ⟨_, rfl, fun ⟨_, d, broke⟩ => ?_⟩
    cases said.symm.trans broke.result
    cases refused
  | broken worded unrefused =>
    obtain ⟨_, ⟨said, -⟩, -⟩ := told
    obtain ⟨f, refused⟩ | ⟨d, rfl, broke⟩ := c.comment_error link said
    · rw [refused] at unrefused
      cases unrefused
    · exact .inl ⟨d, rfl, worded, broke⟩

theorem Farewell.uncleared {text : Option String} {r} (h : Farewell key text es r) :
    ⟨.clear job, .ok ()⟩ ∉ es := by
  cases h <;> simp

theorem Farewell.uncreated {text : Option String} {r} (h : Farewell key text es r) :
    ∀ form issue, ⟨.create form, .ok issue⟩ ∉ es := by
  cases h <;> simp

theorem Step.Course.forgets {σ : Type} {s : Store σ} {st st' : σ} {r}
    (h : Course job n done (.forget key (some text)) es r) (stored : s.Replays es st st')
    (told : c.tracker.Replays es link link') (clears : (s.clear job st).1 = .ok ()) :
    (∃ d, r = .error (.defect d) ∧ text ≠ "" ∧ c.CommentBreaks link key text d ∧
      ⟨.clear job, .ok ()⟩ ∉ es ∧ st' = st) ∨
    (∃ done', r = .ok done') ∧ ¬ (text ≠ "" ∧ ∃ d, c.CommentBreaks link key text d) ∧
      ⟨.clear job, .ok ()⟩ ∈ es ∧ s.clear job st = (.ok (), st') ∧
      ∀ form issue, ⟨.create form, .ok issue⟩ ∉ es := by
  cases h with
  | kept farewell =>
    obtain ⟨d, ⟨⟩, worded, broke⟩ | ⟨_, ⟨⟩, -⟩ := farewell.breaks told
    exact .inl ⟨d, rfl, worded, broke, farewell.uncleared, farewell.replays stored⟩
  | uncleared farewell =>
    obtain ⟨mid, said, _, cleared, -⟩ := Store.replays_append.mp stored
    obtain rfl := farewell.replays said
    cases (congrArg Prod.fst cleared).symm.trans clears
  | forgotten farewell =>
    obtain ⟨mid, said, _, cleared, rfl⟩ := Store.replays_append.mp stored
    obtain rfl := farewell.replays said
    obtain ⟨_, saying, -⟩ := Tracker.replays_append.mp told
    obtain ⟨_, ⟨⟩, -⟩ | ⟨_, -, unbroken⟩ := farewell.breaks saying
    refine .inr ⟨⟨_, rfl⟩, unbroken, by simp, cleared, fun form issue created => ?_⟩
    obtain created | created := List.mem_append.mp created
    · exact farewell.uncreated form issue created
    · simp at created

theorem Step.Course.succeeds {b : Backend} {draft : Draft} {dropped after : Depot} {r}
    (h : Course job n done (.create draft) es r) (stored : b.store.Replays es dropped after)
    (told : c.tracker.Replays es link link') (vacant : (b.store.load job dropped).1 = .ok none) :
    b.Forgotten job n dropped es after := by
  cases h with
  | uncreated =>
    obtain ⟨_, rfl, rfl⟩ := stored
    exact .vacant (by simp) vacant
  | @unsaved _ issue =>
    obtain ⟨_, rfl, _, saved, rfl⟩ := stored
    refine .unsaved List.mem_cons_self (List.mem_cons_of_mem _ List.mem_cons_self) ?_
    have failed := congrArg Prod.fst saved
    have same := b.keeping.write_error (w := .save (some issue.key) (some n)) failed
    rwa [Store.write, saved] at same
  | created =>
    obtain ⟨_, rfl, _, saved, rfl⟩ := stored
    obtain ⟨_, ⟨created, -⟩, -⟩ := told
    obtain ⟨_, r, -, -, -, read⟩ := (c.create_ok_iff link _ _).mp created
    refine .replaced List.mem_cons_self (List.mem_cons_of_mem _ List.mem_cons_self) fun line => ?_
    exact b.load_saved saved (Jira.tidy_of_readCreated read) line

end Steps

theorem Store.Backend.Forgotten.behind {b : Backend} {job : String} {n : Int}
    {dropped after : Depot} {es front : List Exchange} (h : b.Forgotten job n dropped es after)
    (quiet : ∀ form issue, ⟨.create form, .ok issue⟩ ∉ front) :
    b.Forgotten job n dropped (front ++ es) after := by
  cases h with
  | vacant none loaded =>
    refine .vacant (fun form issue created => ?_) loaded
    exact (List.mem_append.mp created).elim (quiet form issue) (none form issue)
  | replaced created saved shown =>
    exact .replaced (List.mem_append_right _ created) (List.mem_append_right _ saved) shown
  | unsaved created failed same =>
    exact .unsaved (List.mem_append_right _ created) (List.mem_append_right _ failed) same

theorem Step.Courses.forgets {c : Jira.Client} {b : Backend} {key text job : String} {n : Int}
    {done : Applied} {rest : List Step} {es : List Exchange} {r} {link link' : Jira.Link}
    {d after : Depot} (h : Courses job n done (.forget key (some text) :: rest) es r)
    (ends : rest = [] ∨ ∃ draft, rest = [.create draft]) (stored : b.store.Replays es d after)
    (told : c.tracker.Replays es link link') (clears : (b.store.clear job d).1 = .ok ()) :
    (⟨.clear job, .ok ()⟩ ∈ es ↔ ¬ (text ≠ "" ∧ ∃ d, c.CommentBreaks link key text d)) ∧
      (⟨.clear job, .ok ()⟩ ∈ es → b.Forgotten job n (b.store.clear job d).2 es after) ∧
      (⟨.clear job, .ok ()⟩ ∉ es → (∃ defect, r = .error (.defect defect)) ∧ after = d) := by
  cases h with
  | stopped step =>
    obtain ⟨d', same, worded, broke, uncleared, kept⟩ | ⟨⟨_, ⟨⟩⟩, -⟩ :=
      step.forgets stored told clears
    exact ⟨iff_of_false uncleared fun unbroken => unbroken ⟨worded, d', broke⟩,
      fun cleared => absurd cleared uncleared, fun _ => ⟨⟨d', same⟩, kept⟩⟩
  | @next _ _ _ front _ later _ step onward =>
    obtain ⟨mid, dropping, stored⟩ := Store.replays_append.mp stored
    obtain ⟨_, saying, told⟩ := Tracker.replays_append.mp told
    obtain ⟨_, ⟨⟩, -⟩ | ⟨-, unbroken, called, cleared, quiet⟩ := step.forgets dropping saying clears
    have called := List.mem_append_left later called
    have dropped : (b.store.clear job d).2 = mid := congrArg Prod.snd cleared
    have vacant := b.load_cleared cleared
    refine ⟨iff_of_true called unbroken, fun _ => ?_, fun uncalled => absurd called uncalled⟩
    rw [dropped]
    apply Store.Backend.Forgotten.behind _ quiet
    obtain rfl | ⟨draft, rfl⟩ := ends
    · cases onward
      obtain rfl := stored
      exact .vacant (by simp) vacant
    · exact onward.singleton.succeeds stored told vacant

end TicketKeeper
