import TicketKeeper.Proofs.Run

/-! A build gets at most one ticket and one comment, however often its cycle is run. What keeps a
cycle from posting twice is the record of the job: it is marked with the build, or it is gone and
all that can follow is a ticket. -/
namespace TicketKeeper

open Store (Backend Depot)

variable {σ : Type} {s : Store σ}

namespace Keeping

def Marked (k : Keeping s) (st : σ) (job : String) (n : Int) : Prop :=
  k.awake st job ∧ ∃ r, k.stands st job = some r ∧ r.key ≠ "" ∧ r.build = some n

def Vacant (k : Keeping s) (st : σ) (job : String) : Prop :=
  k.awake st job ∧ k.stands st job = none

end Keeping

namespace Job.Account

variable {j : Job} {k : Keeping s} {es : List Exchange} {record : Option Record} {st st' : σ}

theorem opened_eq {t : Tally} (h : tally es = t) : openings es = t.opened := congrArg Tally.opened h

theorem said_eq {t : Tally} (h : tally es = t) : comments es = t.said := congrArg Tally.said h

theorem written_eq {t : Tally} (h : tally es = t) : writes es = t.written := congrArg Tally.written h

theorem vacant_of_rests (h : k.Rests st st') (vacant : k.Vacant st j.report.job) :
    k.Vacant st' j.report.job := ⟨h.2 _ vacant.1, by rw [h.1, vacant.2]⟩

theorem of_marked (a : j.Account k es record st st')
    (h : k.Marked st j.report.job j.report.number) :
    openings es = [] ∧ comments es = [] ∧ k.Marked st' j.report.job j.report.number := by
  obtain ⟨awake, r, stands, named, marked⟩ := h
  have seen : ∀ r', record = some r' → r' = r := fun r' hr =>
    Option.some.inj ((a.found hr).1.symm.trans stands)
  have acts := a.acts
  have deed := a.deed
  generalize ht : tally es = t at deed
  cases deed with
  | quiet =>
    rw [written_eq ht] at acts
    exact ⟨opened_eq ht, said_eq ht, acts.2 _ awake, r, by rw [acts.1, stands], named, marked⟩
  | created blank =>
    cases hr : record with
    | none => rw [a.missing hr awake] at stands; cases stands
    | some r' => exact absurd (blank r' hr) (seen r' hr ▸ named)
  | commented hr _ unapplied | forgot hr _ unapplied | replaced hr _ unapplied =>
    exact absurd marked (seen _ hr ▸ unapplied)

theorem marked_of_saved {key : String} {n : Int}
    (h : k.Acts [⟨j.report.job, .save (some key) (some n), true⟩] st st') (tidy : Tidy key) :
    k.Marked st' j.report.job n := by
  obtain ⟨mid, shown, rests, awake, stands, named, -⟩ := h.saved tidy
  exact ⟨rests.2 _ awake, ⟨shown, some n⟩, by rw [rests.1, stands], named, rfl⟩

variable (done : ∀ w ∈ writes es, w.ok = true) (tidy : ∀ x ∈ openings es, Tidy x.2.key)

include done tidy

theorem of_vacant (a : j.Account k es record st st') (h : k.Vacant st j.report.job) :
    comments es = [] ∧ ((openings es = [] ∧ k.Vacant st' j.report.job) ∨
      ((openings es).length = 1 ∧ k.Marked st' j.report.job j.report.number)) := by
  have unseen : ∀ r, record ≠ some r := fun r hr => by
    have stands := (a.found hr).1
    rw [h.2] at stands
    cases stands
  have acts := a.acts
  have deed := a.deed
  generalize ht : tally es = t at deed
  cases deed with
  | quiet =>
    rw [written_eq ht] at acts
    exact ⟨said_eq ht, .inl ⟨opened_eq ht, vacant_of_rests acts h⟩⟩
  | created =>
    rw [written_eq ht] at acts done
    rw [opened_eq ht] at tidy ⊢
    obtain rfl := done _ List.mem_cons_self
    exact ⟨said_eq ht, .inr ⟨rfl, marked_of_saved acts (tidy _ List.mem_cons_self)⟩⟩
  | commented hr | forgot hr | replaced hr => exact absurd hr (unseen _)

/-- A cycle posts one ticket and one comment at most, and when it has posted something, that shows
in the record. -/
theorem posts_once (a : j.Account k es record st st') :
    (openings es).length ≤ 1 ∧ (comments es).length ≤ 1 ∧
      ((openings es = [] ∧ comments es = []) ∨ k.Marked st' j.report.job j.report.number ∨
        (openings es = [] ∧ k.Vacant st' j.report.job)) := by
  have acts := a.acts
  have deed := a.deed
  generalize ht : tally es = t at deed
  rw [opened_eq ht] at tidy
  rw [written_eq ht] at acts done
  rw [opened_eq ht, said_eq ht]
  cases deed with
  | quiet => exact ⟨Nat.zero_le 1, Nat.zero_le 1, .inl ⟨rfl, rfl⟩⟩
  | created =>
    obtain rfl := done _ List.mem_cons_self
    exact ⟨le_rfl, Nat.zero_le 1, .inr (.inl (marked_of_saved acts (tidy _ List.mem_cons_self)))⟩
  | commented hr named =>
    obtain rfl := done _ List.mem_cons_self
    obtain ⟨stands, awake⟩ := a.found hr
    obtain ⟨mid, rests, awake, stands⟩ := acts.marked awake stands
    have stands := (congrFun rests.1 _).trans stands
    exact ⟨Nat.zero_le 1, le_rfl, .inr (.inl ⟨rests.2 _ awake, _, stands, named, rfl⟩)⟩
  | forgot hr _ _ once =>
    obtain rfl := done _ List.mem_cons_self
    obtain ⟨mid, rests, vacant⟩ := acts.cleared (a.found hr).2
    exact ⟨Nat.zero_le 1, once, .inr (.inr ⟨rfl, vacant_of_rests rests vacant⟩)⟩
  | replaced hr _ _ once =>
    obtain rfl := done _ (List.mem_cons_of_mem _ List.mem_cons_self)
    obtain ⟨mid, acts, vacant⟩ := acts.cleared (a.found hr).2
    exact ⟨le_rfl, once, .inr (.inl (marked_of_saved acts (tidy _ List.mem_cons_self)))⟩

end Job.Account

namespace World

variable {τ : Type} {t : Tracker τ} {b : Backend} {w : World τ} {job : String} {n : Int}

def callsFor (w : World τ) (job : String) (n : Int) : List Exchange :=
  (w.history.filter fun e => e.job.report.job = job ∧ e.job.report.number = n).flatMap (·.calls)

/-- What holds of a build along a run: once something was posted for it, its cycles have given way
to those of a later build, or the record tells them what is left to do. -/
structure Once (b : Backend) (job : String) (n : Int) (w : World τ) : Prop where
  ticket : (openings (w.callsFor job n)).length ≤ 1
  comment : (comments (w.callsFor job n)).length ≤ 1
  shown : (openings (w.callsFor job n) = [] ∧ comments (w.callsFor job n) = []) ∨
    (∃ e ∈ w.history, e.job.report.job = job ∧ n < e.job.report.number) ∨
    b.keeping.Marked w.depot job n ∨
    (openings (w.callsFor job n) = [] ∧ b.keeping.Vacant w.depot job)

theorem callsFor_self {w' : World τ} {j : Job} {es : List Exchange}
    (grown : w'.history = w.history ++ [⟨j, es⟩]) :
    w'.callsFor j.report.job j.report.number = w.callsFor j.report.job j.report.number ++ es := by
  simp [callsFor, grown]

theorem callsFor_other {w' : World τ} {j : Job} {es : List Exchange}
    (grown : w'.history = w.history ++ [⟨j, es⟩])
    (other : ¬(j.report.job = job ∧ j.report.number = n)) :
    w'.callsFor job n = w.callsFor job n := by
  simp [callsFor, grown, other]

/-- What is asked of the history of a run. -/
structure Orderly (b : Backend) (history : List Entry) : Prop where
  /-- The numbers of the builds of a job never go down. -/
  ordered : history.Pairwise fun e e' =>
    e.job.report.job = e'.job.report.job → e.job.report.number ≤ e'.job.report.number
  apart : ∀ e ∈ history, ∀ e' ∈ history, e.job.report.job ≠ e'.job.report.job →
    b.Separates e.job.report.job e'.job.report.job
  done : ∀ e ∈ history, ∀ w ∈ writes e.calls, w.ok = true
  tidy : ∀ e ∈ history, ∀ x ∈ openings e.calls, Tidy x.2.key

theorem mem_of_callsFor (h : ¬(openings (w.callsFor job n) = [] ∧ comments (w.callsFor job n) = [])) :
    ∃ e ∈ w.history, e.job.report.job = job ∧ e.job.report.number = n := by
  by_contra none
  push Not at none
  apply h
  have empty : w.callsFor job n = [] := by
    simp only [callsFor, List.flatMap_eq_nil_iff, List.mem_filter, decide_eq_true_eq]
    rintro e ⟨he, same, number⟩
    exact absurd number (none e he same)
  rw [empty]
  exact ⟨rfl, rfl⟩

section Cycle

variable {w' : World τ} {j : Job} {faults : Faults} {es : List Exchange} {record : Option Record}
  (grown : w'.history = w.history ++ [⟨j, es⟩])
  (account : j.Account (b.keeping.withFaults faults) es record w.depot w'.depot)
  (orderly : Orderly b w'.history)

include grown account orderly

theorem Once.again (inv : Once b j.report.job j.report.number w) :
    Once b j.report.job j.report.number w' := by
  have mem : (⟨j, es⟩ : Entry) ∈ w'.history := by simp [grown]
  have done : ∀ w ∈ writes es, w.ok = true := orderly.done _ mem
  have tidy : ∀ x ∈ openings es, Tidy x.2.key := orderly.tidy _ mem
  have calls := callsFor_self grown
  obtain ⟨noTicket, noComment⟩ | ⟨e, he, same, later⟩ | marked | ⟨noTicket, vacant⟩ := inv.shown
  · obtain ⟨ticket, comment, shown⟩ := account.posts_once done tidy
    constructor <;> rw [calls]
    · simpa [noTicket] using ticket
    · simpa [noComment] using comment
    · simp only [openings_append, noTicket, comments_append, noComment, List.nil_append]
      exact shown.imp_right .inr
  · have ordered := orderly.ordered
    rw [grown, List.pairwise_append] at ordered
    have le : e.job.report.number ≤ j.report.number := ordered.2.2 e he _ List.mem_cons_self same
    omega
  · obtain ⟨ticket, comment, marked⟩ := account.of_marked marked
    constructor <;> rw [calls]
    · simpa [ticket] using inv.ticket
    · simpa [comment] using inv.comment
    · exact .inr (.inr (.inl marked))
  · obtain ⟨comment, shown⟩ := account.of_vacant done tidy vacant
    constructor <;> rw [calls]
    · obtain ⟨ticket, -⟩ | ⟨ticket, -⟩ := shown <;> simp [noTicket, ticket]
    · simpa [comment] using inv.comment
    · obtain ⟨ticket, vacant⟩ | ⟨-, marked⟩ := shown
      · exact .inr (.inr (.inr ⟨by simp [noTicket, ticket], vacant⟩))
      · exact .inr (.inr (.inl marked))

theorem Once.elsewhere (other : ¬(j.report.job = job ∧ j.report.number = n))
    (inv : Once b job n w) : Once b job n w' := by
  have calls := callsFor_other grown other
  constructor
  · rw [calls]
    exact inv.ticket
  · rw [calls]
    exact inv.comment
  rw [calls]
  by_cases nothing : openings (w.callsFor job n) = [] ∧ comments (w.callsFor job n) = []
  · exact .inl nothing
  obtain ⟨e, he, rfl, rfl⟩ := mem_of_callsFor nothing
  have mem : (⟨j, es⟩ : Entry) ∈ w'.history := by simp [grown]
  have mem' : e ∈ w'.history := by simp [grown, he]
  by_cases same : j.report.job = e.job.report.job
  · have ordered := orderly.ordered
    rw [grown, List.pairwise_append] at ordered
    have le : e.job.report.number ≤ j.report.number :=
      ordered.2.2 e he _ List.mem_cons_self same.symm
    have ne : e.job.report.number ≠ j.report.number := fun number => other ⟨same, number.symm⟩
    have lt : e.job.report.number < j.report.number := by omega
    exact .inr (.inl ⟨_, mem, same, lt⟩)
  · have stands : b.keeping.stands w'.depot e.job.report.job =
        b.keeping.stands w.depot e.job.report.job :=
      account.stands_apart (by simpa [Keeping.withFaults] using orderly.apart _ mem _ mem' same)
    have awake : b.keeping.awake w.depot e.job.report.job →
        b.keeping.awake w'.depot e.job.report.job := account.acts.awake
    obtain nothing | ⟨e', he', later⟩ | ⟨known, marked⟩ | ⟨noTicket, known, vacant⟩ := inv.shown
    · exact .inl nothing
    · exact .inr (.inl ⟨e', by simp [grown, he'], later⟩)
    · exact .inr (.inr (.inl ⟨awake known, by rwa [stands]⟩))
    · exact .inr (.inr (.inr ⟨noTicket, awake known, stands.trans vacant⟩))

end Cycle

theorem Once.move {m : Move τ} (inv : Once b job n w)
    (orderly : Orderly b (w.move t b m).history) : Once b job n (w.move t b m) := by
  obtain ⟨j, faults, es, record, grown, account⟩ | ⟨same, stands, awake⟩ := move_cases t b w m
  · by_cases again : j.report.job = job ∧ j.report.number = n
    · obtain ⟨rfl, rfl⟩ := again
      exact inv.again grown account orderly
    · exact inv.elsewhere grown account orderly again
  · have calls : (w.move t b m).callsFor job n = w.callsFor job n := by rw [callsFor, same, callsFor]
    constructor
    · rw [calls]
      exact inv.ticket
    · rw [calls]
      exact inv.comment
    · simpa only [calls, same, Keeping.Marked, Keeping.Vacant, stands, awake] using inv.shown

theorem Orderly.of_prefix {past history : List Entry} (h : Orderly b history)
    (front : past <+: history) : Orderly b past where
  ordered := h.ordered.sublist front.sublist
  apart e he e' he' := h.apart e (front.mem he) e' (front.mem he')
  done e he := h.done e (front.mem he)
  tidy e he := h.tidy e (front.mem he)

/-- However a run goes, the cycles of a build open one ticket and post one comment at most. -/
theorem run_posts_once_per_build (t : Tracker τ) (b : Backend) (w : World τ)
    (start : w.history = []) (moves : List (Move τ)) (orderly : Orderly b (w.run t b moves).history)
    (job : String) (n : Int) :
    (openings ((w.run t b moves).callsFor job n)).length ≤ 1 ∧
      (comments ((w.run t b moves).callsFor job n)).length ≤ 1 := by
  have inv : Once b job n (w.run t b moves) := by
    induction moves using List.reverseRecOn with
    | nil =>
      have none : w.callsFor job n = [] := by simp [callsFor, start]
      constructor <;> simp [none]
    | append_singleton moves m ih =>
      rw [run_concat] at orderly ⊢
      exact (ih (orderly.of_prefix (history_prefix_move ..))).move orderly
  exact ⟨inv.ticket, inv.comment⟩

/-- A ticket is closed and replaced, and its builds are run again. -/
theorem run_posts_once_per_build_replaced :
    let moves : List (Move Board) := [
      .cycle (.plain "J" 7 .failure) .none,
      .cycle (.plain "J" 7 .success) .none,
      .outside (.setStatus "T-101" "Closed"),
      .cycle (.plain "J" 8 .failure) fun | .create => some (.defect .badValue) | _ => none,
      .cycle (.plain "K" 3 .failure) .none,
      .cycle (.plain "J" 8 .failure) .none]
    let w := World.run Board.tracker .table ⟨{}, {}, []⟩ moves
    Orderly .table w.history ∧
      (openings (w.callsFor "J" 8)).length ≤ 1 ∧ (comments (w.callsFor "J" 8)).length ≤ 1 := by
  intro moves w
  have orderly : Orderly .table w.history :=
    ⟨by decide +kernel, by decide +kernel, by decide +kernel, by decide +kernel⟩
  exact ⟨orderly, run_posts_once_per_build Board.tracker .table _ rfl moves orderly "J" 8⟩

end World

end TicketKeeper
