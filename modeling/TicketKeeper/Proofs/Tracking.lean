import Mathlib.Data.List.Nodup
import TicketKeeper.Proofs.Run

/-! Which tickets are tracked along a run. A job tracks the last ticket that was created and saved
for it, jobs share no ticket, and a ticket that was dropped is never seen again. -/
namespace TicketKeeper

open Store (Backend Depot)
open TicketKeeper.Text (IsLine)

def Written.saves (w : Written) (key : String) : Bool :=
  w.ok && match w.write with
    | .save (some saved) _ => saved == key
    | _ => false

def createdKeys (es : List Exchange) : List String := (openings es).map (·.2.key)

def keptKeys (es : List Exchange) : List String :=
  (createdKeys es).filter fun key => (writes es).any (·.saves key)

@[simp] theorem createdKeys_append (es more : List Exchange) :
    createdKeys (es ++ more) = createdKeys es ++ createdKeys more := by simp [createdKeys]

variable {σ : Type} {s : Store σ}

namespace Job.Account

variable {j : Job} {k : Keeping s} {es : List Exchange} {record : Option Record} {st st' : σ}

theorem keptKeys_eq {t : Tally} (h : tally es = t) : keptKeys es =
    (t.opened.map (·.2.key)).filter fun key => t.written.any (·.saves key) := by
  rw [← h]
  rfl

theorem keptKeys_of_failed (h : ∀ w ∈ writes es, w.ok = false) : keptKeys es = [] := by
  refine List.filter_eq_nil_iff.mpr fun key _ saved => ?_
  obtain ⟨w, hw, saves⟩ := List.any_eq_true.mp saved
  simp [Written.saves, h w hw] at saves

theorem stands_of_saved {key : String} {n : Int}
    (h : k.Acts [⟨j.report.job, .save (some key) (some n), true⟩] st st')
    (sound : Tidy key ∧ IsLine key.toList) : k.stands st' j.report.job = some ⟨key, some n⟩ := by
  obtain ⟨mid, shown, rests, -, stands, -, same⟩ := h.saved sound.1
  rw [rests.1, stands, same sound.2]

/-- The key that a job tracks after a cycle was created and saved by the cycle, or it was tracked
before and not dropped. -/
theorem key_of_stands (a : j.Account k es record st st')
    (sound : ∀ x ∈ openings es, Tidy x.2.key ∧ IsLine x.2.key.toList) {r' : Record}
    (h : k.stands st' j.report.job = some r') :
    keptKeys es = [r'.key] ∨ (keptKeys es = [] ∧ ⟨j.report.job, .clear, true⟩ ∉ writes es ∧
      ∃ r, k.stands st j.report.job = some r ∧ r.key = r'.key) := by
  by_cases refused : ∀ w ∈ writes es, w.ok = false
  · rw [(a.acts.rests_of_failed refused).1] at h
    have uncleared : ⟨j.report.job, .clear, true⟩ ∉ writes es := fun cleared => by
      cases refused _ cleared
    exact .inr ⟨keptKeys_of_failed refused, uncleared, r', h, rfl⟩
  have acts := a.acts
  have deed := a.deed
  generalize ht : tally es = t at deed
  have opened : openings es = t.opened := congrArg Tally.opened ht
  have written : writes es = t.written := congrArg Tally.written ht
  rw [opened] at sound
  rw [written] at acts refused
  rw [keptKeys_eq ht, written]
  cases deed with
  | quiet => exact absurd (fun w hw => by cases hw) refused
  | @created form issue ok =>
    obtain rfl : ok = true := by simpa using refused
    rw [stands_of_saved acts (sound _ List.mem_cons_self)] at h
    cases h
    exact .inl (by simp [Written.saves])
  | @commented r text ok hr =>
    obtain rfl : ok = true := by simpa using refused
    obtain ⟨stands, awake⟩ := a.found hr
    obtain ⟨mid, rests, -, marked⟩ := acts.marked awake stands
    rw [rests.1, marked] at h
    cases h
    exact .inr ⟨rfl, by simp, r, stands, rfl⟩
  | @forgot r last ok hr =>
    obtain rfl : ok = true := by simpa using refused
    obtain ⟨mid, rests, -, cleared⟩ := acts.cleared (a.found hr).2
    rw [rests.1, cleared] at h
    cases h
  | @replaced r last form issue ok hr =>
    obtain ⟨mid, acts, -, cleared⟩ := acts.cleared (a.found hr).2
    cases ok with
    | true =>
      rw [stands_of_saved acts (sound _ List.mem_cons_self)] at h
      cases h
      exact .inl (by simp [Written.saves])
    | false =>
      rw [(acts.failed rfl).1, cleared] at h
      cases h

end Job.Account

namespace World

variable {τ : Type} {t : Tracker τ} {b : Backend} {w w' : World τ} {names : String → Prop}

def calls (w : World τ) : List Exchange := w.history.flatMap (·.calls)

def keptFor (w : World τ) (job : String) : List String :=
  (w.history.filter (·.job.report.job = job)).flatMap fun e => keptKeys e.calls

def Tracks (b : Backend) (w : World τ) (job key : String) : Prop :=
  ∃ build, (b.store.load job w.depot).1 = .ok (some ⟨key, build⟩)

theorem tracks_iff {job key : String} : Tracks b w job key ↔
    (b.store.load job w.depot).1.toOption.join.map (·.key) = some key := by
  unfold Tracks
  rcases (b.store.load job w.depot).1 with _ | _ | ⟨key', build⟩ <;> simp [Except.toOption]

instance (job key : String) : Decidable (Tracks b w job key) := decidable_of_iff _ tracks_iff.symm

/-- What is asked of a run: its jobs have names that the store keeps apart, and the tracker gives
each ticket a sound key of its own. -/
structure Distinct (b : Backend) (names : String → Prop) (history : List Entry) : Prop where
  named : ∀ e ∈ history, names e.job.report.job
  apart : ∀ job other, names job → names other → job ≠ other → b.Separates job other
  sound : ∀ e ∈ history, ∀ x ∈ openings e.calls, Tidy x.2.key ∧ IsLine x.2.key.toList
  once : (createdKeys (history.flatMap (·.calls))).Nodup

/-- What holds of the tracked tickets along a run. -/
structure Tracking (b : Backend) (names : String → Prop) (w : World τ) : Prop where
  last {job r} : names job → b.keeping.stands w.depot job = some r →
    (w.keptFor job).getLast? = some r.key
  created {job r} : names job → b.keeping.stands w.depot job = some r →
    r.key ∈ createdKeys w.calls
  unique {job other r r'} : names job → names other → b.keeping.stands w.depot job = some r →
    b.keeping.stands w.depot other = some r' → r.key = r'.key → job = other

structure Gone (b : Backend) (names : String → Prop) (key : String) (w : World τ) : Prop where
  created : key ∈ createdKeys w.calls
  untracked {job r} : names job → b.keeping.stands w.depot job = some r → r.key ≠ key

theorem Distinct.of_prefix {past history : List Entry} (h : Distinct b names history)
    (front : past <+: history) : Distinct b names past where
  named e he := h.named e (front.mem he)
  apart := h.apart
  sound e he := h.sound e (front.mem he)
  once := by
    obtain ⟨later, rfl⟩ := front
    have once := h.once
    rw [List.flatMap_append, createdKeys_append] at once
    exact once.of_append_left

section Cycle

variable {j : Job} {faults : Faults} {es : List Exchange} {record : Option Record}
  (grown : w'.history = w.history ++ [⟨j, es⟩])
  (account : j.Account (b.keeping.withFaults faults) es record w.depot w'.depot)
  (distinct : Distinct b names w'.history)

include grown

theorem calls_grown : w'.calls = w.calls ++ es := by simp [calls, grown]

theorem keptFor_self : w'.keptFor j.report.job = w.keptFor j.report.job ++ keptKeys es := by
  simp [keptFor, grown]

theorem keptFor_other {job : String} (other : j.report.job ≠ job) :
    w'.keptFor job = w.keptFor job := by
  simp [keptFor, grown, other]

include distinct

theorem named_cycle : names j.report.job := distinct.named ⟨j, es⟩ (by simp [grown])

theorem new_key {key : String} (h : key ∈ keptKeys es) : key ∉ createdKeys w.calls := by
  have once := distinct.once
  change (createdKeys w'.calls).Nodup at once
  rw [calls_grown grown, createdKeys_append] at once
  exact fun old => (List.nodup_append.mp once).2.2 _ old _ (List.mem_of_mem_filter h) rfl

include account

/-- The records of the other jobs are as they were; that of the job has a new key, or the key that
it had before and that was not dropped. -/
theorem stands_cycle {job : String} {r' : Record} (named : names job)
    (h : b.keeping.stands w'.depot job = some r') :
    (job ≠ j.report.job ∧ b.keeping.stands w.depot job = some r') ∨
    (job = j.report.job ∧ keptKeys es = [r'.key]) ∨
    (job = j.report.job ∧ keptKeys es = [] ∧ ⟨j.report.job, .clear, true⟩ ∉ writes es ∧
      ∃ r, b.keeping.stands w.depot job = some r ∧ r.key = r'.key) := by
  by_cases same : job = j.report.job
  · subst same
    have sound := distinct.sound ⟨j, es⟩ (by simp [grown])
    exact .inr ((account.key_of_stands sound h).imp (⟨rfl, ·⟩) (⟨rfl, ·⟩))
  · have apart := distinct.apart _ _ (named_cycle grown distinct) named (Ne.symm same)
    have stands : b.keeping.stands w'.depot job = b.keeping.stands w.depot job :=
      account.stands_apart (by simpa [Keeping.withFaults] using apart)
    exact .inl ⟨same, stands ▸ h⟩

/-- Where a tracked key comes from: the cycle has saved it, or it was tracked before. -/
theorem origin_cycle {job : String} {r' : Record} (named : names job)
    (h : b.keeping.stands w'.depot job = some r') :
    (job = j.report.job ∧ r'.key ∈ keptKeys es) ∨
      ∃ r, b.keeping.stands w.depot job = some r ∧ r.key = r'.key := by
  obtain ⟨-, stands⟩ | ⟨same, kept⟩ | ⟨-, -, -, old⟩ :=
    stands_cycle grown account distinct named h
  · exact .inr ⟨r', stands, rfl⟩
  · exact .inl ⟨same, by simp [kept]⟩
  · exact .inr old

theorem Tracking.cycle (inv : Tracking b names w) : Tracking b names w' where
  last {job r'} named h := by
    obtain ⟨other, stands⟩ | ⟨rfl, kept⟩ | ⟨rfl, none, -, r, stands, key⟩ :=
      stands_cycle grown account distinct named h
    · rw [keptFor_other grown (Ne.symm other)]
      exact inv.last named stands
    · rw [keptFor_self grown, kept, List.getLast?_concat]
    · rw [keptFor_self grown, none, List.append_nil, ← key]
      exact inv.last named stands
  created {job r'} named h := by
    rw [calls_grown grown, createdKeys_append, List.mem_append]
    obtain ⟨-, new⟩ | ⟨r, stands, key⟩ := origin_cycle grown account distinct named h
    · exact .inr (List.mem_of_mem_filter new)
    · exact .inl (key ▸ inv.created named stands)
  unique {job other r₁ r₂} named named' h h' same := by
    obtain ⟨rfl, new⟩ | ⟨r, stands, key⟩ := origin_cycle grown account distinct named h
    · obtain ⟨rfl, -⟩ | ⟨r', stands', key'⟩ := origin_cycle grown account distinct named' h'
      · rfl
      · have old := inv.created named' stands'
        rw [key', ← same] at old
        exact absurd old (new_key grown distinct new)
    · obtain ⟨rfl, new⟩ | ⟨r', stands', key'⟩ := origin_cycle grown account distinct named' h'
      · have old := inv.created named stands
        rw [key, same] at old
        exact absurd old (new_key grown distinct new)
      · exact inv.unique named named' stands stands' (by rw [key, key', same])

theorem Gone.cycle {key : String} (inv : Gone b names key w) : Gone b names key w' where
  created := by
    rw [calls_grown grown, createdKeys_append, List.mem_append]
    exact .inl inv.created
  untracked {job r'} named h := by
    obtain ⟨-, new⟩ | ⟨r, stands, same⟩ := origin_cycle grown account distinct named h
    · rintro rfl
      exact new_key grown distinct new inv.created
    · exact same ▸ inv.untracked named stands

theorem gone_of_cleared (inv : Tracking b names w) {r : Record}
    (tracked : b.keeping.stands w.depot j.report.job = some r)
    (cleared : ⟨j.report.job, .clear, true⟩ ∈ writes es) : Gone b names r.key w' where
  created := by
    rw [calls_grown grown, createdKeys_append, List.mem_append]
    exact .inl (inv.created (named_cycle grown distinct) tracked)
  untracked {job r'} named h := by
    obtain ⟨other, stands⟩ | ⟨rfl, kept⟩ | ⟨-, -, uncleared, -⟩ :=
      stands_cycle grown account distinct named h
    · exact fun same => other (inv.unique named (named_cycle grown distinct) stands tracked same)
    · have new : r'.key ∉ createdKeys w.calls := new_key grown distinct (by simp [kept])
      exact fun same => new (same ▸ inv.created named tracked)
    · exact absurd cleared uncleared

theorem Gone.unasked {key : String} (inv : Gone b names key w) {e : Exchange} (he : e ∈ es) :
    e.ticket? ≠ some key := by
  intro about
  obtain ⟨r, hr, same, -⟩ := account.ticket he about
  exact inv.untracked (named_cycle grown distinct) (account.found hr).1 same

end Cycle

theorem Tracking.move {m : Move τ} (inv : Tracking b names w)
    (distinct : Distinct b names (w.move t b m).history) : Tracking b names (w.move t b m) := by
  obtain ⟨j, faults, es, record, grown, account⟩ | ⟨same, stands, -⟩ := move_cases t b w m
  · exact inv.cycle grown account distinct
  · constructor
    · intro job r named h
      rw [stands] at h
      rw [keptFor, same]
      exact inv.last named h
    · intro job r named h
      rw [stands] at h
      rw [calls, same]
      exact inv.created named h
    · intro job other r r' named named' h h'
      rw [stands] at h h'
      exact inv.unique named named' h h'

theorem tracking_of_isEmpty (empty : b.IsEmpty w.depot) : Tracking b names w := by
  constructor <;> intros <;> simp_all [Backend.stands_of_isEmpty empty]

theorem Tracking.run (inv : Tracking b names w) {moves : List (Move τ)}
    (distinct : Distinct b names (w.run t b moves).history) : Tracking b names (w.run t b moves) := by
  induction moves using List.reverseRecOn with
  | nil => exact inv
  | append_singleton moves m ih =>
    rw [run_concat] at distinct ⊢
    exact (ih (distinct.of_prefix (history_prefix_move ..))).move distinct

/-- A ticket that is gone stays gone, and is left alone. -/
theorem Gone.run {key : String} (inv : Gone b names key w) {moves : List (Move τ)}
    (distinct : Distinct b names (w.run t b moves).history) :
    Gone b names key (w.run t b moves) ∧
      ∃ later, (w.run t b moves).history = w.history ++ later ∧
        ∀ e ∈ later, ∀ x ∈ e.calls, x.ticket? ≠ some key := by
  induction moves using List.reverseRecOn with
  | nil => exact ⟨inv, [], (List.append_nil _).symm, by simp⟩
  | append_singleton moves m ih =>
    rw [run_concat] at distinct ⊢
    obtain ⟨gone, later, same, unasked⟩ := ih (distinct.of_prefix (history_prefix_move ..))
    obtain ⟨j, faults, es, record, grown, account⟩ | ⟨rest, stands, -⟩ :=
      move_cases t b (w.run t b moves) m
    · refine ⟨gone.cycle grown account distinct, later ++ [⟨j, es⟩], ?_, ?_⟩
      · rw [grown, same, List.append_assoc]
      · intro e he x hx
        obtain he | he := List.mem_append.mp he
        · exact unasked e he x hx
        · obtain rfl := List.mem_singleton.mp he
          exact gone.unasked grown account distinct hx
    · refine ⟨⟨?_, ?_⟩, later, rest.trans same, unasked⟩
      · rw [calls, rest]
        exact gone.created
      · intro job r named h
        rw [stands] at h
        exact gone.untracked named h

theorem stands_of_tracks {job key : String} (h : Tracks b w job key) :
    ∃ build, b.keeping.stands w.depot job = some ⟨key, build⟩ := by
  obtain ⟨build, loaded⟩ := h
  exact ⟨build, (b.keeping.found loaded).1⟩

/-- Along a run from an empty store a job tracks the last ticket that was created and saved for it,
no ticket is tracked by two jobs, and a ticket that was dropped is not tracked, asked about or
commented on any more. -/
theorem run_tracks_last_saved (t : Tracker τ) (b : Backend) (names : String → Prop) (w : World τ)
    (empty : b.IsEmpty w.depot) (moves : List (Move τ))
    (distinct : Distinct b names (w.run t b moves).history) :
    (∀ job key, names job → Tracks b (w.run t b moves) job key →
      ((w.run t b moves).keptFor job).getLast? = some key) ∧
    (∀ job other key, names job → names other → Tracks b (w.run t b moves) job key →
      Tracks b (w.run t b moves) other key → job = other) ∧
    ∀ past j faults rest es key, moves = past ++ .cycle j faults :: rest →
      (w.run t b (past ++ [.cycle j faults])).history = (w.run t b past).history ++ [⟨j, es⟩] →
      Tracks b (w.run t b past) j.report.job key → ⟨j.report.job, .clear, true⟩ ∈ writes es →
      (∀ job, names job → ¬Tracks b (w.run t b moves) job key) ∧
      ∃ later, (w.run t b moves).history =
          (w.run t b (past ++ [.cycle j faults])).history ++ later ∧
        ∀ e ∈ later, ∀ x ∈ e.calls, x.ticket? ≠ some key := by
  have inv := (tracking_of_isEmpty empty).run distinct
  refine ⟨?_, ?_, ?_⟩
  · intro job key named tracks
    obtain ⟨build, stands⟩ := stands_of_tracks tracks
    exact inv.last named stands
  · intro job other key named named' tracks tracks'
    obtain ⟨build, stands⟩ := stands_of_tracks tracks
    obtain ⟨build', stands'⟩ := stands_of_tracks tracks'
    exact inv.unique named named' stands stands' rfl
  · rintro past j faults rest es key rfl grown tracks cleared
    have split : w.run t b (past ++ .cycle j faults :: rest) =
        (w.run t b (past ++ [.cycle j faults])).run t b rest := by
      rw [← run_append, List.append_assoc, List.singleton_append]
    rw [split] at distinct ⊢
    have distinct' := distinct.of_prefix (history_prefix_run ..)
    have before : Tracking b names (w.run t b past) := by
      refine (tracking_of_isEmpty empty).run (distinct'.of_prefix ?_)
      rw [run_concat]
      exact history_prefix_move ..
    obtain ⟨build, stands⟩ := stands_of_tracks tracks
    have gone : Gone b names key (w.run t b (past ++ [.cycle j faults])) := by
      rw [run_concat] at grown distinct' ⊢
      obtain ⟨j', faults', es', record, grown', account⟩ | ⟨same, -, -⟩ :=
        move_cases t b (w.run t b past) (.cycle j faults)
      · obtain ⟨rfl, rfl⟩ : j = j' ∧ es = es' := by simpa using grown.symm.trans grown'
        exact gone_of_cleared grown account distinct' before stands cleared
      · simp [same] at grown
    obtain ⟨gone, later⟩ := gone.run distinct
    refine ⟨?_, later⟩
    intro job named tracks
    obtain ⟨build, stands⟩ := stands_of_tracks tracks
    exact gone.untracked named stands rfl

/-- A ticket is dropped, and its job gets another one. -/
theorem run_tracks_last_saved_dropped :
    let past : List (Move Board) :=
      [.cycle (.plain "J" 7 .failure) .none, .outside (.setStatus "T-101" "Closed")]
    let dropping := Job.plain "J" 8 .success
    let rest : List (Move Board) :=
      [.cycle (.plain "K" 3 .failure) .none, .cycle (.plain "J" 9 .failure) .none]
    let w := World.run Board.tracker .table ⟨{}, {}, []⟩ (past ++ .cycle dropping .none :: rest)
    Distinct .table (fun _ => True) w.history ∧ Tracks .table w "J" "T-103" ∧
      (w.keptFor "J").getLast? = some "T-103" ∧ ∀ job, ¬Tracks .table w job "T-101" := by
  intro past dropping rest w
  have distinct : Distinct .table (fun _ => True) w.history :=
    ⟨fun _ _ => trivial, fun _ _ _ _ h => h, by decide +kernel, by decide +kernel⟩
  have tracks : Tracks .table w "J" "T-103" := by decide +kernel
  have before : Tracks .table (World.run Board.tracker .table ⟨{}, {}, []⟩ past) "J" "T-101" := by
    decide +kernel
  obtain ⟨es, grown⟩ : ∃ es, (World.run Board.tracker .table ⟨{}, {}, []⟩
      (past ++ [.cycle dropping .none])).history =
      (World.run Board.tracker .table ⟨{}, {}, []⟩ past).history ++ [⟨dropping, es⟩] := by
    rw [run_concat]
    exact ⟨_, rfl⟩
  have cleared : ∀ e ∈ (World.run Board.tracker .table ⟨{}, {}, []⟩
      (past ++ [.cycle dropping .none])).history.getLast?,
      ⟨"J", .clear, true⟩ ∈ writes e.calls := by decide +kernel
  rw [grown, List.getLast?_concat] at cleared
  obtain ⟨last, -, gone⟩ := run_tracks_last_saved Board.tracker .table (fun _ => True) ⟨{}, {}, []⟩
    rfl (past ++ .cycle dropping .none :: rest) distinct
  refine ⟨distinct, tracks, last _ _ trivial tracks, fun job => ?_⟩
  exact (gone past dropping .none rest es _ rfl grown before (cleared _ rfl)).1 job trivial

end World

end TicketKeeper
