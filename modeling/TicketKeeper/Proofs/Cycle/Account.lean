import TicketKeeper.Proofs.Cycle.Deed

/-! What cycles make of the records in a store. -/
namespace TicketKeeper

open TicketKeeper.Text (IsLine)

variable {σ : Type} {s : Store σ}

theorem Store.write_of_serves {e : Exchange} {st st' : σ} {w : Written} (h : s.Serves e st st')
    (written : e.written? = some w) :
    (s.write w.job w.write st).1.isOk = w.ok ∧ (s.write w.job w.write st).2 = st' := by
  obtain ⟨c, reply⟩ := e
  cases c with
  | save | markBuild | clear =>
    cases written
    simp only [Serves] at h
    simp only [write, h, and_self]
  | load | create | status | comment => cases written

theorem Decision.Course.replays {extra : Status.Extra} {d : Decision} {r}
    {es : List Exchange} {st st' : σ}
    (h : d.Course extra es r) (replays : s.Replays es st st') : st' = st := by
  cases h with
  | settled => exact replays
  | unanswered | unknown | answered =>
    obtain ⟨mid, rfl, rfl⟩ := replays
    rfl

namespace Keeping

variable {k : Keeping s} {job : String} {st mid st' : σ} {ws : List Written}

/-- Nothing is written on the way from one state to another. -/
def Rests (k : Keeping s) (st st' : σ) : Prop :=
  k.stands st' = k.stands st ∧ ∀ job, k.awake st job → k.awake st' job

theorem Rests.refl (k : Keeping s) (st : σ) : k.Rests st st := ⟨rfl, fun _ h => h⟩

theorem Rests.trans (h : k.Rests st mid) (h' : k.Rests mid st') : k.Rests st st' :=
  ⟨h'.1.trans h.1, fun job awake => h'.2 job (h.2 job awake)⟩

theorem rests_load (k : Keeping s) (job : String) (st : σ) : k.Rests st (s.load job st).2 :=
  ⟨k.stands_load job st, fun _ => k.awake_load⟩

def Acts (k : Keeping s) : List Written → σ → σ → Prop
  | [], st, st' => k.Rests st st'
  | w :: ws, st, st' => ∃ mid, k.Rests st mid ∧ (s.write w.job w.write mid).1.isOk = w.ok ∧
    k.Acts ws (s.write w.job w.write mid).2 st'

theorem Acts.of_rests (h : k.Rests st mid) (acts : k.Acts ws mid st') : k.Acts ws st st' := by
  cases ws with
  | nil => exact h.trans acts
  | cons w ws =>
    obtain ⟨at_, rests, rest⟩ := acts
    exact ⟨at_, h.trans rests, rest⟩

theorem rests_of_serves {e : Exchange} (h : s.Serves e st st') (quiet : e.written? = none) :
    k.Rests st st' := by
  obtain ⟨c, reply⟩ := e
  cases c with
  | load job =>
    have rests := k.rests_load job st
    rwa [show s.load job st = (reply, st') from h] at rests
  | save | markBuild | clear => cases quiet
  | create | status | comment =>
    cases h
    exact .refl k _

theorem acts_of_replays {es : List Exchange} (h : s.Replays es st st') :
    k.Acts (writes es) st st' := by
  induction es generalizing st with
  | nil =>
    cases h
    exact .refl k _
  | cons e es ih =>
    obtain ⟨mid, served, rest⟩ := h
    rw [writes_cons]
    cases written : e.written? with
    | none => exact (ih rest).of_rests (rests_of_serves served written)
    | some w =>
      obtain ⟨same, next⟩ := Store.write_of_serves served written
      exact ⟨st, .refl k st, same, by rw [next]; exact ih rest⟩

theorem Acts.awake (h : k.Acts ws st st') (awake : k.awake st job) : k.awake st' job := by
  induction ws generalizing st with
  | nil => exact h.2 job awake
  | cons w ws ih =>
    obtain ⟨mid, rests, -, rest⟩ := h
    exact ih rest (k.awake_write w.write (rests.2 job awake))

theorem Acts.stands_apart (h : k.Acts ws st st') (apart : ∀ w ∈ ws, k.apart w.job job) :
    k.stands st' job = k.stands st job := by
  induction ws generalizing st with
  | nil => rw [h.1]
  | cons w ws ih =>
    obtain ⟨mid, rests, -, rest⟩ := h
    rw [ih rest fun w hw => apart w (List.mem_cons_of_mem _ hw),
      k.write_apart w.write (apart w List.mem_cons_self), rests.1]

theorem Acts.failed {w : Written} (h : k.Acts (w :: ws) st st') (failed : w.ok = false) :
    k.Acts ws st st' := by
  obtain ⟨mid, rests, result, rest⟩ := h
  refine rest.of_rests (rests.trans ⟨?_, fun _ => k.awake_write w.write⟩)
  cases reply : (s.write w.job w.write mid).1 with
  | ok => rw [reply, failed] at result; cases result
  | error f => exact k.write_error reply

theorem Acts.rests_of_failed (h : k.Acts ws st st') (failed : ∀ w ∈ ws, w.ok = false) :
    k.Rests st st' := by
  induction ws with
  | nil => exact h
  | cons w ws ih =>
    apply ih (h.failed (failed w List.mem_cons_self))
    intro w hw
    exact failed w (List.mem_cons_of_mem _ hw)

theorem ok_of_isOk {ε : Type} {r : Except ε Unit} (h : r.isOk = true) : r = .ok () := by
  cases r with
  | ok => rfl
  | error => cases h

theorem Acts.saved {key : String} {n : Int}
    (h : k.Acts (⟨job, .save (some key) (some n), true⟩ :: ws) st st') (tidy : Tidy key) :
    ∃ mid shown, k.Acts ws mid st' ∧ k.awake mid job ∧ k.stands mid job = some ⟨shown, some n⟩ ∧
      shown ≠ "" ∧ (IsLine key.toList → shown = key) := by
  obtain ⟨mid, rests, result, rest⟩ := h
  obtain ⟨awake, shown, stands, named, same⟩ := k.save_ok (ok_of_isOk result) tidy
  exact ⟨_, shown, rest, awake, stands, named, same⟩

theorem Acts.marked {n : Int} {r : Record}
    (h : k.Acts (⟨job, .markBuild (some n), true⟩ :: ws) st st') (awake : k.awake st job)
    (stands : k.stands st job = some r) :
    ∃ mid, k.Acts ws mid st' ∧ k.awake mid job ∧
      k.stands mid job = some { r with build := some n } := by
  obtain ⟨mid, rests, result, rest⟩ := h
  rw [← rests.1] at stands
  have marked := k.markBuild_ok (ok_of_isOk result) (rests.2 job awake) stands
  exact ⟨_, rest, k.awake_write _ (rests.2 job awake), marked⟩

theorem Acts.cleared (h : k.Acts (⟨job, .clear, true⟩ :: ws) st st') (awake : k.awake st job) :
    ∃ mid, k.Acts ws mid st' ∧ k.awake mid job ∧ k.stands mid job = none := by
  obtain ⟨mid, rests, result, rest⟩ := h
  exact ⟨_, rest, k.awake_write _ (rests.2 job awake),
    k.clear_ok (ok_of_isOk result) (rests.2 job awake)⟩

end Keeping

/-- A cycle on a store: the record that it saw, what it did, and what the store made of it. -/
structure Job.Account (j : Job) (k : Keeping s) (es : List Exchange) (record : Option Record)
    (st st' : σ) : Prop where
  found {r} : record = some r → k.stands st j.report.job = some r ∧ k.awake st j.report.job
  missing : record = none → k.awake st j.report.job → k.stands st j.report.job = none
  deed : j.Deed record (tally es)
  acts : k.Acts (writes es) st st'
  ticket {e} : e ∈ es → ∀ {key}, e.ticket? = some key → ∃ r, record = some r ∧ r.key = key ∧ key ≠ ""

namespace Job

variable {j : Job} {k : Keeping s} {es : List Exchange} {st st' : σ}

theorem Choice.replays {action : Action} {es' : List Exchange} {record : Option Record}
    (h : j.Choice es (.ok (record, action))) (k : Keeping s)
    (replays : s.Replays (es ++ es') st st') :
    s.load j.report.job st = (.ok record, st) ∧ s.Replays es' st st' := by
  cases h with
  | chosen course =>
    obtain ⟨mid, loaded, rest⟩ := replays
    have loaded : s.load j.report.job st = (.ok record, mid) := loaded
    obtain rfl : mid = st := by
      have same := k.load_ok (congrArg Prod.fst loaded)
      rw [loaded] at same
      exact same
    obtain ⟨mid', asked, onward⟩ := Store.replays_append.mp rest
    obtain rfl := course.replays asked
    exact ⟨loaded, onward⟩

theorem Course.account {r} (h : j.Course es r) (k : Keeping s) (replays : s.Replays es st st') :
    ∃ record, j.Account k es record st st' := by
  have acts := k.acts_of_replays replays
  obtain ⟨fault, rfl⟩ | ⟨record, rest, rfl, deed, ticket⟩ := h.deed
  · -- Nothing was loaded: the account is told of the record that is there to be loaded.
    refine ⟨open Classical in if k.awake st j.report.job then k.stands st j.report.job else none,
      ?_, ?_, .quiet, acts, ?_⟩
    · intro r hr
      split at hr
      · exact ⟨hr, ‹_›⟩
      · cases hr
    · intro missing awake
      rwa [if_pos awake] at missing
    · intro e he key about
      obtain rfl := List.mem_singleton.mp he
      cases about
  · obtain ⟨mid, loaded, -⟩ := replays
    have loaded : (s.load j.report.job st).1 = .ok record := congrArg Prod.fst loaded
    refine ⟨record, ?_, ?_, deed, acts, ?_⟩
    · rintro r rfl
      exact k.found loaded
    · rintro rfl awake
      exact k.missing loaded awake
    · intro e he key about
      obtain rfl | he := List.mem_cons.mp he
      · cases about
      · exact ticket e he key about

/-- A cycle has no part in the records of the jobs that are kept apart from its own. -/
theorem Account.stands_apart {record : Option Record} (a : j.Account k es record st st')
    {other : String} (apart : k.apart j.report.job other) :
    k.stands st' other = k.stands st other :=
  a.acts.stands_apart fun w hw => by rwa [a.deed.job_eq hw]

end Job

end TicketKeeper
