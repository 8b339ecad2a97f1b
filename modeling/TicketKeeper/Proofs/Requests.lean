import TicketKeeper.Proofs.Failing
import TicketKeeper.Proofs.Jira.Sending

/-! The requests of a cycle. Whatever the service replies, and whether or not the link holds, what
changes something is sent once at most, and only when it is known how the tracked ticket stands. -/
namespace TicketKeeper

theorem Situation.idle_of_settled {s : Situation} {key : String} {action : Action}
    (h : s.decide = .settled action) (tracked : s.tracked? = some key) :
    ∃ reason, action = .idle reason := by
  simp only [decide, onFailure, onSuccess, tracked] at h
  split at h
  · cases h
    exact ⟨_, rfl⟩
  split at h
  · cases h
    exact ⟨_, rfl⟩
  split at h
  · cases h
    exact ⟨_, rfl⟩
  split at h <;> cases h

namespace Job

variable {j : Job} {es : List Exchange}

theorem Course.loads {σ : Type} {s : Store σ} {st st' : σ} {r} (h : j.Course es r)
    (replays : s.Replays es st st') :
    ⟨.load j.report.job, (s.load j.report.job st).1⟩ ∈ es := by
  have first {es' r'} (choice : j.Choice es' r') :
      ∃ reply rest, es' = ⟨.load j.report.job, reply⟩ :: rest := by
    obtain ⟨reply, asked, -, -, rfl, -⟩ := choice.reads
    exact ⟨reply, asked, rfl⟩
  cases h with
  | unsettled choice | stopped choice | applied choice =>
    obtain ⟨reply, rest, rfl⟩ := first choice
    obtain ⟨mid, loaded, -⟩ := replays
    rw [congrArg Prod.fst loaded]
    exact List.mem_cons_self

/-- A cycle that posts anything has been told the status of the tracked ticket. -/
theorem Course.told {r} {record : Record} (h : j.Course es r)
    (loaded : ⟨.load j.report.job, .ok (some record)⟩ ∈ es) (tracked : record.key ≠ "")
    (posted : .comment ∈ TicketKeeper.kinds es ∨ .create ∈ TicketKeeper.kinds es) :
    ∃ told, ⟨.status record.key, .ok told⟩ ∈ es := by
  have once := h.nodup_kinds
  cases h with
  | unsettled choice =>
    have reads := choice.kinds
    rcases posted with posted | posted <;> simpa using reads.subset posted
  | @stopped _ _ action _ _ choice courses | @applied _ _ action _ _ choice courses =>
    cases choice with
    | chosen course free =>
      -- The record was loaded once, so it is the one on which the choice was made.
      cases List.inj_on_of_nodup_map once loaded List.mem_cons_self rfl
      have ticket : (j.situation (some record)).tracked? = some record.key := by
        simp [situation, Situation.tracked?, tracked]
      generalize made : (j.situation (some record)).decide = d at course
      cases course with
      | settled =>
        obtain ⟨reason, rfl⟩ := Situation.idle_of_settled made ticket
        cases courses <;> simp [Call.kind] at posted
      | @answered key answer raw =>
        obtain rfl : record.key = key := by
          simpa [ticket] using Situation.tracked?_of_asks made
        exact ⟨raw, by simp⟩

end Job

namespace Jira.Client

variable {c : Client} {es : List Exchange} {xs : List Sent}

section Once

variable (once : (kinds es).Nodup)
include once

theorem part_status (h : Part c.Sends es .status xs) :
    (∃ key, c.Repeats (.status key) c.tries xs) ∧
      ∀ key told, ⟨.status key, .ok told⟩ ∈ es → c.Granted (.status key) xs := by
  constructor
  · obtain ⟨-, rfl⟩ | ⟨⟨call, reply⟩, -, kind, rule⟩ := h
    · exact ⟨"", .nil⟩
    · cases call <;> cases kind
      exact ⟨_, rule.1⟩
  · intro key told asked
    exact (h.rule once asked).2 told rfl

theorem part_comment (h : Part c.Sends es .comment xs) :
    (∃ key text, c.Repeats (.comment key text) 1 xs) ∧
      ∀ key text, ⟨.comment key text, .ok ()⟩ ∈ es → c.Granted (.comment key text) xs := by
  constructor
  · obtain ⟨-, rfl⟩ | ⟨⟨call, reply⟩, -, kind, rule⟩ := h
    · exact ⟨"", "", .nil⟩
    · cases call <;> cases kind
      exact ⟨_, _, rule.1⟩
  · intro key text said
    exact (h.rule once said).2 () rfl

theorem part_create (h : Part c.Sends es .create xs) :
    ∃ listings issue form resolved, xs = listings ++ issue ∧
      c.Repeats (.components form.projectKey) c.tries listings ∧
      c.Repeats (.issue (c.fieldsJson form resolved)) 1 issue ∧
      ∀ form' made, ⟨.create form', .ok made⟩ ∈ es →
        form' = form ∧ c.Granted (.issue (c.fieldsJson form resolved)) issue := by
  obtain ⟨absent, rfl⟩ | ⟨⟨call, reply⟩, called, kind, rule⟩ := h
  · refine ⟨[], [], ⟨"", "", "", none, none⟩, none, rfl, .nil, .nil, fun form' made created => ?_⟩
    exact absurd (List.mem_map_of_mem created) absent
  · cases call <;> cases kind
    obtain ⟨listings, issue, resolved, both, listed, posted, granted⟩ := rule
    refine ⟨listings, issue, _, resolved, both, listed, posted, fun form' made created => ?_⟩
    cases List.inj_on_of_nodup_map once called created rfl
    exact ⟨rfl, granted made rfl⟩

end Once

theorem part_store {k : CallKind} (h : Part c.Sends es k xs)
    (store : k ∈ [.load, .save, .markBuild, .clear]) : xs = [] := by
  obtain ⟨-, rfl⟩ | ⟨⟨call, reply⟩, -, rfl, rule⟩ := h
  · rfl
  · cases call with
    | load | save | markBuild | clear => exact rule
    | create | status | comment => simp [Call.kind] at store

end Jira.Client

/-- A cycle sends status lookups, a comment, lookups of components and an issue, in that order and
none of the posts twice; each call that succeeds was sent, and its last reply was no error. For a
job with a tracked ticket nothing is posted unless the status was told, and when it says nothing,
nothing more is sent. -/
theorem reconcile_sends_in_order {σ : Type} (c : Jira.Client) (s : Store σ) (j : Job)
    (link : Jira.Link) (st : σ) :
    let out := (Parties.mk c.tracker s).reconcile j ⟨link, st, []⟩
    let calls := exchanges out.2.log
    ∃ lookups comment listings issue : List Sent,
      requests out.2.log = lookups ++ comment ++ listings ++ issue ∧
      ((∃ key, c.Repeats (.status key) c.tries lookups) ∧
        ∀ key told, ⟨.status key, .ok told⟩ ∈ calls → c.Granted (.status key) lookups) ∧
      ((∃ key text, c.Repeats (.comment key text) 1 comment) ∧
        ∀ key text, ⟨.comment key text, .ok ()⟩ ∈ calls → c.Granted (.comment key text) comment) ∧
      (∃ form resolved, c.Repeats (.components form.projectKey) c.tries listings ∧
        c.Repeats (.issue (c.fieldsJson form resolved)) 1 issue ∧
        ∀ form' made, ⟨.create form', .ok made⟩ ∈ calls →
          form' = form ∧ c.Granted (.issue (c.fieldsJson form resolved)) issue) ∧
      (∀ r, (s.load j.report.job st).1 = .ok (some r) → r.key ≠ "" → comment ++ issue ≠ [] →
        c.Granted (.status r.key) lookups) ∧
      (∀ key reply, ⟨.status key, reply⟩ ∈ calls → (Status.refusal? j.extra reply).isSome →
        comment ++ listings ++ issue = []) := by
  intro out calls
  let p := Parties.mk c.tracker s
  obtain ⟨es, path, stored, -, logged⟩ := p.carry_spec j.plan ⟨link, st, []⟩
  obtain ⟨es', xs, called, posts, parted⟩ :=
    Parties.carry_parted (p := p) c.tracker_sends j.plan ⟨link, st, []⟩
  obtain rfl : es = es' := by simpa using logged.symm.trans called
  have logged : calls = es := logged
  have course := Job.course path
  have once := course.nodup_kinds
  obtain ⟨sends, rfl, parts⟩ := parted.by_kind CallKind.nodup_inOrder course.kinds
  have part (k : CallKind) : Part c.Sends es k (sends k) := parts k k.mem_inOrder
  have silent (k : CallKind) (store : k ∈ [.load, .save, .markBuild, .clear]) : sends k = [] :=
    Jira.Client.part_store (part k) store
  have asking := Jira.Client.part_status once (part .status)
  have saying := Jira.Client.part_comment once (part .comment)
  obtain ⟨listings, issue, form, resolved, both, creating⟩ :=
    Jira.Client.part_create once (part .create)
  rw [logged]
  refine ⟨sends .status, sends .comment, listings, issue, ?_, asking, saying,
    ⟨form, resolved, creating⟩, ?_, ?_⟩
  · apply posts.trans
    simp [CallKind.inOrder, silent, both]
  · intro r loaded tracked posted
    have begun := course.loads stored
    rw [show (p.store.load j.report.job st).1 = _ from loaded] at begun
    obtain ⟨told, asked⟩ : ∃ told, ⟨.status r.key, .ok told⟩ ∈ es := by
      apply course.told begun tracked
      by_contra neither
      rw [not_or] at neither
      have unsent := (part .create).eq_nil neither.2
      rw [both, List.append_eq_nil_iff] at unsent
      apply posted
      rw [(part .comment).eq_nil neither.1, unsent.2]
      rfl
    exact asking.2 r.key told asked
  · intro key reply asked refused
    obtain ⟨fault, refused⟩ := Option.isSome_iff_exists.mp refused
    rw [← logged] at asked
    have reads := (Parties.reads_of_unsettled rfl (Parties.choose_refused rfl asked refused)).2
    rw [show exchanges out.2.log = es from logged] at reads
    have unsent (k : CallKind) (other : k ∉ [.load, .status]) : sends k = [] :=
      (part k).eq_nil fun called => other (reads.subset called)
    rw [List.append_assoc, ← both, unsent .comment (by decide), unsent .create (by decide)]
    rfl

end TicketKeeper
