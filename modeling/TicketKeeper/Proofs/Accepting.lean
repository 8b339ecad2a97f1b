import Mathlib.Data.List.Chain
import TicketKeeper.Proofs.Cycle.Trace
import TicketKeeper.Proofs.Jira.Posting
import TicketKeeper.Proofs.Naming
import TicketKeeper.Proofs.Run

/-! What a record rests on. A build is marked and a ticket saved right after the post that they are
about, and that post had an answer which was no error; but a redirection is no error, though
nothing was posted then. -/
namespace TicketKeeper

/-- A record is written of what the call before it has brought about. -/
def Grounds (before e : Exchange) : Prop :=
  match e.1 with
  | .markBuild .. => ∃ key text, before = ⟨.comment key text, .ok ()⟩
  | .save _ key _ => ∃ form issue, before = ⟨.create form, .ok issue⟩ ∧ issue.key = key
  | .load _ | .clear _ | .create _ | .status _ | .comment .. => True

def Grounded (es : List Exchange) : Prop := ∀ before, (before :: es).IsChain Grounds

namespace Grounded

variable {es es' first rest : List Exchange} {e e' : Exchange}

theorem nil : Grounded [] := fun _ => .singleton _

theorem cons (free : ∀ before, Grounds before e) (h : Grounded es) : Grounded (e :: es) :=
  fun before => .cons_cons (free before) (h e)

theorem append (h : Grounded es) (h' : Grounded es') : Grounded (es ++ es') := by
  intro before
  rw [← List.cons_append, List.isChain_append]
  refine ⟨h before, (h' before).tail, fun x _ y hy => ?_⟩
  exact (List.isChain_cons.mp (h' x)).1 y hy

theorem pair (free : ∀ before, Grounds before e) (grounds : Grounds e e') : Grounded [e, e'] :=
  fun before => .cons_cons (free before) (.cons_cons grounds (.singleton e'))

theorem last (h : Grounded (first ++ e :: rest)) {other : Exchange} (needy : ¬ Grounds other e) :
    ∃ earlier before, first = earlier ++ [before] ∧ Grounds before e := by
  obtain rfl | ⟨earlier, before, rfl⟩ := List.eq_nil_or_concat first
  · exact absurd (List.isChain_cons_cons.mp (h other)).1 needy
  · refine ⟨earlier, before, by simp, ?_⟩
    have chain := (h before).tail
    rw [List.concat_eq_append, List.append_assoc] at chain
    exact (List.isChain_cons_cons.mp (List.isChain_append.mp chain).2.1).1

end Grounded

theorem Decision.Course.grounded {extra : Status.Extra} {d : Decision} {es r}
    (h : d.Course extra es r) : Grounded es := by
  cases h with
  | settled => exact .nil
  | unanswered | unknown | answered => exact .cons (fun _ => trivial) .nil

theorem Farewell.grounded {key : String} {text : Option String} {es r}
    (h : Farewell key text es r) : Grounded es := by
  cases h with
  | none | empty => exact .nil
  | said | refused | broken => exact .cons (fun _ => trivial) .nil

namespace Step

variable {job : String} {n : Int} {done : Applied} {es : List Exchange}

theorem Course.grounded {s : Step} {r} (h : Course job n done s es r) : Grounded es := by
  cases h with
  | uncreated | unsaid => exact .cons (fun _ => trivial) .nil
  | unsaved | created => exact .pair (fun _ => trivial) ⟨_, _, rfl, rfl⟩
  | unmarked | commented => exact .pair (fun _ => trivial) ⟨_, _, rfl⟩
  | kept farewell => exact farewell.grounded
  | uncleared farewell | forgotten farewell =>
    exact farewell.grounded.append (.cons (fun _ => trivial) .nil)

theorem Courses.grounded {steps : List Step} {r} (h : Courses job n done steps es r) :
    Grounded es := by
  induction h with
  | done => exact .nil
  | stopped step => exact step.grounded
  | next step _ ih => exact step.grounded.append ih

end Step

theorem Job.Course.grounded {j : Job} {es r} (h : j.Course es r) : Grounded es := by
  have settling {es' r'} (choice : j.Choice es' r') : Grounded es' := by
    obtain ⟨reply, asked, d, r', rfl, course⟩ := choice.reads
    exact .cons (fun _ => trivial) course.grounded
  cases h with
  | unsettled choice => exact settling choice
  | stopped choice courses | applied choice courses =>
    exact (settling choice).append courses.grounded

theorem mem_log_of_mem_exchanges {e : Exchange} {log : List Event} (h : e ∈ exchanges log) :
    .call e.1 e.2 ∈ log := by
  obtain ⟨event, logged, same⟩ := List.mem_filterMap.mp h
  cases event with
  | call =>
    cases same
    exact logged
  | wire => cases same

section Logs

variable {σ : Type} (c : Jira.Client) (s : Store σ) (j : Job) (link : Jira.Link) (st : σ)
  {before after : List Event}

/-- What a cycle writes of a post is logged behind the post and its requests. -/
theorem Jira.Client.logged_before {e : Exchange}
    (cut : ((Parties.mk c.tracker s).reconcile j ⟨link, st, []⟩).2.log =
      before ++ .call e.1 e.2 :: after) {other : Exchange} (needy : ¬ Grounds other e) :
    ∃ ground : Exchange, Grounds ground e ∧ ∃ earlier wire,
      before = earlier ++ .call ground.1 ground.2 :: wire.map .wire ∧
        c.Sends ground (sent wire) := by
  obtain ⟨es, log, path, logged, traced⟩ :=
    Parties.carry_traced (p := ⟨c.tracker, s⟩) c.tracker_sends j.plan ⟨link, st, []⟩
  obtain rfl : log = before ++ .call e.1 e.2 :: after := logged.symm.trans cut
  obtain ⟨first, rest, rfl, front⟩ := traced.split
  obtain ⟨earlier, ground, rfl, grounds⟩ := (Job.course path).grounded.last needy
  obtain ⟨earlier, wire, rfl, sends⟩ := front.concat
  exact ⟨ground, grounds, earlier, wire, rfl, sends⟩

end Logs

/-- A post counts as done when its answer is no error, and a cycle marks a build or saves a ticket
right after such an answer only. -/
theorem reconcile_records_unrefused {σ : Type} (c : Jira.Client) (s : Store σ) (j : Job)
    (link : Jira.Link) (st : σ) :
    let out := (Parties.mk c.tracker s).reconcile j ⟨link, st, []⟩
    (∀ key text link, (c.comment key text link).result = .ok () ↔
      ∃ r, c.Answered link (.comment key text) r ∧ r.isError = false) ∧
    (∀ form issue link, (c.create form link).result = .ok issue ↔
      ∃ resolved r, (c.resolve form link).result = .ok resolved ∧
        c.Answered (c.resolve form link).next (.issue (c.fieldsJson form resolved)) r ∧
        r.isError = false ∧ Jira.readCreated c.host.jsonDepth r = .ok issue) ∧
    (∀ job n reply before after, out.2.log = before ++ .call (.markBuild job n) reply :: after →
      ∃ key text earlier wire,
        before = earlier ++ .call (.comment key text) (.ok ()) :: wire.map .wire ∧
          c.Granted (.comment key text) (sent wire)) ∧
    (∀ job key n reply before after, out.2.log = before ++ .call (.save job key n) reply :: after →
      ∃ form issue resolved earlier wire, issue.key = key ∧
        before = earlier ++ .call (.create form) (.ok issue) :: wire.map .wire ∧
          c.Granted (.issue (c.fieldsJson form resolved)) (sent wire)) := by
  intro out
  -- A load has brought nothing about.
  let idle : Exchange := ⟨.load "", .ok none⟩
  refine ⟨fun key text link => c.comment_ok_iff link key text,
    fun form issue link => c.create_ok_iff link form issue, ?_, ?_⟩
  · intro job n reply before after cut
    have needy : ¬ Grounds idle ⟨.markBuild job n, reply⟩ := by simp [Grounds, idle]
    obtain ⟨_, ⟨key, text, rfl⟩, earlier, wire, rfl, sends⟩ := c.logged_before s j link st cut needy
    exact ⟨key, text, earlier, wire, rfl, sends.2 () rfl⟩
  · intro job key n reply before after cut
    have needy : ¬ Grounds idle ⟨.save job key n, reply⟩ := by simp [Grounds, idle]
    obtain ⟨_, ⟨form, issue, rfl, same⟩, earlier, wire, rfl, sends⟩ :=
      c.logged_before s j link st cut needy
    obtain ⟨listings, posts, resolved, both, -, -, granted⟩ := sends
    obtain ⟨front, request, raw, addressed, rfl, fair⟩ := granted issue rfl
    exact ⟨form, issue, resolved, earlier, wire, same, rfl, listings ++ front, request, raw,
      addressed, by rw [both, List.append_assoc], fair⟩

/-- A comment on an open ticket that was created. -/
theorem reconcile_records_unrefused_comment :
    let c := Jira.Client.plain
    let link := Jira.Link.telling "Open" [.reply { status := 201 }]
    let out := (Parties.mk c.tracker Store.Backend.table.store).reconcile (.plain "J" 7 .failure)
      ⟨link, .tracking "J" "T-1" 6, []⟩
    ∃ before reply after, out.2.log = before ++ .call (.markBuild "J" 7) reply :: after ∧
      ∃ key text earlier wire,
        before = earlier ++ .call (.comment key text) (.ok ()) :: wire.map .wire ∧
          c.Granted (.comment key text) (sent wire) := by
  intro c link out
  obtain ⟨-, -, marks, -⟩ := reconcile_records_unrefused c Store.Backend.table.store
    (.plain "J" 7 .failure) link (.tracking "J" "T-1" 6)
  have called : .markBuild "J" 7 ∈ (exchanges out.2.log).map (·.1) := by decide +kernel
  obtain ⟨⟨_, reply⟩, exchanged, rfl⟩ := List.mem_map.mp called
  obtain ⟨before, after, cut⟩ := List.append_of_mem (mem_log_of_mem_exchanges exchanged)
  exact ⟨before, reply, after, cut, marks "J" 7 reply before after cut⟩

/-- A comment on an open ticket whose only answer was a redirection. -/
theorem reconcile_comment_redirected :
    let link := Jira.Link.telling "Open" [.reply { status := 302 }]
    let p := Parties.mk Jira.Client.plain.tracker Store.Backend.table.store
    let out := p.reconcile (.plain "J" 7 .failure) ⟨link, .tracking "J" "T-1" 6, []⟩
    out.1.toOption.map (·.applied.commented) = some (some "T-1") ∧
      Store.Backend.table.keeping.stands out.2.store "J" = some ⟨"T-1", some 7⟩ ∧
      ((requests out.2.log).filter (·.1.method = .post)).map (·.2.status?) = [some 302] := by
  refine ⟨?_, ?_, ?_⟩
  · decide +kernel
  · decide +kernel
  · decide +kernel

end TicketKeeper
