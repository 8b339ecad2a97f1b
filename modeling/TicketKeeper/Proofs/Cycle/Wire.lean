import Mathlib.Data.List.Nodup
import Mathlib.Logic.Function.Basic
import TicketKeeper.Proofs.Cycle.Order

/-! What a cycle sends. The requests of a log come in parts, one for each call, and in the order of
the calls; what a part holds is said by a rule about single calls. -/
namespace TicketKeeper

abbrev Sent := Request × Delivery

def WireEvent.sent? : WireEvent → Option Sent
  | exchange request delivery => some (request, delivery)
  | pause _ => none

def sent (wire : List WireEvent) : List Sent := wire.filterMap WireEvent.sent?

@[simp] theorem sent_nil : sent [] = [] := rfl

@[simp] theorem sent_exchange (request : Request) (delivery : Delivery) (wire : List WireEvent) :
    sent (.exchange request delivery :: wire) = (request, delivery) :: sent wire := rfl

@[simp] theorem sent_pause (seconds : Number.Binary64) (wire : List WireEvent) :
    sent (.pause seconds :: wire) = sent wire := rfl

@[simp] theorem sent_append (wire more : List WireEvent) :
    sent (wire ++ more) = sent wire ++ sent more := List.filterMap_append

def Event.sent? : Event → Option Sent
  | .call .. => none
  | .wire e => e.sent?

def requests (log : List Event) : List Sent := log.filterMap Event.sent?

@[simp] theorem requests_nil : requests [] = [] := rfl

@[simp] theorem requests_append (log more : List Event) :
    requests (log ++ more) = requests log ++ requests more := List.filterMap_append

@[simp] theorem requests_call (c : Call) (reply : Except Fault c.Reply) (log : List Event) :
    requests (.call c reply :: log) = requests log := rfl

@[simp] theorem requests_wire (wire : List WireEvent) : requests (wire.map .wire) = sent wire := by
  rw [requests, List.filterMap_map]
  rfl

def Tracker.wire {τ : Type} (t : Tracker τ) : Call → τ → List WireEvent
  | .create form, x => (t.create form x).wire
  | .status key, x => (t.status key x).wire
  | .comment key text, x => (t.comment key text x).wire
  | .load _, _ | .save .., _ | .markBuild .., _ | .clear _, _ => []

/-- Requests that were sent for calls, in one part for each call. -/
inductive Parted (Rule : Exchange → List Sent → Prop) : List Exchange → List Sent → Prop
  | nil : Parted Rule [] []
  | cons {e es part rest} : Rule e part → Parted Rule es rest → Parted Rule (e :: es) (part ++ rest)

theorem Parted.exists_part {Rule : Exchange → List Sent → Prop} {es : List Exchange}
    {xs : List Sent} (h : Parted Rule es xs) {x : Sent} (hx : x ∈ xs) :
    ∃ e ∈ es, ∃ part, Rule e part ∧ x ∈ part := by
  induction h with
  | nil => cases hx
  | cons rule _ ih =>
    obtain hx | hx := List.mem_append.mp hx
    · exact ⟨_, List.mem_cons_self, _, rule, hx⟩
    · obtain ⟨e, he, sent⟩ := ih hx
      exact ⟨e, List.mem_cons_of_mem _ he, sent⟩

def Tracker.Sends {τ : Type} (t : Tracker τ) (Rule : Exchange → List Sent → Prop) : Prop :=
  ∀ e x x', t.Serves e x x' → Rule e (sent (t.wire e.1 x))

variable {Rule : Exchange → List Sent → Prop} {es : List Exchange} {xs : List Sent}

namespace Parties

variable {τ σ α : Type} {p : Parties τ σ}

theorem requests_call_log (c : Call) (scene : Scene τ σ) :
    requests (p.call c scene).2.log =
      requests scene.log ++ sent (p.tracker.wire c scene.tracker) := by
  cases c <;> simp [call, Cycle.onStore, Cycle.onTracker, Tracker.wire]

theorem carry_parted (sends : p.tracker.Sends Rule) (x : Plan α) (scene : Scene τ σ) :
    ∃ es xs, exchanges (p.carry x scene).2.log = exchanges scene.log ++ es ∧
      requests (p.carry x scene).2.log = requests scene.log ++ xs ∧ Parted Rule es xs := by
  induction x generalizing scene with
  | give | fail => exact ⟨[], [], (List.append_nil _).symm, (List.append_nil _).symm, .nil⟩
  | call c next ih =>
    obtain ⟨-, told, logged⟩ := p.call_spec c scene
    obtain ⟨es, xs, calls, posts, parted⟩ := ih (p.call c scene).1 (p.call c scene).2
    rw [logged, List.append_assoc] at calls
    rw [requests_call_log, List.append_assoc] at posts
    exact ⟨_, _, calls, posts, .cons (sends _ _ _ told) parted⟩

end Parties

/-- What was sent for the call of a kind, or nothing when there was no such call. -/
def Part (Rule : Exchange → List Sent → Prop) (es : List Exchange) (k : CallKind)
    (part : List Sent) : Prop :=
  (k ∉ kinds es ∧ part = []) ∨ ∃ e ∈ es, e.1.kind = k ∧ Rule e part

namespace Part

variable {k : CallKind} {part : List Sent} {e : Exchange}

theorem skip (h : Part Rule es k part) (other : k ≠ e.1.kind) : Part Rule (e :: es) k part := by
  rcases h with ⟨absent, silent⟩ | ⟨e', he', kind, rule⟩
  · exact .inl ⟨by simp [other, absent], silent⟩
  · exact .inr ⟨e', List.mem_cons_of_mem _ he', kind, rule⟩

theorem eq_nil (h : Part Rule es k part) (absent : k ∉ kinds es) : part = [] := by
  rcases h with ⟨-, silent⟩ | ⟨e, he, rfl, -⟩
  · exact silent
  · exact absurd (List.mem_map_of_mem he) absent

theorem rule (h : Part Rule es e.1.kind part) (once : (kinds es).Nodup) (he : e ∈ es) :
    Rule e part := by
  rcases h with ⟨absent, -⟩ | ⟨e', he', kind, rule⟩
  · exact absurd (List.mem_map_of_mem he) absent
  · obtain rfl := List.inj_on_of_nodup_map once he' he kind
    exact rule

end Part

section Order

variable {k : CallKind} {order : List CallKind}

theorem exists_parts_cons {first : List Sent} {part : CallKind → List Sent} (new : k ∉ order)
    (head : Part Rule es k first) (parts : ∀ k' ∈ order, Part Rule es k' (part k')) :
    ∃ part', (k :: order).flatMap part' = first ++ order.flatMap part ∧
      ∀ k' ∈ k :: order, Part Rule es k' (part' k') := by
  have differ {k'} (hk' : k' ∈ order) : k' ≠ k := fun same => new (same ▸ hk')
  refine ⟨Function.update part k first, ?_, ?_⟩
  · rw [List.flatMap_cons, Function.update_self]
    congr 1
    apply List.flatMap_congr
    intro k' hk'
    exact Function.update_of_ne (differ hk') ..
  · intro k' hk'
    obtain rfl | hk' := List.mem_cons.mp hk'
    · rwa [Function.update_self]
    · rw [Function.update_of_ne (differ hk')]
      exact parts k' hk'

/-- Calls of different kinds, made in an order, send their requests in that order. -/
theorem Parted.by_kind (h : Parted Rule es xs) (once : order.Nodup)
    (ordered : (kinds es).Sublist order) :
    ∃ part, order.flatMap part = xs ∧ ∀ k ∈ order, Part Rule es k (part k) := by
  induction order generalizing es xs with
  | nil =>
    cases h with
    | nil => exact ⟨fun _ => [], rfl, by simp⟩
    | cons => cases ordered
  | cons k order ih =>
    obtain ⟨new, distinct⟩ := List.nodup_cons.mp once
    cases h with
    | nil => exact ⟨fun _ => [], by simp, fun _ _ => .inl ⟨by simp, rfl⟩⟩
    | @cons e es _ _ rule parted =>
      -- The first kind in the order was not called, or it is that of the first call.
      cases ordered with
      | cons _ ordered =>
        obtain ⟨part, same, parts⟩ := ih (.cons rule parted) distinct ordered
        rw [← same]
        have uncalled : k ∉ kinds (e :: es) := fun called => new (ordered.subset called)
        exact exists_parts_cons new (.inl ⟨uncalled, rfl⟩) parts
      | cons_cons _ ordered =>
        obtain ⟨part, rfl, parts⟩ := ih parted distinct ordered
        apply exists_parts_cons new (.inr ⟨e, List.mem_cons_self, rfl, rule⟩)
        intro k' hk'
        apply (parts k' hk').skip
        rintro rfl
        exact new hk'

end Order

end TicketKeeper
