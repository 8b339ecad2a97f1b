import TicketKeeper.Proofs.Cycle.Wire

/-! Logs, call by call. Parties that carry out a plan log each call together with what was sent for
it, so a log that is cut at a call tells what was sent for the call before. -/
namespace TicketKeeper

/-- A log of calls, each with the requests that a rule has for it. -/
inductive Traced (Rule : Exchange → List Sent → Prop) : List Exchange → List Event → Prop
  | nil : Traced Rule [] []
  | cons {c reply wire es log} : Rule ⟨c, reply⟩ (sent wire) → Traced Rule es log →
    Traced Rule (⟨c, reply⟩ :: es) (.call c reply :: (wire.map .wire ++ log))

variable {Rule : Exchange → List Sent → Prop} {es : List Exchange} {log before after : List Event}
  {c : Call} {reply : Except Fault c.Reply}

theorem wire_append_eq_call {wire : List WireEvent}
    (h : wire.map .wire ++ log = before ++ .call c reply :: after) :
    ∃ later, before = wire.map .wire ++ later ∧ log = later ++ .call c reply :: after := by
  obtain ⟨later, rfl, rest⟩ | ⟨left, cut, rest⟩ := List.append_eq_append_iff.mp h
  · exact ⟨later, rfl, rest⟩
  cases left with
  | nil => exact ⟨[], by simpa using cut.symm, rest.symm⟩
  | cons e left =>
    obtain ⟨rfl, -⟩ := List.cons.inj rest
    have wired : Event.call c reply ∈ wire.map .wire := by simp [cut]
    obtain ⟨_, -, ⟨⟩⟩ := List.mem_map.mp wired

namespace Traced

theorem split (h : Traced Rule es (before ++ .call c reply :: after)) :
    ∃ first rest, es = first ++ ⟨c, reply⟩ :: rest ∧ Traced Rule first before := by
  generalize cut : before ++ .call c reply :: after = log at h
  induction h generalizing before with
  | nil => simp at cut
  | cons rule traced ih =>
    cases before with
    | nil =>
      cases cut
      exact ⟨[], _, rfl, .nil⟩
    | cons e before =>
      obtain ⟨rfl, behind⟩ := List.cons.inj cut
      obtain ⟨later, rfl, within⟩ := wire_append_eq_call behind.symm
      obtain ⟨first, rest, rfl, front⟩ := ih within.symm
      exact ⟨_ :: first, rest, rfl, .cons rule front⟩

theorem concat (h : Traced Rule (es ++ [⟨c, reply⟩]) log) :
    ∃ earlier wire, log = earlier ++ .call c reply :: wire.map .wire ∧
      Rule ⟨c, reply⟩ (sent wire) := by
  induction es generalizing log with
  | nil =>
    cases h with
    | cons rule traced =>
      cases traced
      exact ⟨[], _, by simp, rule⟩
  | cons e es ih =>
    cases h with
    | @cons c' reply' wire' _ _ _ traced =>
      obtain ⟨earlier, wire, rfl, rule⟩ := ih traced
      exact ⟨.call c' reply' :: (wire'.map .wire ++ earlier), wire, by simp, rule⟩

end Traced

namespace Parties

variable {τ σ α : Type} {p : Parties τ σ}

theorem call_log (c : Call) (scene : Scene τ σ) :
    (p.call c scene).2.log = scene.log ++
      .call c (p.call c scene).1 :: (p.tracker.wire c scene.tracker).map .wire := by
  cases c <;> simp [call, Cycle.onStore, Cycle.onTracker, Tracker.wire]

/-- Parties that carry out a plan go along a path, and log it. -/
theorem carry_traced (sends : p.tracker.Sends Rule) (x : Plan α) (scene : Scene τ σ) :
    ∃ es log, x.Path es (p.carry x scene).1 ∧ (p.carry x scene).2.log = scene.log ++ log ∧
      Traced Rule es log := by
  induction x generalizing scene with
  | give a => exact ⟨[], [], .give a, (List.append_nil _).symm, .nil⟩
  | fail fault => exact ⟨[], [], .fail fault, (List.append_nil _).symm, .nil⟩
  | call c next ih =>
    obtain ⟨-, told, -⟩ := p.call_spec c scene
    obtain ⟨es, log, path, logged, traced⟩ := ih (p.call c scene).1 (p.call c scene).2
    rw [call_log, List.append_assoc, List.cons_append] at logged
    exact ⟨_, _, .call path, logged, .cons (sends _ _ _ told) traced⟩

end Parties

end TicketKeeper
