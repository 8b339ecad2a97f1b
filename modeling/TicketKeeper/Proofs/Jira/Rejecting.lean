import TicketKeeper.Proofs.Jira.Posting
import TicketKeeper.Proofs.Jira.Retrying

/-! Requests that are refused. The text of an error is built from whatever its body holds, and where
it can be made out the call fails as its kind does, with the status told; where it cannot, the call
breaks. -/
namespace TicketKeeper

namespace Reply

def isListing : Json → Bool
  | .arr _ | .obj _ | .str _ => true
  | _ => false

/-- The ways in which the text of an error cannot be made out: its body is nested deeper than is
read, or it has half of a surrogate pair, or it is no JSON and no text either, or its messages are a
number or a truth value. -/
inductive Illegible (r : Reply) (depth : Nat) : Defect → Prop
  | deep : r.json depth = .error .tooDeep → Illegible r depth .tooDeep
  | unpaired : r.json depth = .error .unpaired → Illegible r depth .unencodable
  | undecoded {fault d} : r.json depth = .error fault → fault ≠ .tooDeep → fault ≠ .unpaired →
    r.text = .error d → Illegible r depth d
  | unlisted {members} : r.json depth = .ok (.obj members) →
    (Json.get (.obj members) "errorMessages").isTruthy = true →
    isListing (Json.get (.obj members) "errorMessages") = false → Illegible r depth .wrongType

variable {r : Reply} {depth : Nat} {v : Json} {d : Defect} {text : String}

theorem messageTexts_eq_error_iff :
    messageTexts v = .error d ↔ v.isTruthy = true ∧ isListing v = false ∧ d = .wrongType := by
  unfold messageTexts
  cases truthy : v.isTruthy with
  | false => simp
  | true => cases v <;> simp [isListing, eq_comm]

theorem errorText_eq_error_iff : r.errorText depth = .error d ↔ r.Illegible depth d := by
  constructor
  · intro h
    unfold errorText at h
    dsimp only at h
    split at h
    · cases h
      exact .deep ‹_›
    · cases h
      exact .unpaired ‹_›
    · rename_i fault shallow paired body
      cases text : r.text with
      | error d' =>
        rw [text] at h
        cases h
        exact .undecoded body shallow paired text
      | ok s =>
        rw [text] at h
        cases h
    · rename_i body
      split at h
      · rename_i members
        cases texts : messageTexts (Json.get (.obj members) "errorMessages") with
        | error d' =>
          rw [texts] at h
          cases h
          obtain ⟨truthy, unlisted, rfl⟩ := messageTexts_eq_error_iff.mp texts
          exact .unlisted body truthy unlisted
        | ok texts' =>
          rw [texts] at h
          cases h
      · cases h
  · intro h
    unfold errorText
    cases h with
    | deep body | unpaired body => simp only [body]
    | undecoded body shallow paired text =>
      simp only [body, text]
      rfl
    | unlisted body truthy unlisted =>
      simp only [body, messageTexts_eq_error_iff.mpr ⟨truthy, unlisted, rfl⟩]
      rfl

end Reply

namespace Jira

open Reply (Illegible)

section Reading

variable {depth : Nat} {r : Reply}

theorem readStatus_of_isError {key : String} (bad : r.isError = true)
    (known : isUnavailable r.status = false) (found : r.status ≠ 404) :
    readStatus depth key r = match r.errorText depth with
      | .ok text => .error <| .failure <|
        .lookupFailed key s!"Jira status lookup for {key} failed: {text}" r.status
      | .error d => .error (.defect d) := by
  unfold readStatus
  simp only [known, found, bad, if_true, Bool.false_eq_true, if_false]
  cases r.errorText depth <;> rfl

end Reading

namespace Client

variable {c : Client} {link : Link} {a : Arrival}

theorem attemptsFor_none {settings : Settings} {options : Options}
    (made : ofSettings settings options = .ok c) : 0 < c.attemptsFor none := by
  rw [attemptsFor_ofSettings made]
  change 0 < (max 1 _ : Int).toNat
  omega

theorem status_result (pos : 0 < c.attemptsFor none) (key : String) (link : Link) :
    (c.status key link).result = ((orDefect (c.lastArrival (.status key) none link)).bind
      (Arrival.settled (.status key))).bind (readStatus c.host.jsonDepth (bareKey key)) := by
  have made : c.status key link = _ := andThen_done (c.send (.status key) none link) _
  rw [made, send_result pos]

theorem status_of_unarrived {settings : Settings} {options : Options}
    (made : ofSettings settings options = .ok c) {key : String} {d : Defect}
    (last : c.lastArrival (.status key) none link = .error d) :
    (c.status key link).result = .error (.defect d) := by
  rw [status_result (attemptsFor_none made), last]
  rfl

theorem status_of_lastArrival {settings : Settings} {options : Options}
    (made : ofSettings settings options = .ok c) {key : String}
    (last : c.lastArrival (.status key) none link = .ok a) :
    (c.status key link).result =
      (a.settled (.status key)).bind (readStatus c.host.jsonDepth (bareKey key)) := by
  rw [status_result (attemptsFor_none made), last]
  rfl

end Client

end Jira

end TicketKeeper
