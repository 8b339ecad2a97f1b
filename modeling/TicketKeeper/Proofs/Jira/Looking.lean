import TicketKeeper.Proofs.Jira.Rejecting

/-! Status lookups. What comes of one is a status without blanks around it, or a failure that says
that there is none to be had, or the lookup breaks, which takes a body that is no issue. -/
namespace TicketKeeper.Jira

/-- Values that have no members, but do not count as absent either. -/
def isMemberless (v : Json) : Bool :=
  v.isTruthy && !v matches .obj _

/-- Data that are no issue: what they hold as the fields, or as the status among these, has no
members. -/
def isMisshapen (data : Json) : Bool :=
  isMemberless (data.get "fields") || isMemberless ((data.get "fields").get "status")

theorem innerMember_eq (v : Json) (name : String) :
    innerMember v name = if isMemberless v then .error .noMember else .ok (v.get name) := by
  unfold innerMember isMemberless
  cases truthy : v.isTruthy with
  | true => cases v <;> rfl
  | false =>
    have absent : v.get name = .null := by
      cases v with
      | obj members =>
        obtain rfl : members = [] := by simpa [Json.isTruthy] using truthy
        rfl
      | _ => rfl
    rw [absent]
    rfl

def statusText (data : Json) : String :=
  let status := (data.get "fields").get "status"
  firstText (status.get "name") (status.get "id")

theorem rawStatus_eq (data : Json) :
    rawStatus data = if isMisshapen data then .error .noMember else .ok (statusText data) := by
  unfold rawStatus isMisshapen
  rw [innerMember_eq]
  cases isMemberless (data.get "fields") with
  | true => rfl
  | false =>
    change innerMember _ "name" >>= _ = _
    rw [innerMember_eq, innerMember_eq]
    cases isMemberless ((data.get "fields").get "status") <;> rfl

section Reading

variable {depth : Nat} {key : String} {r : Reply} {data : Json}

theorem readStatus_of_fair (fair : r.isError = false) :
    readStatus depth key r = match r.requiredJson depth with
      | .error d => .error (.defect d)
      | .ok data =>
        if isMisshapen data then .error (.defect .noMember)
        else if statusText data = "" then
          .error (.failure (.lookupFailed key s!"Jira returned no status for {key}" none))
        else .ok (statusText data) := by
  have up : isUnavailable r.status = false := by
    simp [isUnavailable, isPassing, Reply.isError] at fair ⊢
    omega
  have known : r.status ≠ 404 := by
    intro missing
    simp [Reply.isError, missing] at fair
  unfold readStatus
  simp only [up, known, fair, if_false, Bool.false_eq_true]
  cases r.requiredJson depth with
  | error => rfl
  | ok data =>
    change (orDefect (rawStatus data)).bind _ = _
    rw [rawStatus_eq]
    dsimp only
    cases isMisshapen data with
    | true => rfl
    | false =>
      change (if statusText data = "" then _ else _) = (if statusText data = "" then _ else _)
      split <;> rfl

end Reading

namespace Client

/-- The ways in which a status lookup breaks: it has no address, a pause before another attempt
cannot be made, its last delivery cannot be looked at, the text of an error cannot be made out, or
an answer that is no error is no JSON or no issue. -/
inductive StatusBreaks (c : Client) (link : Link) (key : String) : Defect → Prop
  | unaddressed {d} : c.request (.status key) = .error d → StatusBreaks c link key d
  | unpaused {request d} : c.request (.status key) = .ok request →
    c.lastArrival (.status key) none link = .error d → StatusBreaks c link key d
  | unopened {d} : c.lastArrival (.status key) none link = .ok (.spoilt d) →
    StatusBreaks c link key d
  | illegible {r d} : c.lastArrival (.status key) none link = .ok (.reply r) → r.isError = true →
    isUnavailable r.status = false → r.status ≠ 404 → r.Illegible c.host.jsonDepth d →
    StatusBreaks c link key d
  | unreadable {r d} : c.lastArrival (.status key) none link = .ok (.reply r) →
    r.isError = false → r.requiredJson c.host.jsonDepth = .error d → StatusBreaks c link key d
  | misshapen {r data} : c.lastArrival (.status key) none link = .ok (.reply r) →
    r.isError = false → r.requiredJson c.host.jsonDepth = .ok data → isMisshapen data = true →
    StatusBreaks c link key .noMember

variable {settings : Settings} {options : Options} {c : Client} {link : Link} {key : String}

theorem status_of_unaddressed (made : ofSettings settings options = .ok c) {d : Defect}
    (unaddressed : c.request (.status key) = .error d) :
    (c.status key link).result = .error (.defect d) :=
  status_of_unarrived made (by rw [lastArrival, unaddressed]; rfl)

theorem StatusBreaks.result (made : ofSettings settings options = .ok c) {d : Defect}
    (h : c.StatusBreaks link key d) : (c.status key link).result = .error (.defect d) := by
  cases h with
  | unaddressed unaddressed => exact status_of_unaddressed made unaddressed
  | unpaused _ last => exact status_of_unarrived made last
  | unopened last => exact status_of_lastArrival made last
  | illegible last bad up known illegible =>
    refine (status_of_lastArrival made last).trans ((readStatus_of_isError bad up known).trans ?_)
    rw [Reply.errorText_eq_error_iff.mpr illegible]
  | unreadable last fair unreadable =>
    refine (status_of_lastArrival made last).trans ((readStatus_of_fair fair).trans ?_)
    rw [unreadable]
  | misshapen last fair read shape =>
    refine (status_of_lastArrival made last).trans ((readStatus_of_fair fair).trans ?_)
    simp only [read, shape, if_true]

end Client

end TicketKeeper.Jira
