import TicketKeeper.Failure
import TicketKeeper.Text.Split

/-! Admission by token. Only texts of ASCII characters can be compared. -/
namespace TicketKeeper.Service

open TicketKeeper.Text

def tokenHeader : String := "x-ci-token"

private def isAsciiText (s : List Char) : Bool := s.all (·.toNat < 128)

def refusal : Fault := .failure (.invalidToken "invalid_ci_token")

/-- A blank setting admits everybody; else the header must have the set token. Blanks around
either do not count. -/
def checkToken (setting : String) (header : Option String) : Except Fault Unit :=
  let configured := trim setting.toList
  if configured.isEmpty then .ok ()
  else match header with
    | none | some "" => .error refusal
    | some token =>
      let token := trim token.toList
      if !isAsciiText token || !isAsciiText configured then .error (.defect .wrongType)
      else if token = configured then .ok ()
      else .error refusal

end TicketKeeper.Service
