import TicketKeeper.Text.Split
import TicketKeeper.Text.Upper

/-! Outcomes of builds. -/
namespace TicketKeeper

inductive Outcome
  | success
  | failure
  | aborted
deriving DecidableEq, Repr

namespace Outcome

def name : Outcome → String
  | success => "SUCCESS"
  | failure => "FAILURE"
  | aborted => "ABORTED"

def named? (s : String) : Option Outcome := [success, failure, aborted].find? (·.name == s)

theorem named?_name (o : Outcome) : named? o.name = some o := by cases o <;> decide

def spelled? (s : String) : Option Outcome :=
  named? (String.ofList (Text.upper (Text.trim s.toList)))

end Outcome

end TicketKeeper
