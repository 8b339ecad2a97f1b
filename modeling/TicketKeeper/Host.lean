import TicketKeeper.Failure
import TicketKeeper.Json.Reader

/-! What the machine under the program settles, and no setting of its own. -/
namespace TicketKeeper

open TicketKeeper.Number (Binary64)

structure Host where
  /-- How many arrays and objects may stand around a value that is read. -/
  jsonDepth : Nat := Json.usualDepth
  /-- What a pause of so many seconds breaks with, if it cannot be made. -/
  pauseDefect? : Binary64 → Option Defect := fun _ => none
  /-- Whether two dashes alone are dropped where an option has them for its value. Readers of
  arguments differ in that. -/
  dropsDashes : Bool := true

end TicketKeeper
