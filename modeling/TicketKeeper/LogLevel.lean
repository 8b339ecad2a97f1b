import TicketKeeper.Failure
import TicketKeeper.Text.Upper

/-! Set-up of the program's log. -/
namespace TicketKeeper.LogLevel

def levels : List (String × Nat) := [
  ("CRITICAL", 50), ("FATAL", 50), ("ERROR", 40), ("WARNING", 30), ("WARN", 30), ("INFO", 20),
  ("DEBUG", 10), ("NOTSET", 0)]

def named? (name : String) : Option Nat :=
  levels.lookup (String.ofList (Text.upper name.toList))

structure Setup where
  root : Nat := 0
  quiet : List (String × Nat)
  formats : List String := []

/-- The web client logs each request; a cycle's summary would drown in them. -/
def quietLogs : List (String × Nat) := [("httpx", 30), ("httpcore", 30)]

def format : String := "%(asctime)s | %(levelname)s | %(name)s | %(message)s"

/-- Sets the log up unless that has been done; a level that has no name comes from the environment.
A handler is in place even when the level is then refused. -/
def setUp (level environment : Option String) (configured : Bool) : Except Defect Unit × Setup :=
  if configured then (.ok (), ⟨0, quietLogs, []⟩)
  else match named? ((level.filter (· != "")).getD (environment.getD "INFO")) with
    | some n => (.ok (), ⟨n, quietLogs, [format]⟩)
    | none => (.error .badValue, ⟨0, quietLogs, [format]⟩)

end TicketKeeper.LogLevel
