import TicketKeeper.Text.Hex
import TicketKeeper.Text.Split

/-! Sets of characters that are written as runs in hexadecimal: `b7` is one character, `61-7a` are
all from the first to the last, `101-137/2` every second one of them. -/
namespace TicketKeeper.Text

structure Run where
  first : Nat
  last : Nat
  step : Nat
deriving DecidableEq, Repr

namespace Run

def covers (r : Run) (n : Nat) : Bool :=
  r.first ≤ n && n ≤ r.last && (n - r.first) % r.step == 0

end Run

def hexNumber (s : List Char) : Nat := s.foldl (fun n c => n * 16 + (hexValue? c).getD 0) 0

def readRun (s : List Char) : Run :=
  let (range, step) := cutAt '/' s
  let (first, last) := cutAt '-' range
  ⟨hexNumber first, hexNumber (last.getD first), (step.map hexNumber).getD 1⟩

def readRuns (s : String) : List Run := (words s.toList).map readRun

def isAmong (runs : List Run) (c : Char) : Bool := runs.any (·.covers c.toNat)

end TicketKeeper.Text
