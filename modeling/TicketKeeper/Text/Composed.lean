import TicketKeeper.Text.Runs
import TicketKeeper.Text.Table.Letters

/-! Composed text: no mark stands apart that one character with the letter stands for, and the marks
of a letter are in the order of their classes. Only the letters of host names are looked at. -/
namespace TicketKeeper.Text

structure Composition where
  whole : Char
  first : Char
  second : Char

private def readComposition (s : List Char) : Composition :=
  let (whole, pair) := cutAt '=' s
  let (first, second) := cutAt '+' (pair.getD [])
  let char (digits : List Char) : Char := Char.ofNat (hexNumber digits)
  ⟨char whole, char first, char (second.getD [])⟩

def compositions : List Composition := (words Table.compositions.toList).map readComposition

private def markRuns : List (Nat × List Run) := Table.marks.map fun e => (e.1, readRuns e.2)

private def spacingRuns : List Run := readRuns Table.spacingMarks

def isMark (c : Char) : Bool := markRuns.any fun e => isAmong e.2 c

def isFlatMark (c : Char) : Bool := isMark c && !isAmong spacingRuns c

def markClass (c : Char) : Nat := ((markRuns.find? fun e => isAmong e.2 c).map (·.1)).getD 0

def partsOf : Nat → Char → List Char
  | 0, c => [c]
  | depth + 1, c => match compositions.find? (·.whole == c) with
    | some p => partsOf depth p.first ++ partsOf depth p.second
    | none => [c]

def putInOrder (c : Char) : List Char → List Char
  | [] => [c]
  | d :: r =>
    if 0 < markClass d && markClass d < markClass c then d :: putInOrder c r else c :: d :: r

def decompose (s : List Char) : List Char := (s.flatMap (partsOf 4)).foldr putInOrder []

/-- Puts marks to the last letter as far as no other mark of their class keeps them from it. The
marks that stay apart are kept in reverse. -/
def composeFrom (letter : Option Char) (apart : List Char) : List Char → List Char
  | [] => letter.toList ++ apart.reverse
  | c :: r => match letter with
    | none => if markClass c == 0 then composeFrom (some c) [] r else c :: composeFrom none [] r
    | some l =>
      let isHeld := apart.head?.any fun m => markClass c ≤ markClass m
      let pair? := compositions.find? fun p => p.first == l && p.second == c
      match if isHeld then none else pair? with
      | some p => composeFrom (some p.whole) apart r
      | none =>
        if markClass c == 0 then l :: apart.reverse ++ composeFrom (some c) [] r
        else composeFrom letter (c :: apart) r

def compose (s : List Char) : List Char := composeFrom none [] (decompose s)

private def replacedRuns : List Run := readRuns Table.replaced

def isComposed (s : List Char) : Bool := !s.any (isAmong replacedRuns) && compose s == s

end TicketKeeper.Text
