import TicketKeeper.Text.Split
import TicketKeeper.Text.Digit

/-! Reading whole numbers from text. Two grammars: numerals, which people and files write, and
numeric fields, which a report carries as text. -/
namespace TicketKeeper.Number

open TicketKeeper.Text

def maxDigits : Nat := 4300

def isWritable (n : Int) : Bool := (Nat.toDigits 10 n.natAbs).length ≤ maxDigits

def digitRun (value? : Char → Option Nat) : List Char → Option (List Nat)
  | [] => none
  | [c] => (value? c).map ([·])
  | c :: '_' :: r => do return (← value? c) :: (← digitRun value? r)
  | c :: r => do return (← value? c) :: (← digitRun value? r)

def asciiDigit? (c : Char) : Option Nat :=
  if c.isDigit then some (c.toNat - 48) else none

def ofDigits (ds : List Nat) : Nat := ds.foldl (fun n d => n * 10 + d) 0

def cutSign : List Char → Bool × List Char
  | '-' :: r => (true, r)
  | '+' :: r => (false, r)
  | s => (false, s)

def withSign (negative : Bool) (n : Nat) : Int := if negative then -n else n

def numeral? (s : List Char) : Option Int := do
  let (negative, r) := cutSign (trimBy isSpacing s)
  let ds ← digitRun digitValue? r
  if ds.length ≤ maxDigits then some (withSign negative (ofDigits ds)) else none

inductive FieldFault
  | malformed
  | tooLong
deriving DecidableEq

def cutZeros (s : List Char) : List Char :=
  match cutAt '.' s with
  | (whole, some zeros) => if !zeros.isEmpty && zeros.all (· == '0') then whole else s
  | _ => s

/-- Drops zeros in front of a digit or of a minus sign, with the separators among them; none when
the text does not start with a digit. Of zeros alone the last character stays. -/
def dropLeadingZeros (s : List Char) : Option (List Char) :=
  match s with
  | '0' :: _ => match s.dropWhile fun c => c == '0' || c == '_' with
    | [] => s.getLast?.map ([·])
    | c :: r => if c.isDigit || c == '-' then some (c :: r) else none
  | c :: _ => if c.isDigit then some s else none
  | [] => none

def dropSeparators (s : List Char) : Option (List Char) :=
  let parts := splitAt '_' s
  if 1 < parts.length && parts.any (·.isEmpty) then none else some parts.flatten

/-- What is left of a field without its blanks, plus sign, fraction, leading zeros and separators.
A minus sign may stand in front of the zeros or behind them. -/
def bareField (s : List Char) : Option (List Char) := do
  let s := trimBy isSpacing s
  let s ← match s with
    | '+' :: '-' :: _ => none
    | '+' :: r => some r
    | _ => some s
  let s ← match cutZeros s with
    | '-' :: r => (dropLeadingZeros r).map ('-' :: ·)
    | r => dropLeadingZeros r
  dropSeparators s

/-- Reads a bare field: a minus sign if there is one, and digits that do not start with a zero
unless it is the only one. A text that starts with too many digits is too long whatever follows. -/
def ofBareField (s : List Char) : Except FieldFault Int :=
  let (negative, r) := match s with
    | '-' :: r => (true, r)
    | _ => (false, s)
  let (ds, rest) := r.span Char.isDigit
  if ds.isEmpty || (ds.head? == some '0' && 1 < ds.length) then .error .malformed
  else if maxDigits < ds.length + (if negative then 1 else 0) then .error .tooLong
  else if rest.isEmpty then .ok (withSign negative (ofDigits (ds.filterMap asciiDigit?)))
  else .error .malformed

def field (s : List Char) : Except FieldFault Int :=
  match bareField s with
  | some bare => ofBareField bare
  | none => .error .malformed

end TicketKeeper.Number
