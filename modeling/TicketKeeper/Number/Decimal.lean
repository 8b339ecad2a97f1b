import TicketKeeper.Number.Binary64
import TicketKeeper.Number.Integer

/-! Decimal text of floating point values: the fewest digits that read back, and of those the
nearest. Reading takes any number of digits. -/
namespace TicketKeeper.Number

namespace Binary64

structure Decimal where
  digits : Nat
  exponent : Int

/-- The numbers that round to `m · 2^e`, in units of `2^(e-2)`, and whether the bounds belong. -/
structure Interval where
  low : Nat
  middle : Nat
  high : Nat
  closed : Bool

def interval (m : Nat) (e : Int) : Interval :=
  let low := if m = leastFull ∧ minExponent < e then 4 * m - 1 else 4 * m - 2
  ⟨low, 4 * m, 4 * m + 2, m % 2 = 0⟩

private def zerosBehind (den : Nat) : Nat → Nat → Nat
  | 0, _ => 0
  | bound + 1, num => if den ≤ num * 10 then 0 else zerosBehind den bound (num * 10) + 1

/-- How many digits stand before the point; negative for zeros behind it. No value of this format
has more than 400. -/
def pointOf (num den : Nat) : Int :=
  if den ≤ num then (Nat.toDigits 10 (num / den)).length else -(zerosBehind den 400 num : Int)

private def distance (a b : Nat) : Nat := (a - b) + (b - a)

def nearestOn (i : Interval) (unitNum unitDen : Nat) (exponent : Int) : Option Decimal :=
  let (stepNum, stepDen) :=
    if 0 ≤ exponent then (unitDen * Nat.pow 10 exponent.toNat, unitNum)
    else (unitDen, unitNum * Nat.pow 10 (-exponent).toNat)
  let inside (d : Nat) : Bool :=
    let v := d * stepNum
    if i.closed then i.low * stepDen ≤ v && v ≤ i.high * stepDen
    else i.low * stepDen < v && v < i.high * stepDen
  let below := i.middle * stepDen / stepNum
  let gap (d : Nat) : Nat := distance (d * stepNum) (i.middle * stepDen)
  match inside below, inside (below + 1) with
  | false, false => none
  | true, false => some ⟨below, exponent⟩
  | false, true => some ⟨below + 1, exponent⟩
  | true, true =>
    if gap below < gap (below + 1) then some ⟨below, exponent⟩
    else if gap (below + 1) < gap below then some ⟨below + 1, exponent⟩
    else some ⟨below + below % 2, exponent⟩

/-- The shortest decimal that reads back as `m · 2^e`. Seventeen digits always do. -/
def shortest (m : Nat) (e : Int) : Decimal :=
  let i := interval m e
  let (unitNum, unitDen) := if 2 ≤ e then (1 <<< (e - 2).toNat, 1) else (1, 1 <<< (2 - e).toNat)
  let point := pointOf (i.middle * unitNum) unitDen
  let withDigits (n : Nat) : Option Decimal := nearestOn i unitNum unitDen (point - (n + 1 : Nat))
  ((List.range 17).findSome? withDigits).getD ⟨m <<< e.toNat, 0⟩

end Binary64

structure FloatStyle where
  positionalFrom : Int
  positionalBelow : Int
  exponentWidth : Nat
  infinity : String
  nan : String

private def dropZeros (ds : List Char) : List Char := Text.dropEndWhile (· == '0') ds

private def writeExponent (style : FloatStyle) (e : Int) : List Char :=
  let ds := Nat.toDigits 10 e.natAbs
  'e' :: (if e < 0 then '-' else '+') :: List.replicate (style.exponentWidth - ds.length) '0' ++ ds

private def writeDecimal (style : FloatStyle) (d : Binary64.Decimal) : List Char :=
  let ds := Nat.toDigits 10 d.digits
  let point : Int := ds.length + d.exponent
  let ds := dropZeros ds
  if style.positionalFrom < point && point ≤ style.positionalBelow then
    if point ≤ 0 then '0' :: '.' :: List.replicate (-point).toNat '0' ++ ds
    else
      let whole := ds.take point.toNat
      let rest := ds.drop point.toNat
      whole ++ List.replicate (point.toNat - ds.length) '0' ++ '.' ::
        (if rest.isEmpty then ['0'] else rest)
  else
    ds.take 1 ++ (if ds.length ≤ 1 then [] else '.' :: ds.drop 1) ++ writeExponent style (point - 1)

def Binary64.write (style : FloatStyle) : Binary64 → List Char
  | .nan => style.nan.toList
  | .infinite negative => (if negative then ['-'] else []) ++ style.infinity.toList
  | .finite negative m e =>
    (if negative then ['-'] else []) ++
      if m = 0 then ['0', '.', '0'] else writeDecimal style (Binary64.shortest m e)

def decimal? (s : List Char) : Option Binary64 := do
  let (negative, s) := cutSign s
  let lower := s.map Char.toLower
  if lower = "inf".toList ∨ lower = "infinity".toList then return .infinite negative
  if lower = "nan".toList then return .nan
  let whole := s.takeWhile Char.isDigit
  let s := s.dropWhile Char.isDigit
  let (fraction, s) := match s with
    | '.' :: r => (r.takeWhile Char.isDigit, r.dropWhile Char.isDigit)
    | _ => ([], s)
  let digits := whole ++ fraction
  if digits.isEmpty then none
  let value := ofDigits (digits.map fun c => c.toNat - 48)
  match s with
  | [] => return Binary64.ofDecimal negative value (-(fraction.length : Int))
  | c :: r =>
    if c != 'e' && c != 'E' then none
    let (down, ds) := cutSign r
    if ds.isEmpty || !ds.all Char.isDigit then none
    let e := withSign down (ofDigits (ds.map fun c => c.toNat - 48))
    return Binary64.ofDecimal negative value (e - fraction.length)

def decimalField? (s : List Char) : Option Binary64 :=
  match decimal? (Text.trimBy Text.isSpacing s) with
  | some x => some x
  | none =>
    let parts := Text.splitAt '_' s
    if parts.length < 2 || parts.any List.isEmpty then none else decimal? parts.flatten

end TicketKeeper.Number
