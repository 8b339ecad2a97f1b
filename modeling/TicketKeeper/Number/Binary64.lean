/-! Binary floating point of 64 bits, as exact arithmetic: a finite value is a mantissa times a
power of two. A conversion takes the nearest value, and of two equally near the even one. -/
namespace TicketKeeper.Number

/-- Below 2^53; unless it is at least 2^52 the exponent is the least one. -/
inductive Binary64
  | finite (negative : Bool) (mantissa : Nat) (exponent : Int)
  | infinite (negative : Bool)
  | nan
deriving DecidableEq, Repr, Inhabited

namespace Binary64

def minExponent : Int := -1074
def maxExponent : Int := 971

def leastFull : Nat := 1 <<< 52

def zero (negative : Bool) : Binary64 := .finite negative 0 minExponent

def roundDiv (num den : Nat) : Nat :=
  let q := num / den
  let r := num % den
  if 2 * r < den then q
  else if den < 2 * r then q + 1
  else q + q % 2

def scaled (num den : Nat) (e : Int) : Nat × Nat :=
  if 0 ≤ e then (num, den <<< e.toNat) else (num <<< (-e).toNat, den)

def exponentFor (num den : Nat) : Int :=
  let guess : Int := (Nat.log2 num : Int) - (Nat.log2 den : Int) - 52
  let (n, d) := scaled num den guess
  max minExponent (if n / d < leastFull then guess - 1 else guess)

def ofRatio (negative : Bool) (num den : Nat) : Binary64 :=
  if num = 0 then zero negative
  else
    let e := exponentFor num den
    let (n, d) := scaled num den e
    let m := roundDiv n d
    let (m, e) := if m = 2 * leastFull then (leastFull, e + 1) else (m, e)
    if maxExponent < e then .infinite negative else .finite negative m e

/-- The value nearest to `digits · 10^exponent`. Beyond the range the powers are not computed. -/
def ofDecimal (negative : Bool) (digits : Nat) (exponent : Int) : Binary64 :=
  if digits = 0 then zero negative
  else
    let point := (Nat.toDigits 10 digits).length + exponent
    if 310 < point then .infinite negative
    else if point < -324 then zero negative
    else if 0 ≤ exponent then ofRatio negative (digits * Nat.pow 10 exponent.toNat) 1
    else ofRatio negative digits (Nat.pow 10 (-exponent).toNat)

def ofInt (n : Int) : Binary64 := ofRatio (n < 0) n.natAbs 1

def isZero : Binary64 → Bool
  | .finite _ 0 _ => true
  | _ => false

def toInt? : Binary64 → Option Int
  | .finite negative m e =>
    let signed (n : Nat) : Int := if negative then -n else n
    if 0 ≤ e then some (signed (m <<< e.toNat))
    else if m % (1 <<< (-e).toNat) = 0 then some (signed (m >>> (-e).toNat))
    else none
  | _ => none

def double : Binary64 → Binary64
  | .finite negative m e =>
    if m < leastFull then .finite negative (2 * m) e
    else if e < maxExponent then .finite negative m (e + 1)
    else .infinite negative
  | x => x

end Binary64

end TicketKeeper.Number
