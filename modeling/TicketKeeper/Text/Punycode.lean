import TicketKeeper.Text.Utf8

/-! Text as ASCII: the ASCII characters of a text, and behind a hyphen the others, as numbers that
say by how much each goes beyond the one before. Characters are given by their numbers, because a
code may stand for a number that no character has. -/
namespace TicketKeeper.Text.Punycode

/-- Below this a digit is the last one of a number. -/
def threshold (digits bias : Nat) : Nat := min 26 (max 1 (36 * (digits + 1) - bias))

private def scaleDown : Nat → Nat → Nat → Nat × Nat
  | 0, steps, delta => (steps, delta)
  | n + 1, steps, delta =>
    if 455 < delta then scaleDown n (steps + 36) (delta / 35) else (steps, delta)

def adapt (delta count : Nat) (first : Bool) : Nat :=
  let delta := if first then delta / 700 else delta / 2
  let delta := delta + delta / count
  let (steps, delta) := scaleDown delta 0 delta
  steps + 36 * delta / (delta + 38)

def digitValue? (c : Char) : Option Nat :=
  if 'A' ≤ c && c ≤ 'Z' then some (c.toNat - 65)
  else if 'a' ≤ c && c ≤ 'z' then some (c.toNat - 97)
  else if c.isDigit then some (c.toNat - 22)
  else none

def digitChar (d : Nat) : Char := Char.ofNat (if d < 26 then 97 + d else 22 + d)

def number? (bias digits weight sum : Nat) : List Char → Option (Nat × List Char)
  | [] => none
  | c :: r => do
    let d ← digitValue? c
    let t := threshold digits bias
    let sum := sum + d * weight
    if d < t then return (sum, r) else number? bias (digits + 1) (weight * (36 - t)) sum r

structure State where
  chars : List Nat
  last : Nat := 128
  place : Nat := 0
  bias : Nat := 72
  first : Bool := true

private def State.insert (s : State) (last place delta : Nat) : State where
  chars := s.chars.take place ++ last :: s.chars.drop place
  last := last
  place := place + 1
  bias := adapt delta (s.chars.length + 1) s.first
  first := false

/-- Puts in the characters that the numbers of a text tell; each number takes a character of it.
A lenient reader ends at a fault and shows a question mark for what is no character. -/
private def insertAll (lenient : Bool) : Nat → State → List Char → Option (List Nat)
  | _, s, [] => some s.chars
  | 0, _, _ => none
  | n + 1, s, text =>
    match number? s.bias 0 1 0 text with
    | none => if lenient then some s.chars else none
    | some (delta, r) =>
      let place := s.place + delta
      let last := s.last + place / (s.chars.length + 1)
      let place := place % (s.chars.length + 1)
      if last ≤ 0x10FFFF then insertAll lenient n (s.insert last place delta) r
      else if lenient then insertAll lenient n (s.insert 63 place delta) r
      else none

def cutLast (s : List Char) : List Char × List Char :=
  let behind := (s.reverse.takeWhile (· != '-')).reverse
  (s.take (s.length - behind.length - 1), behind)

def decode? (s : List Char) : Option (List Nat) :=
  let (plain, coded) := cutLast s
  insertAll false coded.length { chars := plain.map Char.toNat } coded

def decodeLossy? (bs : Bytes) : Option (List Char) :=
  let (plain, coded) := cutLast (bs.map fun b => Char.ofNat b.toNat)
  let shown (c : Char) : Nat := if c.toNat < 128 then c.toNat else replacementChar.toNat
  let char (n : Nat) : Char := if 0xD800 ≤ n && n ≤ 0xDFFF then replacementChar else Char.ofNat n
  if coded.all (·.toNat < 128) then
    (insertAll true coded.length { chars := plain.map shown } coded).map (·.map char)
  else none

private def numberDigits (bias : Nat) : Nat → Nat → Nat → List Char
  | 0, _, n => [digitChar n]
  | fuel + 1, digits, n =>
    let t := threshold digits bias
    if n < t then [digitChar n]
    else
      digitChar (t + (n - t) % (36 - t)) ::
        numberDigits bias fuel (digits + 1) ((n - t) / (36 - t))

private structure Progress where
  digits : List Char := []
  delta : Nat := 0
  bias : Nat := 72
  told : Nat

/-- Tells the places of one character in the text; `plain` counts those of ASCII. -/
private def tell (plain value : Nat) (p : Progress) (c : Char) : Progress :=
  if c.toNat < value then { p with delta := p.delta + 1 }
  else if c.toNat == value then {
    digits := p.digits ++ numberDigits p.bias p.delta 0 p.delta
    delta := 0
    bias := adapt p.delta (p.told + 1) (p.told == plain)
    told := p.told + 1 }
  else p

private def tellAll (text : List Char) (plain : Nat) : Nat → List Nat → Progress → List Char
  | _, [], p => p.digits
  | last, value :: r, p =>
    let p := { p with delta := p.delta + (value - last) * (p.told + 1) }
    let p := text.foldl (tell plain value) p
    tellAll text plain (value + 1) r { p with delta := p.delta + 1 }

private def insertRising (n : Nat) : List Nat → List Nat
  | [] => [n]
  | m :: r => if n < m then n :: m :: r else if n == m then m :: r else m :: insertRising n r

def encode (text : List Char) : List Char :=
  let plain := text.filter (·.toNat < 128)
  let values := ((text.filter (128 ≤ ·.toNat)).map Char.toNat).foldr insertRising []
  plain ++ (if plain.isEmpty then [] else ['-']) ++
    tellAll text plain.length 128 values { told := plain.length }

end TicketKeeper.Text.Punycode
