import TicketKeeper.Text.Utf8

/-! Text of seven bits in which sections between a plus sign and a minus sign give units of 16 bits,
six bits to a character. -/
namespace TicketKeeper.Text.Utf7

def sixBits? (b : UInt8) : Option Nat :=
  if 0x41 ≤ b && b ≤ 0x5A then some (b.toNat - 0x41)
  else if 0x61 ≤ b && b ≤ 0x7A then some (b.toNat - 0x61 + 26)
  else if 0x30 ≤ b && b ≤ 0x39 then some (b.toNat - 0x30 + 52)
  else if b == 0x2B then some 62
  else if b == 0x2F then some 63
  else none

/-- What is left over inside a section: bits that are no unit yet, and the first half of a pair. -/
structure Section where
  value : Nat := 0
  bits : Nat := 0
  high : Option Nat := none

namespace Section

private def highChar (s : Section) : List Char := if s.high.isSome then [replacementChar] else []

/-- Adds a unit; half of a pair that stands alone is shown as a replacement. -/
def addUnit (s : Section) (u : Nat) : List Char × Section :=
  match s.high with
  | some h =>
    if 0xDC00 ≤ u && u ≤ 0xDFFF then
      ([Char.ofNat (0x10000 + (h - 0xD800) * 1024 + (u - 0xDC00))], { s with high := none })
    else if 0xD800 ≤ u && u ≤ 0xDBFF then ([replacementChar], { s with high := some u })
    else ([replacementChar, Char.ofNat u], { s with high := none })
  | none =>
    if 0xD800 ≤ u && u ≤ 0xDBFF then ([], { s with high := some u })
    else if 0xDC00 ≤ u && u ≤ 0xDFFF then ([replacementChar], s)
    else ([Char.ofNat u], s)

def add (s : Section) (six : Nat) : List Char × Section :=
  let value := s.value * 64 + six
  let bits := s.bits + 6
  if bits < 16 then ([], { s with value := value, bits := bits })
  else
    let rest := 1 <<< (bits - 16)
    { s with value := value % rest, bits := bits - 16 }.addUnit (value / rest)

/-- Whether bits of a unit are left over, which may only be padding of zeros. -/
def isBroken (s : Section) : Bool := 6 ≤ s.bits || s.value != 0

end Section

def read (onFault : Option Char) : Option Section → Bytes → Option (List Char)
  | none, [] => some []
  | none, b :: r =>
    if b == 0x2B then
      match r with
      | 0x2D :: r => (read onFault none r).map ('+' :: ·)
      | c :: q =>
        if (sixBits? c).isSome then read onFault (some {}) (c :: q)
        else do return (← onFault) :: (← read onFault none q)
      | [] => some []
    else if b < 0x80 then (read onFault none r).map (Char.ofNat b.toNat :: ·)
    else do return (← onFault) :: (← read onFault none r)
  | some s, [] => if s.high.isSome || s.isBroken then onFault.map ([·]) else some []
  | some s, b :: r =>
    match sixBits? b with
    | some six =>
      let (cs, s) := s.add six
      (read onFault (some s) r).map (cs ++ ·)
    | none =>
      if s.isBroken then do return (← onFault) :: (← read onFault none r)
      else if b == 0x2D then (read onFault none r).map (s.highChar ++ ·)
      else if b < 0x80 then
        (read onFault none r).map fun cs => s.highChar ++ Char.ofNat b.toNat :: cs
      else do return (← onFault) :: (← read onFault none r)

def decode (onFault : Option Char) (bs : Bytes) : Option (List Char) := read onFault none bs

end TicketKeeper.Text.Utf7
