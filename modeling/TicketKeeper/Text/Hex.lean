import TicketKeeper.Text.Utf8

/-! Hexadecimal digits: read in either case, written in lower case. -/
namespace TicketKeeper.Text

def hexValue? (c : Char) : Option Nat :=
  if c.isDigit then some (c.toNat - 48)
  else if 'a' ≤ c && c ≤ 'f' then some (c.toNat - 87)
  else if 'A' ≤ c && c ≤ 'F' then some (c.toNat - 55)
  else none

def isHexDigit (c : Char) : Bool := (hexValue? c).isSome

def hexPadded (width n : Nat) : List Char :=
  let ds := Nat.toDigits 16 n
  List.replicate (width - ds.length) '0' ++ ds

def hexOfBytes (bs : Bytes) : List Char := bs.flatMap fun b => hexPadded 2 b.toNat

def bytesOfHex : List Char → Bytes
  | a :: b :: r => match hexValue? a, hexValue? b with
    | some x, some y => UInt8.ofNat (x * 16 + y) :: bytesOfHex r
    | _, _ => []
  | _ => []

theorem hexPadded_two : ∀ n : Fin 256, hexPadded 2 n.val =
    [Nat.digitChar (n.val / 16), Nat.digitChar (n.val % 16)] := by decide +kernel

theorem length_hexOfBytes (bs : Bytes) : (hexOfBytes bs).length = 2 * bs.length := by
  induction bs with
  | nil => rfl
  | cons b bs ih =>
    have pair := congrArg List.length (hexPadded_two ⟨b.toNat, b.toNat_lt⟩)
    simp only [List.length_cons, List.length_nil] at pair
    have split : hexOfBytes (b :: bs) = hexPadded 2 b.toNat ++ hexOfBytes bs := rfl
    rw [split, List.length_append, pair, ih, List.length_cons]
    omega

end TicketKeeper.Text
