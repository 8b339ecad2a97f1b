import TicketKeeper.Text.Utf8

/-! Bits of packed bytes. Each byte gives its bits from the lowest to the highest; numbers are
written in the same order. -/
namespace TicketKeeper.Packed

open TicketKeeper.Text (Bytes)

abbrev Bits := List Bool

inductive Stop
  | cut
  | corrupt
deriving DecidableEq, Repr

def bitsOfByte (b : UInt8) : Bits := (List.range 8).map fun i => b.toNat.testBit i

def bitsOfBytes (bs : Bytes) : Bits := bs.flatMap bitsOfByte

def numberOfBits : Bits → Nat
  | [] => 0
  | b :: r => b.toNat + 2 * numberOfBits r

def takeNumber (width : Nat) (bits : Bits) : Except Stop (Nat × Bits) :=
  let taken := bits.take width
  if taken.length < width then .error .cut else .ok (numberOfBits taken, bits.drop width)

def bytesOfBits : Bits → Bytes
  | a :: b :: c :: d :: e :: f :: g :: h :: r =>
    UInt8.ofNat (numberOfBits [a, b, c, d, e, f, g, h]) :: bytesOfBits r
  | _ => []

def dropToByte (bits : Bits) : Bits := bits.drop (bits.length % 8)

end TicketKeeper.Packed
