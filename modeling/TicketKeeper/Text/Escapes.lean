import TicketKeeper.Text.Shifted
import TicketKeeper.Text.Hex

/-! Bytes that stand for the first 256 characters, with escapes for others behind a backslash. In
the raw form only escapes by number are read. -/
namespace TicketKeeper.Text.Escapes

private def byteChar (b : UInt8) : Char := Char.ofNat b.toNat

private def numbered (n : Nat) : Char :=
  if 0xD800 ≤ n && n ≤ 0xDFFF then replacementChar else Char.ofNat n

private def hexEscape (count : Nat) (r : Bytes) : ShiftStep Unit :=
  let ds := (r.take count).map byteChar |>.takeWhile isHexDigit
  let n := ds.foldl (fun n d => n * 16 + (hexValue? d).getD 0) 0
  if ds.length < count || 0x10FFFF < n then .fault (2 + ds.length)
  else .shows [numbered n] (2 + count) ()

private def octalEscape (r : Bytes) : ShiftStep Unit :=
  let ds := (r.take 3).takeWhile fun b => 0x30 ≤ b && b ≤ 0x37
  .shows [numbered (ds.foldl (fun n d => n * 8 + (d.toNat - 48)) 0)] (1 + ds.length) ()

private def nameEscape (r : Bytes) : ShiftStep Unit :=
  match r with
  | 0x7B :: r =>
    let name := r.takeWhile (· != 0x7D)
    .fault (3 + name.length + (if name.isEmpty || name.length == r.length then 0 else 1))
  | _ => .fault 2

private def letters : List (UInt8 × Char) := [
  (0x5C, '\\'), (0x27, '\''), (0x22, '"'), (0x62, '\x08'), (0x66, '\x0c'), (0x74, '\t'),
  (0x6E, '\n'), (0x72, '\r'), (0x76, '\x0b'), (0x61, '\x07')]

def step (_ : Unit) (bs : Bytes) : ShiftStep Unit :=
  match bs with
  | 0x5C :: r => match r with
    | [] => .fault 1
    | 0x0A :: _ => .shows [] 2 ()
    | 0x78 :: q => hexEscape 2 q
    | 0x75 :: q => hexEscape 4 q
    | 0x55 :: q => hexEscape 8 q
    | 0x4E :: q => nameEscape q
    | b :: _ => match letters.lookup b with
      | some c => .shows [c] 2 ()
      | none =>
        if 0x30 ≤ b && b ≤ 0x37 then octalEscape r else .shows ['\\', byteChar b] 2 ()
  | b :: _ => .shows [byteChar b] 1 ()
  | [] => .fault 0

def rawStep (_ : Unit) (bs : Bytes) : ShiftStep Unit :=
  match bs with
  | 0x5C :: 0x75 :: q => hexEscape 4 q
  | 0x5C :: 0x55 :: q => hexEscape 8 q
  | 0x5C :: b :: _ => .shows ['\\', byteChar b] 2 ()
  | b :: _ => .shows [byteChar b] 1 ()
  | [] => .fault 0

def decode (onFault : Option Char) (bs : Bytes) : Option (List Char) :=
  readShifting step onFault () bs

def decodeRaw (onFault : Option Char) (bs : Bytes) : Option (List Char) :=
  readShifting rawStep onFault () bs

end TicketKeeper.Text.Escapes
