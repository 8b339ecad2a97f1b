import TicketKeeper.Packed.Inflate

/-! Codings in which bodies are sent: packed bytes behind a head and in front of checks. Bytes that
are cut off give as much as can be unpacked, and what stands behind the checks is not looked at. -/
namespace TicketKeeper.Packed

open TicketKeeper.Text (Bytes)

inductive Coding
  | gzip
  /-- The packed bytes may also stand alone. -/
  | deflate
deriving DecidableEq, Repr

namespace Coding

def named? (name : List Char) : Option Coding :=
  if name == "gzip".toList then some gzip
  else if name == "deflate".toList then some deflate
  else none

private def crcShift (c : UInt32) : UInt32 :=
  if c &&& 1 == 1 then (c >>> 1) ^^^ 0xEDB88320 else c >>> 1

private def crcByte (c : UInt32) (b : UInt8) : UInt32 :=
  (List.range 8).foldl (fun c _ => crcShift c) (c ^^^ b.toUInt32)

def crc (bytes : Array UInt8) : Nat := (bytes.foldl crcByte 0xFFFFFFFF ^^^ 0xFFFFFFFF).toNat

def adler (bytes : Array UInt8) : Nat :=
  let (low, high) := bytes.foldl (fun (s : Nat × Nat) b =>
    let low := (s.1 + b.toNat) % 65521
    (low, (s.2 + low) % 65521)) (1, 0)
  high * 65536 + low

/-- The bytes, if the checks behind them hold; a check that is cut off does hold. -/
private def checked (unpacked : Unpacked) (holds : Array UInt8 → Bits → Except Stop Bool) :
    Option Bytes :=
  match unpacked with
  | .corrupt => none
  | .part bytes => some bytes.toList
  | .whole bytes rest => match holds bytes (dropToByte rest) with
    | .ok false | .error .corrupt => none
    | _ => some bytes.toList

private def dropText (bs : Bytes) : Except Stop Bytes :=
  match bs.dropWhile (· != 0) with
  | [] => .error .cut
  | _ :: r => .ok r

private def dropBytes (n : Nat) (bs : Bytes) : Except Stop Bytes :=
  if bs.length < n then .error .cut else .ok (bs.drop n)

/-- What stands behind the head of a file: its marks, kind and time, and as its flags tell further
fields, a name, a comment and a check of the head. -/
def gzipBody (bs : Bytes) : Except Stop Bytes := do
  let a :: b :: r := bs | throw .cut
  if a != 0x1F || b != 0x8B then throw .corrupt
  let kind :: flags :: r := r | throw .cut
  if kind != 8 || flags &&& 0xE0 != 0 then throw .corrupt
  let r ← dropBytes 6 r
  let r ← if flags &&& 4 != 0 then do
      let low :: high :: r := r | throw .cut
      dropBytes (low.toNat + 256 * high.toNat) r
    else pure r
  let r ← if flags &&& 8 != 0 then dropText r else pure r
  let r ← if flags &&& 16 != 0 then dropText r else pure r
  if flags &&& 2 == 0 then return r
  let low :: high :: body := r | throw .cut
  let head := bs.take (bs.length - r.length)
  if crc head.toArray % 65536 != low.toNat + 256 * high.toNat then throw .corrupt
  return body

private def gzipHolds (bytes : Array UInt8) (rest : Bits) : Except Stop Bool := do
  let (sum, rest) ← takeNumber 32 rest
  if sum != crc bytes then return false
  let (size, _) ← takeNumber 32 rest
  return size == bytes.size % 0x100000000

def deflateBody (bs : Bytes) : Except Stop Bytes := do
  let a :: b :: r := bs | throw .cut
  if (a.toNat * 256 + b.toNat) % 31 != 0 || a &&& 0x0F != 8 || 0x70 < a &&& 0xF0 then throw .corrupt
  if b &&& 0x20 != 0 then
    let _ ← dropBytes 4 r
    throw .corrupt
  return r

private def deflateHolds (bytes : Array UInt8) (rest : Bits) : Except Stop Bool := do
  let (a, rest) ← takeNumber 8 rest
  let (b, rest) ← takeNumber 8 rest
  let (c, rest) ← takeNumber 8 rest
  let (d, _) ← takeNumber 8 rest
  return ((a * 256 + b) * 256 + c) * 256 + d == adler bytes

private def behindHead (body : Except Stop Bytes) (holds : Array UInt8 → Bits → Except Stop Bool) :
    Option Bytes :=
  match body with
  | .error .cut => some []
  | .error .corrupt => none
  | .ok body => checked (inflate body) holds

def unpack? : Coding → Bytes → Option Bytes
  | gzip, bs => behindHead (gzipBody bs) gzipHolds
  | deflate, bs =>
    (behindHead (deflateBody bs) deflateHolds).orElse fun _ =>
      checked (inflate bs) fun _ _ => .ok true

end Coding

end TicketKeeper.Packed
