import TicketKeeper.Text.Shifted
import TicketKeeper.Text.Utf7
import TicketKeeper.Text.Escapes
import TicketKeeper.Text.Punycode

/-! Encodings of text and how bytes are read in them. A lenient reader shows a replacement for each
fault. -/
namespace TicketKeeper.Text

inductive ByteOrder
  | big
  | little
deriving DecidableEq

inductive Charset
  | utf8
  | utf8Marked
  /-- Units of two bytes. Without an order a byte order mark decides. -/
  | utf16 (order : Option ByteOrder)
  | utf32 (order : Option ByteOrder)
  | utf7
  | latin1
  | ascii
  | singleByte (table : String)
  | doubleByte (set : DoubleByte)
  | iso2022 (language : Iso2022.Language)
  | tilde
  | escapes
  | rawEscapes
  | punycode
  | packed
  | rotated
  | hostNames
  | undefined
deriving DecidableEq

private def unit16 : ByteOrder → UInt8 → UInt8 → Nat
  | .big, a, b => a.toNat * 256 + b.toNat
  | .little, a, b => b.toNat * 256 + a.toNat

private def unit32 (o : ByteOrder) (a b c d : UInt8) : Nat :=
  match o with
  | .big => unit16 .big a b * 65536 + unit16 .big c d
  | .little => unit16 .little c d * 65536 + unit16 .little a b

def decode16 (onFault : Bool → Option Char) (o : ByteOrder) : Bytes → Option (List Char)
  | [] => some []
  | [_] => (onFault false).map ([·])
  | [a, b] =>
    let u := unit16 o a b
    if u < 0xD800 || 0xDFFF < u then some [Char.ofNat u]
    else (onFault (0xDC00 ≤ u)).map ([·])
  | [a, b, _] =>
    let u := unit16 o a b
    if u < 0xD800 || 0xDFFF < u then do return [Char.ofNat u, ← onFault false]
    else if u < 0xDC00 then (onFault false).map ([·])
    else do return [← onFault true, ← onFault false]
  | a :: b :: c :: d :: r =>
    let u := unit16 o a b
    let v := unit16 o c d
    if u < 0xD800 || 0xDFFF < u then (decode16 onFault o (c :: d :: r)).map (Char.ofNat u :: ·)
    else if u < 0xDC00 && 0xDC00 ≤ v && v ≤ 0xDFFF then
      (decode16 onFault o r).map (Char.ofNat (0x10000 + (u - 0xD800) * 1024 + (v - 0xDC00)) :: ·)
    else do
      let shown ← onFault true
      return shown :: (← decode16 onFault o (c :: d :: r))

def decode32 (onFault : Bool → Option Char) (o : ByteOrder) : Bytes → Option (List Char)
  | [] => some []
  | a :: b :: c :: d :: r =>
    let u := unit32 o a b c d
    if 0xD800 ≤ u && u ≤ 0xDFFF then do return (← onFault true) :: (← decode32 onFault o r)
    else if u < 0x110000 then (decode32 onFault o r).map (Char.ofNat u :: ·)
    else do return (← onFault false) :: (← decode32 onFault o r)
  | _ => (onFault false).map ([·])

def markedOrder16 : Bytes → ByteOrder × Bytes
  | 0xFE :: 0xFF :: r => (.big, r)
  | 0xFF :: 0xFE :: r => (.little, r)
  | bs => (.little, bs)

def markedOrder32 : Bytes → ByteOrder × Bytes
  | 0x00 :: 0x00 :: 0xFE :: 0xFF :: r => (.big, r)
  | 0xFF :: 0xFE :: 0x00 :: 0x00 :: r => (.little, r)
  | bs => (.little, bs)

def dropMark : Bytes → Bytes
  | 0xEF :: 0xBB :: 0xBF :: r => r
  | bs => bs

namespace Charset

inductive Refusal
  | notIncremental
  | notBytes
  | undecodable
  | malformed
deriving DecidableEq, Repr

def tableChar? (table : Array Char) (b : UInt8) : Option Char := do
  let c ← if table.size == 256 then table[b.toNat]?
    else if b < 0x80 then some (Char.ofNat b.toNat)
    else table[b.toNat - 128]?
  if c == replacementChar then none else some c

def decode? (wide : Bool) (set : Charset) (bs : Bytes) : Option (List Char) :=
  let onFault (surrogate : Bool) : Option Char :=
    if wide && surrogate then some replacementChar else none
  let read8 (bs : Bytes) : Option (List Char) := if wide then decodeWide? bs else decodeUtf8? bs
  match set with
  | .utf8 => read8 bs
  | .utf8Marked => read8 (dropMark bs)
  | .utf16 (some o) => decode16 onFault o bs
  | .utf16 none => let (o, r) := markedOrder16 bs; decode16 onFault o r
  | .utf32 (some o) => decode32 onFault o bs
  | .utf32 none => let (o, r) := markedOrder32 bs; decode32 onFault o r
  | .utf7 => Utf7.decode none bs
  | .latin1 => some (bs.map fun b => Char.ofNat b.toNat)
  | .ascii => if bs.all (· < 0x80) then some (bs.map fun b => Char.ofNat b.toNat) else none
  | .singleByte table => let table := table.toList.toArray; bs.mapM (tableChar? table)
  | .doubleByte set => readStrict? set.next bs
  | .iso2022 l => Iso2022.decode none l bs
  | .tilde => Tilde.decode none bs
  | .escapes => Escapes.decode none bs
  | .rawEscapes => Escapes.decodeRaw none bs
  | .punycode =>
    if bs.all (· < 0x80) then
      (Punycode.decode? (bs.map fun b => Char.ofNat b.toNat)).map (·.map Char.ofNat)
    else none
  | .hostNames => if bs.all (· < 0x80) then some (bs.map fun b => Char.ofNat b.toNat) else none
  | .packed | .rotated | .undefined => none

/-- Whether units of so many bytes lack the mark that tells their order. A part of a unit alone is
no more than a fault. -/
private def lacksMark (unit : Nat) (bs rest : Bytes) : Bool :=
  unit ≤ bs.length && rest.length == bs.length

def decodeLossy (set : Charset) (bs : Bytes) : Except Refusal (List Char) :=
  let onFault (_ : Bool) : Option Char := some replacementChar
  let shown (cs : Option (List Char)) : Except Refusal (List Char) := .ok (cs.getD [])
  match set with
  | .utf8 => .ok (Text.decodeLossy bs)
  | .utf8Marked => .ok (if bs == [0xEF] || bs == [0xEF, 0xBB] then [] else
      Text.decodeLossy (dropMark bs))
  | .utf16 (some o) => shown (decode16 onFault o bs)
  | .utf16 none =>
    let (o, r) := markedOrder16 bs
    if lacksMark 2 bs r then .error .undecodable else shown (decode16 onFault o r)
  | .utf32 (some o) => shown (decode32 onFault o bs)
  | .utf32 none =>
    let (o, r) := markedOrder32 bs
    if lacksMark 4 bs r then .error .undecodable else shown (decode32 onFault o r)
  | .utf7 => shown (Utf7.decode (some replacementChar) bs)
  | .latin1 => .ok (bs.map fun b => Char.ofNat b.toNat)
  | .ascii => .ok (bs.map fun b => if b < 0x80 then Char.ofNat b.toNat else replacementChar)
  | .singleByte table =>
    let table := table.toList.toArray
    .ok (bs.map fun b => (tableChar? table b).getD replacementChar)
  | .doubleByte set => .ok (readLossy set.next bs)
  | .iso2022 l => (Iso2022.decode (some replacementChar) l bs).elim (.error .undecodable) .ok
  | .tilde => shown (Tilde.decode (some replacementChar) bs)
  | .escapes => shown (Escapes.decode (some replacementChar) bs)
  | .rawEscapes => shown (Escapes.decodeRaw (some replacementChar) bs)
  | .punycode => (Punycode.decodeLossy? bs).elim (.error .malformed) .ok
  | .packed => .error .notIncremental
  | .rotated => .error .notBytes
  | .hostNames | .undefined => .error .undecodable

end Charset

end TicketKeeper.Text
