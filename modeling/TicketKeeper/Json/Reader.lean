import TicketKeeper.Json.Basic
import TicketKeeper.Text.Charset
import TicketKeeper.Text.Hex

/-! Reading JSON from bytes. The encoding is told by the first bytes; besides JSON's own values the
names NaN, Infinity and -Infinity are read. A reader takes the remaining text and gives back what
follows the value, so a place in the text is told by how much of it remains.

An escape may stand for half of a surrogate pair. Texts have no such characters here, and a string
with half of a pair that stands alone is not read. -/
namespace TicketKeeper.Json

open TicketKeeper.Number (Binary64 ofDigits withSign maxDigits)
open TicketKeeper.Text (Bytes Charset hexValue?)

inductive ReadFault
  /-- The text is not JSON at this place, counted in characters. -/
  | malformed (position : Nat)
  | encoding
  | tooLong
  /-- Values are nested deeper than is read. -/
  | tooDeep
  | unpaired
deriving DecidableEq

/-- Why reading stopped: here so many characters remain. -/
inductive Stop
  | at (remaining : Nat)
  | tooLong
  | tooDeep
  | unpaired

def stopAt {α : Type} (remaining : Nat) : Except Stop α := .error (.at remaining)

def isGap (c : Char) : Bool := c == ' ' || c == '\t' || c == '\n' || c == '\r'

def skipGap (s : List Char) : List Char := s.dropWhile isGap

def hex4? : List Char → Option Nat
  | [a, b, c, d] => do
    return (((← hexValue? a) * 16 + (← hexValue? b)) * 16 + (← hexValue? c)) * 16 + (← hexValue? d)
  | _ => none

def isHigh (u : Nat) : Bool := 0xD800 ≤ u && u ≤ 0xDBFF
def isLow (u : Nat) : Bool := 0xDC00 ≤ u && u ≤ 0xDFFF

def unitChar (u : Nat) : Except Stop Char :=
  if isHigh u || isLow u then .error .unpaired else .ok (Char.ofNat u)

/-- The second half of a pair, when an escape for it follows with a character behind it. -/
def lowHalf? (s : List Char) : Except Stop (Option Nat) :=
  match s with
  | '\\' :: 'u' :: r =>
    if r.length < 5 then .ok none
    else match hex4? (r.take 4) with
      | some u => .ok (if isLow u then some u else none)
      | none => stopAt (r.length + 1)
  | _ => .ok none

def unicodeEscape (s : List Char) : Except Stop (Char × List Char) :=
  if s.length < 5 then stopAt (s.length + 1)
  else match hex4? (s.take 4) with
    | none => stopAt (s.length + 1)
    | some u =>
      let r := s.drop 4
      if isHigh u then do
        match ← lowHalf? r with
        | some low => .ok (Char.ofNat (0x10000 + (u - 0xD800) * 1024 + (low - 0xDC00)), r.drop 6)
        | none => .error .unpaired
      else return (← unitChar u, r)

def plainEscape? (c : Char) : Option Char :=
  match c with
  | '"' => some '"'
  | '\\' => some '\\'
  | '/' => some '/'
  | 'b' => some '\x08'
  | 'f' => some '\x0c'
  | 'n' => some '\n'
  | 'r' => some '\r'
  | 't' => some '\t'
  | _ => none

/-- The rest of a string behind its quote; `start` is the place of that quote. The first argument
bounds the steps, each of which takes a character. -/
def stringRest (start : Nat) : Nat → List Char → Except Stop (List Char × List Char)
  | _, [] => stopAt start
  | 0, _ => stopAt start
  | n + 1, c :: r =>
    if c == '"' then .ok ([], r)
    else if c == '\\' then
      match r with
      | [] => stopAt start
      | 'u' :: r => do
        let (c, r) ← unicodeEscape r
        let (cs, r) ← stringRest start n r
        .ok (c :: cs, r)
      | e :: r => match plainEscape? e with
        | some c => do
          let (cs, r) ← stringRest start n r
          .ok (c :: cs, r)
        | none => stopAt (r.length + 2)
    else if c.toNat < 32 then stopAt (r.length + 1)
    else do
      let (cs, r) ← stringRest start n r
      .ok (c :: cs, r)

def readString (start : Nat) (r : List Char) : Except Stop (String × List Char) := do
  let (cs, r) ← stringRest start r.length r
  .ok (String.ofList cs, r)

def digitsOf (s : List Char) : Nat := ofDigits (s.map fun c => c.toNat - 48)

def fraction? : List Char → Option (List Char × List Char)
  | '.' :: r => if (r.takeWhile Char.isDigit).isEmpty then none else some (r.span Char.isDigit)
  | _ => none

def exponent? : List Char → Option (Int × List Char)
  | c :: r =>
    if c == 'e' || c == 'E' then
      let (down, r) := Number.cutSign r
      let (ds, r) := r.span Char.isDigit
      if ds.isEmpty then none else some (withSign down (digitsOf ds), r)
    else none
  | [] => none

/-- A number; a text that does not start with one stops at `start`. -/
def readNumber (start : Nat) (s : List Char) : Except Stop (Json × List Char) :=
  let (negative, s) := match s with
    | '-' :: r => (true, r)
    | _ => (false, s)
  let (whole, s) := match s with
    | '0' :: r => (['0'], r)
    | _ => s.span Char.isDigit
  if whole.isEmpty then stopAt start
  else match fraction? s, exponent? s with
    | none, none =>
      if maxDigits < whole.length then .error .tooLong
      else .ok (.int (withSign negative (digitsOf whole)), s)
    | none, some (e, r) => .ok (.float (Binary64.ofDecimal negative (digitsOf whole) e), r)
    | some (ds, r), _ =>
      let (e, r) := (exponent? r).getD (0, r)
      .ok (.float (Binary64.ofDecimal negative (digitsOf (whole ++ ds)) (e - ds.length)), r)

def named : List (List Char × Json) := [
  ("null".toList, .null), ("true".toList, .bool true), ("false".toList, .bool false),
  ("NaN".toList, .float .nan), ("Infinity".toList, .float (.infinite false)),
  ("-Infinity".toList, .float (.infinite true))]

def readItems (read : List Char → Except Stop (Json × List Char)) :
    Nat → List Char → Except Stop (List Json × List Char)
  | 0, s => stopAt s.length
  | n + 1, s => do
    let (v, r) ← read s
    match skipGap r with
    | ']' :: r => .ok ([v], r)
    | ',' :: r => do
      let (vs, r) ← readItems read n (skipGap r)
      .ok (v :: vs, r)
    | r => stopAt r.length

def readMembers (read : List Char → Except Stop (Json × List Char)) :
    Nat → List (String × Json) → List Char → Except Stop (List (String × Json) × List Char)
  | 0, _, s => stopAt s.length
  | n + 1, before, s =>
    match s with
    | '"' :: r => do
      let (name, r) ← readString s.length r
      match skipGap r with
      | ':' :: r => do
        let (v, r) ← read (skipGap r)
        let members := setMember name v before
        match skipGap r with
        | '\x7d' :: r => .ok (members, r)
        | ',' :: r => readMembers read n members (skipGap r)
        | r => stopAt r.length
      | r => stopAt r.length
    | s => stopAt s.length

def readValue : Nat → List Char → Except Stop (Json × List Char)
  | 0, _ => .error .tooDeep
  | n + 1, s =>
    match s with
    | [] => stopAt 0
    | '"' :: r => do
      let (t, r) ← readString s.length r
      .ok (.str t, r)
    | '[' :: r =>
      let r := skipGap r
      match r with
      | ']' :: r => .ok (.arr [], r)
      | _ => do
        let (items, r) ← readItems (readValue n) r.length r
        .ok (.arr items, r)
    | '\x7b' :: r =>
      let r := skipGap r
      match r with
      | '\x7d' :: r => .ok (.obj [], r)
      | _ => do
        let (members, r) ← readMembers (readValue n) r.length [] r
        .ok (.obj members, r)
    | _ => match named.find? fun p => p.1.isPrefixOf s with
      | some (name, v) => .ok (v, s.drop name.length)
      | none => readNumber s.length s

/-- How deep values are nested that a reader takes, unless it is told otherwise. Where that ends
depends on the stack which is left to the reader. -/
def usualDepth : Nat := 985

def ofText (s : List Char) (depth : Nat := usualDepth) : Except ReadFault Json :=
  let place : Stop → ReadFault
    | .at remaining => .malformed (s.length - remaining)
    | .tooLong => .tooLong
    | .tooDeep => .tooDeep
    | .unpaired => .unpaired
  match readValue (depth + 1) (skipGap s) with
  | .error stop => .error (place stop)
  | .ok (v, r) => match skipGap r with
    | [] => .ok v
    | r => .error (.malformed (s.length - r.length))

/-- The encoding that a JSON text shows: a byte order mark, or zeros among the first four bytes. -/
def charsetOf (bs : Bytes) : Charset :=
  match bs with
  | 0x00 :: 0x00 :: 0xFE :: 0xFF :: _ => .utf32 none
  | 0xFF :: 0xFE :: 0x00 :: 0x00 :: _ => .utf32 none
  | 0xFE :: 0xFF :: _ => .utf16 none
  | 0xFF :: 0xFE :: _ => .utf16 none
  | 0xEF :: 0xBB :: 0xBF :: _ => .utf8Marked
  | a :: b :: c :: d :: _ =>
    if a == 0 then if b == 0 then .utf32 (some .big) else .utf16 (some .big)
    else if b == 0 then
      if c == 0 && d == 0 then .utf32 (some .little) else .utf16 (some .little)
    else .utf8
  | [a, b] =>
    if a == 0 then .utf16 (some .big) else if b == 0 then .utf16 (some .little) else .utf8
  | _ => .utf8

def ofBytes (bs : Bytes) (depth : Nat := usualDepth) : Except ReadFault Json :=
  match (charsetOf bs).decode? true bs with
  | some s => ofText s depth
  | none => .error .encoding

end TicketKeeper.Json
