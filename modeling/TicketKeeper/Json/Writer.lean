import TicketKeeper.Json.Basic

/-! Writing JSON on one line, in one of two layouts: compact with raw characters, or spaced with
all characters outside ASCII escaped. -/
namespace TicketKeeper.Json

structure Layout where
  comma : List Char
  colon : List Char
  /-- Whether characters from 7F on are escaped. -/
  asciiOnly : Bool

def compact : Layout := ⟨[','], [':'], false⟩
def spaced : Layout := ⟨[',', ' '], [':', ' '], true⟩

private def unitEscape (n : Nat) : List Char := '\\' :: 'u' :: Text.hexPadded 4 n

def escapeWide (n : Nat) : List Char :=
  if n < 0x10000 then unitEscape n
  else unitEscape (0xD800 + (n - 0x10000) / 1024) ++ unitEscape (0xDC00 + (n - 0x10000) % 1024)

def escapeChar (layout : Layout) (c : Char) : List Char :=
  let n := c.toNat
  if c == '"' || c == '\\' then ['\\', c]
  else if c == '\n' then ['\\', 'n']
  else if c == '\r' then ['\\', 'r']
  else if c == '\t' then ['\\', 't']
  else if n == 8 then ['\\', 'b']
  else if n == 12 then ['\\', 'f']
  else if n < 32 || (layout.asciiOnly && 127 ≤ n) then escapeWide n
  else [c]

def writeString (layout : Layout) (s : String) : List Char :=
  '"' :: s.toList.flatMap (escapeChar layout) ++ ['"']

/-- Decimals as in messages, but for the names of the values that are no numbers. -/
def writtenFloatStyle : Number.FloatStyle := ⟨-4, 16, 2, "Infinity", "NaN"⟩

mutual

def writeChars (layout : Layout) : Json → List Char
  | null => "null".toList
  | bool b => (if b then "true" else "false").toList
  | int n => (toString n).toList
  | float x => x.write writtenFloatStyle
  | str s => writeString layout s
  | arr items => '[' :: writeItems layout items ++ [']']
  | obj members => '\x7b' :: writeMembers layout members ++ ['\x7d']

def writeItems (layout : Layout) : List Json → List Char
  | [] => []
  | [v] => writeChars layout v
  | v :: vs => writeChars layout v ++ layout.comma ++ writeItems layout vs

def writeMembers (layout : Layout) : List (String × Json) → List Char
  | [] => []
  | [(n, v)] => writeString layout n ++ layout.colon ++ writeChars layout v
  | (n, v) :: ms =>
    writeString layout n ++ layout.colon ++ writeChars layout v ++ layout.comma ++
      writeMembers layout ms

end

mutual

/-- Whether all numbers in a value are finite, as JSON wants them. -/
def isWritable : Json → Bool
  | float (.finite ..) => true
  | float _ => false
  | arr items => areWritable items
  | obj members => membersWritable members
  | _ => true

def areWritable : List Json → Bool
  | [] => true
  | v :: vs => isWritable v && areWritable vs

def membersWritable : List (String × Json) → Bool
  | [] => true
  | (_, v) :: ms => isWritable v && membersWritable ms

end

def write (layout : Layout) (v : Json) : String := String.ofList (writeChars layout v)

end TicketKeeper.Json
