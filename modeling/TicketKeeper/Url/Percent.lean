import TicketKeeper.Text.Hex

/-! Percent encoding. Characters outside the safe class of a component are written as their UTF-8
bytes; escapes that stand in the text already are kept. -/
namespace TicketKeeper.Url

open TicketKeeper.Text

def upperHex (n : Nat) : Char := (Nat.digitChar n).toUpper

def percentByte (b : UInt8) : List Char :=
  ['%', upperHex (b.toNat / 16), upperHex (b.toNat % 16)]

def percentChar (c : Char) : List Char := (encodeUtf8 [c]).flatMap percentByte

def percentEncode (safe : Char → Bool) : List Char → List Char
  | '%' :: a :: b :: r =>
    if isHexDigit a && isHexDigit b then '%' :: a :: b :: percentEncode safe r
    else (if safe '%' then ['%'] else percentChar '%') ++ percentEncode safe (a :: b :: r)
  | c :: r => (if safe c then [c] else percentChar c) ++ percentEncode safe r
  | [] => []

def percentBytes : List Char → Bytes
  | '%' :: a :: b :: r =>
    match hexValue? a, hexValue? b with
    | some x, some y => UInt8.ofNat (x * 16 + y) :: percentBytes r
    | _, _ => 0x25 :: percentBytes (a :: b :: r)
  | c :: r => encodeUtf8 [c] ++ percentBytes r
  | [] => []

def percentDecode (s : List Char) : List Char := decodeLossy (percentBytes s)

private def isPlain (excluded : List Char) (c : Char) : Bool :=
  32 ≤ c.toNat && c.toNat < 127 && !excluded.contains c

def isPathSafe (c : Char) : Bool :=
  isPlain [' ', '"', '#', '<', '>', '?', '\x60', '\x7b', '\x7d'] c

def isQuerySafe (c : Char) : Bool := isPlain [' ', '"', '#', '<', '>'] c

def isFragmentSafe (c : Char) : Bool := isPlain [' ', '"', '<', '>', '\x60'] c

def isUserSafe (c : Char) : Bool :=
  isPlain [' ', '"', '#', '<', '>', '?', '\x60', '\x7b', '\x7d', '/', ';', '=', '@', '[', '\\', ']',
    '^', '|'] c

def isHostSafe (c : Char) : Bool :=
  c.isAlphanum || ['-', '.', '_', '~', '!', '$', '&', '\'', '(', ')', '*', '+', ',', ';', '=', '"',
    '\x60', '\x7b', '\x7d', '%', '|', '\\'].contains c

end TicketKeeper.Url
