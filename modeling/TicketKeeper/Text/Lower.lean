import TicketKeeper.Text.Composed
import TicketKeeper.Text.Fold

/-! Lower case as far as host names need it: the letters that no host name admits may keep their
form. -/
namespace TicketKeeper.Text

def keptRuns : List Run := readRuns <|
  "b5 17f 345 3c2 3d0-3d1 3d5-3d6 3f0-3f1 3f5 13f8-13fd 1c80-1c88 1e9b 1fbe ab70-abbf"

def lowerChar (c : Char) : List Char :=
  let n := c.toNat
  if n < 128 then [c.toLower]
  else if n == 0x130 then ['i', '\u0307']
  else if n == 0x1E9E then ['ß']
  else if 0x13A0 ≤ n && n ≤ 0x13EF then [Char.ofNat (n - 0x13A0 + 0xAB70)]
  else if 0x13F0 ≤ n && n ≤ 0x13F5 then [Char.ofNat (n + 8)]
  else if isAmong keptRuns c then [c]
  else match foldRuns.find? (·.covers n) with
    | some r => [Char.ofNat (r.apply n)]
    | none => [c]

private def lowerRuns : List Run := readRuns Table.lowerCase

private def unnoticedRuns : List Run := readRuns Table.unnoticed

def isCased (c : Char) : Bool :=
  if c.toNat < 128 then c.isAlpha else isAmong lowerRuns c || lowerChar c != [c]

def isUnnoticed (c : Char) : Bool :=
  if c.toNat < 128 then ['\'', '.', ':', '^', '\x60'].contains c
  else isAmong unnoticedRuns c || isFlatMark c

/-- Whether a letter ends a word, from the text before it in reverse and the text behind it. -/
def endsWord (before behind : List Char) : Bool :=
  ((before.dropWhile isUnnoticed).head?.map isCased).getD false &&
    !((behind.dropWhile isUnnoticed).head?.map isCased).getD false

/-- Sigma has a form of its own at the end of a word. -/
def lowerFrom (before : List Char) : List Char → List Char
  | [] => []
  | c :: r =>
    (if c == 'Σ' then [if endsWord before r then 'ς' else 'σ'] else lowerChar c) ++
      lowerFrom (c :: before) r

def lower (s : List Char) : List Char := lowerFrom [] s

end TicketKeeper.Text
