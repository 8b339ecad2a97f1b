import TicketKeeper.Text.Lower
import TicketKeeper.Text.Punycode

/-! Host names outside ASCII. Each label of a name must be composed text of letters, marks and
digits that may stand together; a label outside ASCII is written as ASCII behind a prefix. -/
namespace TicketKeeper.Url

open TicketKeeper.Text

inductive HostFault
  | malformed
  | direction
  | letter
  | context
deriving DecidableEq, Repr

namespace HostName

inductive Direction
  | toRight
  | toLeft
  | digit
  | arabicDigit
  | mark
  | neutral
deriving DecidableEq, Repr

private def letterRuns : List Run := readRuns Table.nameLetters
private def leftRuns : List Run := readRuns Table.rightToLeft ++ readRuns Table.arabicLetters
private def arabicDigitRuns : List Run := readRuns Table.arabicDigits
private def digitRuns : List Run := readRuns Table.plainDigits
private def neutralRuns : List Run := readRuns Table.neutral
private def joinsBehindRuns : List Run := readRuns Table.joinsBehind ++ readRuns Table.joinsBoth
private def joinsBeforeRuns : List Run := readRuns Table.joinsBefore ++ readRuns Table.joinsBoth
private def transparentRuns : List Run := readRuns Table.transparent
private def greekRuns : List Run := readRuns Table.greek
private def hebrewRuns : List Run := readRuns Table.hebrew
private def japaneseRuns : List Run := readRuns Table.japanese

def isLetter (c : Char) : Bool :=
  if c.toNat < 128 then c.isLower || c.isDigit || c == '-' else isAmong letterRuns c

def direction (c : Char) : Direction :=
  if c.toNat < 128 then
    if c.isDigit then .digit else if c == '-' then .neutral else .toRight
  else if isFlatMark c then .mark
  else if isAmong leftRuns c then .toLeft
  else if isAmong arabicDigitRuns c then .arabicDigit
  else if isAmong digitRuns c then .digit
  else if isAmong neutralRuns c then .neutral
  else .toRight

/-- A label with letters from right to left starts with one, has no letter from left to right, ends
with a letter or a digit and has digits of one kind. -/
def isDirected (ds : List Direction) : Bool :=
  if ds.contains .toLeft || ds.contains .arabicDigit then
    ds.head? == some .toLeft && !ds.contains .toRight &&
      (ds.reverse.dropWhile (· == .mark)).head? != some .neutral &&
        !(ds.contains .digit && ds.contains .arabicDigit)
  else true

private def headIs (p : Char → Bool) (s : List Char) : Bool := (s.head?.map p).getD false

private def isTransparent (c : Char) : Bool := isFlatMark c || isAmong transparentRuns c

/-- A joiner follows a mark that takes a vowel away; the one that keeps letters apart may also stand
between letters that would join. -/
def isJoinerFit (joiner : Char) (before behind : List Char) : Bool :=
  headIs (markClass · == 9) before || (joiner == '\u200c' &&
    headIs (isAmong joinsBehindRuns) (before.dropWhile isTransparent) &&
      headIs (isAmong joinsBeforeRuns) (behind.dropWhile isTransparent))

private def isArabicDigit (c : Char) : Bool := 0x660 ≤ c.toNat && c.toNat ≤ 0x669
private def isPersianDigit (c : Char) : Bool := 0x6F0 ≤ c.toNat && c.toNat ≤ 0x6F9

/-- The rules for characters that need certain others around them; absent for all other
characters. -/
def isContextFit? (c : Char) (before behind : List Char) : Option Bool :=
  let any (p : Char → Bool) : Bool := before.any p || behind.any p
  if c == '·' then some (headIs (· == 'l') before && headIs (· == 'l') behind)
  else if c.toNat == 0x375 then some (headIs (isAmong greekRuns) behind)
  else if c.toNat == 0x5F3 || c.toNat == 0x5F4 then some (headIs (isAmong hebrewRuns) before)
  else if c == '・' then some (any (isAmong japaneseRuns))
  else if isArabicDigit c then some (!any isPersianDigit)
  else if isPersianDigit c then some (!any isArabicDigit)
  else none

def checkChars (before : List Char) : List Char → Except HostFault Unit
  | [] => .ok ()
  | c :: r => do
    if !isLetter c then
      if c == '\u200c' || c == '\u200d' then
        if !isJoinerFit c before r then throw .malformed
      else match isContextFit? c before r with
        | none => throw .letter
        | some fit => if !fit then throw .context
    checkChars (c :: before) r

def checkLabel (label : List Char) : Except HostFault Unit := do
  if label.isEmpty || !isComposed label || (label.drop 2).take 2 == ['-', '-'] ||
      label.head? == some '-' || label.getLast? == some '-' || headIs isMark label then
    throw .malformed
  checkChars [] label
  if !isDirected (label.map direction) then throw .direction

def codedPrefix : List Char := ['x', 'n', '-', '-']

def maxLabel : Nat := 63

def readLabel (label : List Char) : Except HostFault (List Char) := do
  let label := label.map Char.toLower
  if codedPrefix.isPrefixOf label then
    let coded := label.drop codedPrefix.length
    if coded.isEmpty || coded.getLast? == some '-' then throw .malformed
    let some text := (Punycode.decode? coded).map (·.map Char.ofNat) | throw .malformed
    checkLabel text
    return text
  else
    checkLabel label
    return label

def writeLabel (label : List Char) : Except HostFault (List Char) := do
  if maxLabel < label.length then throw .malformed
  let coded ← if label.all (·.toNat < 128) then (readLabel label).map fun _ => label
    else (checkLabel label).map fun _ => codedPrefix ++ Punycode.encode label
  if maxLabel < coded.length then throw .malformed
  return coded

private def isDot (c : Char) : Bool := ['.', '。', '．', '｡'].contains c

def labels (name : List Char) : List (List Char) × Bool :=
  let ls := fields isDot name
  if ls.getLast? == some [] then (ls.dropLast, true) else (ls, false)

private def joined (ls : List (List Char)) (dotted : Bool) : List Char :=
  ['.'].intercalate ls ++ if dotted then ['.'] else []

def maxName : Nat := 253

def write (name : List Char) : Except HostFault (List Char) := do
  let (ls, dotted) := labels name
  let coded := joined (← ls.mapM writeLabel) dotted
  if (if dotted then maxName + 1 else maxName) < coded.length then throw .malformed
  return coded

/-- The text of a name of ASCII whose first label is coded; any other name is its own text. -/
def read (name : List Char) : Except HostFault (List Char) := do
  if codedPrefix.isPrefixOf name then
    let (ls, dotted) := labels name
    return joined (← ls.mapM readLabel) dotted
  else return name

end HostName

end TicketKeeper.Url
