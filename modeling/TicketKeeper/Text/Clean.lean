import TicketKeeper.Text.Split
import TicketKeeper.Text.Fold

/-! Cleaning of fields that come from the build server. A clean line has words between single
spaces; a clean text has trimmed lines and at most one empty line in a row. Neither has control
characters, the line feeds of a text apart. -/
namespace TicketKeeper.Text

def unifyBreaks : List Char → List Char
  | [] => []
  | '\r' :: '\n' :: r => '\n' :: unifyBreaks r
  | '\r' :: r => '\n' :: unifyBreaks r
  | c :: r => c :: unifyBreaks r

/-- Controls are dropped before blanks are looked at, so a control that is blank separates
nothing. -/
def cleanLine (s : List Char) : List Char :=
  unwords (words ((unifyBreaks s).filter fun c => !isControl c))

/-- At most two line feeds in a row; the first argument counts those just passed. -/
def squeezeBreaks : Nat → List Char → List Char
  | _, [] => []
  | n, c :: r =>
    if c == '\n' then
      if n < 2 then c :: squeezeBreaks (n + 1) r else squeezeBreaks n r
    else c :: squeezeBreaks 0 r

def cleanText (s : List Char) : List Char :=
  let kept := (unifyBreaks s).filter fun c => c == '\n' || !isControl c
  squeezeBreaks 0 (joinLines ((splitAt '\n' (trim kept)).map trim))

def firstSpellings : List (List Char) → List (List Char) → List (List Char)
  | _, [] => []
  | seen, w :: ws =>
    if seen.contains (fold w) then firstSpellings seen ws
    else w :: firstSpellings (fold w :: seen) ws

def cleanNames (names : List (List Char)) : List (List Char) :=
  firstSpellings [] ((names.map cleanLine).filter fun w => !w.isEmpty)

end TicketKeeper.Text
