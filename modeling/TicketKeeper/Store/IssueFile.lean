import TicketKeeper.Store.Record
import TicketKeeper.Text.Utf8
import TicketKeeper.Number.Integer

/-! The issue file: the key on its first line, and the last applied build on a line `build=N`. Of
several such lines the last one that has a number counts. -/
namespace TicketKeeper.Store.IssueFile

open TicketKeeper.Text

def buildLabel : List Char := ['b', 'u', 'i', 'l', 'd', '=']

def encode (key : String) (build : Option Int) : List Char :=
  key.toList ++ '\n' :: match build with
    | some n => buildLabel ++ (toString n).toList ++ ['\n']
    | none => []

/-- The number on a build line; none for other lines and for build lines without a number. -/
def build? (line : List Char) : Option Int :=
  let line := trim line
  if buildLabel.isPrefixOf line then Number.numeral? (line.drop buildLabel.length) else none

/-- A file with a blank first line has no record. -/
def decode (text : List Char) : Option Record :=
  match lines text with
  | [] => none
  | first :: rest =>
    let key := trim first
    if key.isEmpty then none
    else some ⟨String.ofList key, (rest.filterMap build?).getLast?⟩

end TicketKeeper.Store.IssueFile
