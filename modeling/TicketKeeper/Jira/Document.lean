import TicketKeeper.Json.Basic
import TicketKeeper.Text.Split

/-! Rich-text documents, as issues and comments carry them: one paragraph for each line of a text
that is not blank, within limits, and never none. -/
namespace TicketKeeper.Jira

open TicketKeeper.Text

structure Document where
  paragraphs : List (List Char)
deriving DecidableEq, Repr

namespace Document

def maxParagraphs : Nat := 40
def maxParagraph : Nat := 1000
def placeholder : List Char := "No details provided.".toList

def contentLines (text : List Char) : List (List Char) :=
  ((lines text).map trim).filter fun l => !l.isEmpty

def ofText (text : List Char) : Document :=
  let content := contentLines text
  let content := if content.isEmpty then [placeholder] else content
  ⟨(content.take maxParagraphs).map (·.take maxParagraph)⟩

def paragraphJson (text : List Char) : Json :=
  .obj [("type", .str "paragraph"),
    ("content", .arr [.obj [("type", .str "text"), ("text", .str (String.ofList text))]])]

def toJson (d : Document) : Json :=
  .obj [("type", .str "doc"), ("version", .int 1),
    ("content", .arr (d.paragraphs.map paragraphJson))]

end Document

def documentJson (text : String) : Json := (Document.ofText text.toList).toJson

end TicketKeeper.Jira
