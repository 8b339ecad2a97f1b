import TicketKeeper.Failure
import TicketKeeper.Text.Split

/-! A finished build and the texts that tickets say about it. -/
namespace TicketKeeper

structure Build where
  job : String
  number : Int
  url : String := ""
  rootUrl : String := ""

namespace Build

def consoleUrl (b : Build) : String :=
  if b.url = "" then ""
  else (if b.url.toList.getLast? = some '/' then b.url else b.url ++ "/") ++ "console"

/-- One line that names the build, and one with its console log if there is one. A number without a
numeral cannot be named. -/
def runLines (label : String) (b : Build) : Except Defect (List String) :=
  if Number.isWritable b.number then
    let run := Text.trimEnd s!"- {label} : #{b.number} {b.url}".toList
    .ok (String.ofList run ::
      (if b.consoleUrl = "" then [] else ["-- console log : " ++ b.consoleUrl]))
  else .error .badValue

def maxSummary : Nat := 255

def summary (b : Build) : String :=
  let s := "Test " ++ b.job ++ " failure"
  let s := if b.rootUrl = "" then s else s ++ " - " ++ b.rootUrl
  String.ofList (s.toList.take maxSummary)

def textAround (b : Build) (label : String) (before behind : List String) :
    Except Defect String :=
  (b.runLines label).map fun run => "\n".intercalate (before ++ run ++ behind)

def descriptionText (b : Build) (testDescription : String) : Except Defect String :=
  let text := String.ofList (Text.trim testDescription.toList)
  b.textAround "First failed run"
    ["The test " ++ b.job ++ " has failed.", "",
      if text = "" then "No description is provided" else text, ""]
    ["", "If it is a false alarm please notify the CI tools team:",
      "1. Move the issue to the tools project.",
      "2. Set the component to the CI to Jira integration."]

def stillFailingText (b : Build) : Except Defect String :=
  b.textAround "Failed run" ["- Job is still failing."] []

def nowPassingText (b : Build) : Except Defect String :=
  b.textAround "Passed run" ["- Job is not failing but the issue is still open."] []

def forgottenText (b : Build) : Except Defect String :=
  b.textAround "Last observed run" ["- Issue is closed; " ++ b.job ++ " stops tracking it."] []

/-- A text that cannot be written is empty here. Nothing is posted then. -/
def orEmpty (text : Except Defect String) : String := text.toOption.getD ""

def description (b : Build) (testDescription : String) : String :=
  orEmpty (b.descriptionText testDescription)

def stillFailing (b : Build) : String := orEmpty b.stillFailingText

def nowPassing (b : Build) : String := orEmpty b.nowPassingText

def forgotten (b : Build) : String := orEmpty b.forgottenText

end Build

end TicketKeeper
