import TicketKeeper.Field
import TicketKeeper.Outcome
import TicketKeeper.Settings
import TicketKeeper.Build

/-! Reports of finished builds. A report is read from JSON field by field; every field that breaks
a rule is told, and what is read is clean. -/
namespace TicketKeeper

structure Report where
  job : String
  number : Int
  url : String := ""
  outcome : Outcome
  previous : Option Outcome := none
  rootUrl : Option String := none
  projectKey : Option String := none
  testDescription : Option String := none
  assignee : Option String := none
  components : Option (List String) := none
deriving DecidableEq, Repr

namespace Report

def maxJob : Nat := 255
def maxUrl : Nat := 2048
def maxProjectKey : Nat := 32
def maxDescription : Nat := 4000
def maxAssignee : Nat := 128
def maxComponents : Nat := 20

/-- A whole number of at least one: a number, a truth value, or a numeric field. -/
def wholeNumber : Json → Except Rule Int
  | .int n => .ok n
  | .bool b => .ok (if b then 1 else 0)
  | .str s => (Number.field s.toList).mapError fun
    | .malformed => .malformedInteger
    | .tooLong => .hugeInteger
  | .float x => match x with
    | .finite .. => match x.toInt? with
      | none => .error .fractional
      | some n => if n.natAbs < 0x8000000000000000 then .ok n else .error .hugeInteger
    | _ => .error .notFinite
  | _ => .error .notInteger

def buildNumber (v : Json) : Except Rule Int := do
  let n ← wholeNumber v
  if n < 1 then .error .tooSmall else .ok n

def bounded (least most : Nat) (s : String) : Except Rule String :=
  if s.length < least then .error .tooShort
  else if most < s.length then .error .tooLong
  else .ok s

/-- What is read of the text of a value, if it has one. -/
def written {α : Type} (v : Json) (read : Except Rule α) : Except Rule α :=
  if v.hasText then read else .error .badValue

/-- An optional text: empty is as good as absent. -/
def optional (most : Nat) (s : String) : Except Rule (Option String) :=
  if s = "" then .ok none else (bounded 0 most s).map some

def outcomeField : Json → Except Rule (Option Outcome)
  | .null => .ok none
  | .str s =>
    if (Text.trim s.toList).isEmpty then .ok none
    else match Outcome.spelled? s with
      | some o => .ok (some o)
      | none => .error .notListed
  | _ => .error .notListed

def requiredOutcome (v : Json) : Except Rule Outcome := do
  match ← outcomeField v with
  | some o => .ok o
  | none => .error .notListed

def componentNames : Json → Except Defect (Except Rule (Option (List String)))
  | .null => .ok (.ok none)
  | v => match Field.names (some maxComponents) v with
    | .ok names => .ok (.ok (some names))
    | .error .tooManyItems | .error .badValue => .ok (.error .badValue)
    | .error d => .error d

private def broken? {α : Type} (name : String) : Except Rule α → Option Violation
  | .ok _ => none
  | .error rule => some ⟨rule, [.field name]⟩

def ofMembers (members : List (String × Json)) : Except Fault Report :=
  let required {α : Type} (name : String) (read : Json → Except Rule α) : Except Rule α :=
    match Json.member? name members with
    | some v => read v
    | none => .error .missing
  let withDefault {α : Type} (name : String) (default : α) (read : Json → Except Rule α) :
      Except Rule α :=
    ((Json.member? name members).map read).getD (.ok default)
  let line (most : Nat) (v : Json) : Except Rule (Option String) :=
    written v (optional most (Field.line v))
  let job := required "job_name" fun v => written v (bounded 1 maxJob (Field.line v))
  let number := required "build_number" buildNumber
  let url := withDefault "build_url" "" fun v => written v (bounded 0 maxUrl (Field.line v))
  let outcome := required "result" requiredOutcome
  let previous := withDefault "previous_result" none outcomeField
  let rootUrl := withDefault "root_url" none (line maxUrl)
  let projectKey := withDefault "project_key" none (line maxProjectKey)
  let description := withDefault "test_description" none fun v =>
    written v (optional maxDescription (Field.text v))
  let assignee := withDefault "assignee" none (line maxAssignee)
  match componentNames ((Json.member? "components" members).getD .null) with
  | .error d => .error (.defect d)
  | .ok components =>
    let report? : Option Report := do
      return ⟨← job.toOption, ← number.toOption, ← url.toOption, ← outcome.toOption,
        ← previous.toOption, ← rootUrl.toOption, ← projectKey.toOption, ← description.toOption,
        ← assignee.toOption, ← components.toOption⟩
    match report? with
    | some report => .ok report
    | none => .error <| .invalid <| List.filterMap id [
        broken? "job_name" job, broken? "build_number" number, broken? "build_url" url,
        broken? "result" outcome, broken? "previous_result" previous, broken? "root_url" rootUrl,
        broken? "project_key" projectKey, broken? "test_description" description,
        broken? "assignee" assignee, broken? "components" components]

def ofJson : Json → Except Fault Report
  | .obj members => ofMembers members
  | _ => .error (.invalid [⟨.notObject, []⟩])

def toJson (r : Report) : Json :=
  .obj [("job_name", .str r.job), ("build_number", .int r.number), ("build_url", .str r.url),
    ("result", .str r.outcome.name), ("previous_result", .ofOption (.str ·.name) r.previous),
    ("root_url", .ofString? r.rootUrl), ("project_key", .ofString? r.projectKey),
    ("test_description", .ofString? r.testDescription), ("assignee", .ofString? r.assignee),
    ("components", .ofOption (fun cs => .arr (cs.map .str)) r.components)]

end Report

structure Profile where
  projectKey : String
  testDescription : String := ""
  assignee : String := ""
  components : List String := []
deriving DecidableEq, Repr

namespace Profile

def ofReport (settings : Settings) (r : Report) : Profile where
  projectKey :=
    String.ofList (Text.trim (r.projectKey.getD settings.projectKey).toList)
  testDescription := r.testDescription.getD settings.testDescription
  assignee := r.assignee.getD settings.assignee
  components := r.components.getD settings.defaultComponents

end Profile

end TicketKeeper
