import TicketKeeper.Host
import TicketKeeper.Text.Split

/-! Settings, as the environment gives them, and the machine that they are for. -/
namespace TicketKeeper

open TicketKeeper.Number (Binary64)

structure Settings where
  appName : String := "CI Build Ticket Tracker"
  environment : String := "development"
  logLevel : String := "INFO"
  jiraUrl : String := ""
  jiraEmail : String := ""
  jiraToken : String := ""
  projectKey : String := ""
  issueType : String := "Bug"
  timeout : Binary64 := .ofInt 25
  maxRetries : Int := 3
  /-- Pairs like `Code Review=open`, between commas. -/
  extraStatuses : String := ""
  rootUrl : String := ""
  ciToken : String := ""
  backend : String := "database"
  storeDirectory : String := "jobs"
  assignee : String := ""
  components : String := ""
  testDescription : String := ""
  commentOnForget : Bool := false
  host : Host := {}

namespace Settings

private def isBlankText (s : String) : Bool := (Text.trim s.toList).isEmpty

def jiraReady (s : Settings) : Bool :=
  !isBlankText s.jiraUrl && !isBlankText s.jiraEmail && !isBlankText s.jiraToken

def defaultComponents (s : Settings) : List String :=
  (((Text.splitAt ',' s.components.toList).map Text.trim).filter (fun w => !w.isEmpty)).map
    String.ofList

/-- The name and the value around the first equals sign; none when either is blank. -/
def statusPair? (pair : List Char) : Option (String × String) :=
  match Text.cutAt '=' pair with
  | (_, none) => none
  | (name, some value) =>
    let name := Text.trim name
    let value := Text.trim value
    if name.isEmpty || value.isEmpty then none
    else some (String.ofList name, String.ofList value)

/-- The operator's statuses. A name that comes again keeps its place and takes the later value. -/
def extraStatusMap (s : Settings) : List (String × String) :=
  ((Text.splitAt ',' s.extraStatuses.toList).filterMap statusPair?).foldl
    (fun map pair => Json.setMember pair.1 pair.2 map) []

def flag? (s : String) : Option Bool :=
  let s := String.ofList (s.toList.map Char.toLower)
  if ["0", "off", "f", "false", "n", "no"].contains s then some false
  else if ["1", "on", "t", "true", "y", "yes"].contains s then some true
  else none

/-- The last value that the environment has under the name, in any case. -/
def envValue? (env : List (String × String)) (name : String) : Option String :=
  (env.filter fun e => e.1.toList.map Char.toUpper == name.toList).getLast?.map (·.2)

private def typed {α : Type} (env : List (String × String)) (name : String) (default : α)
    (read : String → Except Rule α) : Except Violation α :=
  match envValue? env name with
  | none => .ok default
  | some s => (read s).mapError fun rule => ⟨rule, [.field name]⟩

private def readDecimal (s : String) : Except Rule Binary64 :=
  (Number.decimalField? s.toList).elim (.error .malformedDecimal) .ok

private def readInteger (s : String) : Except Rule Int :=
  (Number.field s.toList).mapError fun
    | .malformed => .malformedInteger
    | .tooLong => .hugeInteger

private def readFlag (s : String) : Except Rule Bool :=
  (flag? s).elim (.error .malformedFlag) .ok

private def violation? {α : Type} : Except Violation α → Option Violation
  | .ok _ => none
  | .error v => some v

def ofEnvironment (env : List (String × String)) : Except (List Violation) Settings :=
  let d : Settings := {}
  let text (name default : String) : String := (envValue? env name).getD default
  let timeout := typed env "JIRA_TIMEOUT_SECONDS" d.timeout readDecimal
  let maxRetries := typed env "JIRA_MAX_RETRIES" d.maxRetries readInteger
  let commentOnForget := typed env "COMMENT_ON_FORGET" d.commentOnForget readFlag
  match timeout, maxRetries, commentOnForget with
  | .ok timeout, .ok maxRetries, .ok commentOnForget => .ok {
      appName := text "APP_NAME" d.appName
      environment := text "ENV" d.environment
      logLevel := text "LOG_LEVEL" d.logLevel
      jiraUrl := text "JIRA_BASE_URL" d.jiraUrl
      jiraEmail := text "JIRA_EMAIL" d.jiraEmail
      jiraToken := text "JIRA_API_TOKEN" d.jiraToken
      projectKey := text "JIRA_PROJECT_KEY" d.projectKey
      issueType := text "JIRA_ISSUE_TYPE" d.issueType
      timeout := timeout
      maxRetries := maxRetries
      extraStatuses := text "JIRA_EXTRA_STATUS_MAP" d.extraStatuses
      rootUrl := text "CI_ROOT_URL" d.rootUrl
      ciToken := text "CI_API_TOKEN" d.ciToken
      backend := text "TICKET_STORE_BACKEND" d.backend
      storeDirectory := text "TICKET_STORE_DIR" d.storeDirectory
      assignee := text "DEFAULT_ASSIGNEE" d.assignee
      components := text "DEFAULT_COMPONENTS" d.components
      testDescription := text "DEFAULT_TEST_DESCRIPTION" d.testDescription
      commentOnForget := commentOnForget }
  | _, _, _ =>
    .error ([violation? timeout, violation? maxRetries, violation? commentOnForget].filterMap id)

def withValue (s : Settings) : String × Json → Settings
  | ("APP_NAME", .str v) => { s with appName := v }
  | ("ENV", .str v) => { s with environment := v }
  | ("LOG_LEVEL", .str v) => { s with logLevel := v }
  | ("JIRA_BASE_URL", .str v) => { s with jiraUrl := v }
  | ("JIRA_EMAIL", .str v) => { s with jiraEmail := v }
  | ("JIRA_API_TOKEN", .str v) => { s with jiraToken := v }
  | ("JIRA_PROJECT_KEY", .str v) => { s with projectKey := v }
  | ("JIRA_ISSUE_TYPE", .str v) => { s with issueType := v }
  | ("JIRA_TIMEOUT_SECONDS", .float v) => { s with timeout := v }
  | ("JIRA_TIMEOUT_SECONDS", .int v) => { s with timeout := .ofInt v }
  | ("JIRA_MAX_RETRIES", .int v) => { s with maxRetries := v }
  | ("JIRA_EXTRA_STATUS_MAP", .str v) => { s with extraStatuses := v }
  | ("CI_ROOT_URL", .str v) => { s with rootUrl := v }
  | ("CI_API_TOKEN", .str v) => { s with ciToken := v }
  | ("TICKET_STORE_BACKEND", .str v) => { s with backend := v }
  | ("TICKET_STORE_DIR", .str v) => { s with storeDirectory := v }
  | ("DEFAULT_ASSIGNEE", .str v) => { s with assignee := v }
  | ("DEFAULT_COMPONENTS", .str v) => { s with components := v }
  | ("DEFAULT_TEST_DESCRIPTION", .str v) => { s with testDescription := v }
  | ("COMMENT_ON_FORGET", .bool v) => { s with commentOnForget := v }
  | _ => s

def withValues (s : Settings) (values : List (String × Json)) : Settings := values.foldl withValue s

end Settings

end TicketKeeper
