import TicketKeeper.CommandLine.Options
import TicketKeeper.Cycle
import TicketKeeper.Json.Writer
import TicketKeeper.Store.Depot

/-! The command line: one cycle for a build that the arguments and the environment describe. The
exit code is 0 for a result, 1 for a failure that is told on the output, and 2 for arguments or a
report that are not taken. -/
namespace TicketKeeper.CommandLine

open TicketKeeper.Store (Backend Depot)

structure Console (τ : Type) where
  settings : Settings
  env : List (String × String)
  connect : Except Failure (Tracker τ)

structure Arguments where
  job : Json
  buildNumber : Json
  buildUrl : Json
  rootUrl : Json
  result : Json
  previousResult : Json
  projectKey : Json
  testDescription : Json
  assignee : Json
  components : Json
  store : Json
  storeDir : Json

def environmentNumber (env : List (String × String)) : Except Fault Int :=
  match (env.lookup "BUILD_NUMBER").filter (· != "") with
  | none => .ok 0
  | some s => (Number.numeral? s.toList).elim (.error (.defect .badValue)) .ok

def Arguments.ofValues (settings : Settings) (env : List (String × String)) (number : Int)
    (values : Values) : Arguments :=
  let given (v : Option String) : Json := (v.map .str).getD (.arr [])
  let value (o : OptionName) (default : String) : Json :=
    ((values.lookup o).map given).getD (.str default)
  let numberOf (v : Option String) : Json :=
    match v with
    | some s => .ofInt? (Number.numeral? s.toList)
    | none => given none
  let fromEnv (name : String) : String := (env.lookup name).getD ""
  { job := value .job (fromEnv "JOB_NAME")
    buildNumber := ((values.lookup .buildNumber).map numberOf).getD (.int number)
    buildUrl := value .buildUrl (fromEnv "BUILD_URL")
    rootUrl := value .rootUrl (fromEnv "JENKINS_URL")
    result := value .result ""
    previousResult := value .previousResult ""
    projectKey := value .projectKey ""
    testDescription := value .testDescription ""
    assignee := value .assignee ""
    components := value .components ""
    store := value .store settings.backend
    storeDir := value .storeDir "" }

def Arguments.reportJson (a : Arguments) : Json :=
  let optional (v : Json) : Json := if v.isTruthy then v else .null
  .obj [("job_name", a.job), ("build_number", a.buildNumber),
    ("build_url", a.buildUrl), ("root_url", optional a.rootUrl), ("result", a.result),
    ("previous_result", optional a.previousResult), ("project_key", optional a.projectKey),
    ("test_description", optional a.testDescription), ("assignee", optional a.assignee),
    ("components", optional a.components)]

structure Exit where
  code : Nat
  output : String := ""
deriving DecidableEq, Repr

def Exit.ofResult (r : CycleResult) : Exit := ⟨0, r.toJson.write Json.compact ++ "\n"⟩

def Exit.ofFailure (f : Failure) : Exit := ⟨1, f.toJson.write Json.spaced ++ "\n"⟩

def Exit.ofRefusal : Refusal → Exit
  | .help => ⟨0, ""⟩
  | .usage => ⟨2, ""⟩

variable {τ : Type}

private def orFail {α : Type} (r : Except Failure α) : Cycle τ Depot α :=
  match r with
  | .ok a => return a
  | .error f => throw (.failure f)

@[simp] theorem orFail_ok {α : Type} (a : α) : (orFail (.ok a) : Cycle τ Depot α) = pure a := rfl

@[simp] theorem orFail_error {α : Type} (f : Failure) :
    (orFail (.error f) : Cycle τ Depot α) = throw (.failure f) := rfl

namespace Console

def directory (c : Console τ) (a : Arguments) : String :=
  if a.storeDir.isTruthy then a.storeDir.text else c.settings.storeDirectory

/-- The backend that the arguments choose. Only one spelling of the table opens a session. -/
def backend (c : Console τ) (a : Arguments) : Except Failure Backend :=
  Backend.choose a.store (a.store.text == "database") (Store.pathNames (c.directory a))

def cycle (c : Console τ) (a : Arguments) (report : Report) : Cycle τ Depot CycleResult := do
  let backend ← orFail (c.backend a)
  let tracker ← orFail c.connect
  Parties.reconcile ⟨tracker, backend.store⟩ (Job.ofReport c.settings report)

def runReport (c : Console τ) (a : Arguments) (report : Report) (scene : Scene τ Depot) :
    Except Fault Exit × Scene τ Depot :=
  match (c.cycle a report).run { scene with store := scene.store.newSession } with
  | (.ok result, scene) => (.ok (.ofResult result), scene)
  | (.error (.failure f), scene) => (.ok (.ofFailure f), scene)
  | (.error f, scene) => (.error f, scene)

def runArguments (c : Console τ) (a : Arguments) (scene : Scene τ Depot) :
    Except Fault Exit × Scene τ Depot :=
  match Report.ofJson a.reportJson with
  | .ok report => c.runReport a report scene
  | .error (.invalid _) => (.ok ⟨2, ""⟩, scene)
  | .error f => (.error f, scene)

/-- Reads the arguments. The environment's build number is read even when another one is given. -/
def arguments (c : Console τ) (args : List String) : Except Fault (Except Refusal Arguments) := do
  let number ← environmentNumber c.env
  return (parse args c.settings.host.dropsDashes).map (.ofValues c.settings c.env number)

def run (c : Console τ) (args : List String) (scene : Scene τ Depot) :
    Except Fault Exit × Scene τ Depot :=
  match c.arguments args with
  | .error f => (.error f, scene)
  | .ok (.error refusal) => (.ok (.ofRefusal refusal), scene)
  | .ok (.ok a) => c.runArguments a scene

/-- The one issue file that a run with these arguments reads and writes, if it uses files: the
directory of the store, and the place of the file from the root of the tree. -/
def issueFile? (c : Console τ) (args : List String) : Option (String × List String) :=
  match c.arguments args with
  | .ok (.ok a) => match c.backend a, Report.ofJson a.reportJson with
    | .ok (.files root), .ok report => some (c.directory a, Store.Directory.place root report.job)
    | _, _ => none
  | _ => none

end Console

end TicketKeeper.CommandLine
