import TicketKeeper.CommandLine.Run
import TicketKeeper.Jira.Client
import TicketKeeper.Jira.Recording
import TicketKeeper.Json.Reader

/-! The program: it runs one cycle for the build that its arguments and the environment describe.
The issue file of the job is kept on the disk, a table starts empty; the tracker's service is
played back from the deliveries on standard input, one JSON object a line. -/
namespace TicketKeeper.Program

open TicketKeeper.Store (Depot FileTree)

def environmentNames : List String := [
  "APP_NAME", "ENV", "LOG_LEVEL", "JIRA_BASE_URL", "JIRA_EMAIL", "JIRA_API_TOKEN",
  "JIRA_PROJECT_KEY", "JIRA_ISSUE_TYPE", "JIRA_TIMEOUT_SECONDS", "JIRA_MAX_RETRIES",
  "JIRA_EXTRA_STATUS_MAP", "CI_ROOT_URL", "CI_API_TOKEN", "TICKET_STORE_BACKEND",
  "TICKET_STORE_DIR", "DEFAULT_ASSIGNEE", "DEFAULT_COMPONENTS", "DEFAULT_TEST_DESCRIPTION",
  "COMMENT_ON_FORGET", "JOB_NAME", "BUILD_NUMBER", "BUILD_URL", "JENKINS_URL"]

def environment : IO (List (String × String)) := do
  let values ← environmentNames.mapM fun name => return (name, ← IO.getEnv name)
  return values.filterMap fun (name, value) => value.map (name, ·)

partial def readLines (input : IO.FS.Stream) : IO (List String) := do
  let line ← input.getLine
  if line.isEmpty then return []
  return line :: (← readLines input)

def delivery? (line : String) : Option Delivery :=
  (Json.ofBytes (Text.encodeUtf8 line.toList)).toOption.map Delivery.ofJson

def diskPath (directory : String) (place : List String) : String :=
  (if directory.startsWith "/" then "/" else "") ++ "/".intercalate place

/-- The tree as far as a run can see it: the issue file, or nothing where none can be read. -/
def readTree (directory : String) (path : List String) : IO FileTree := do
  try
    let content ← IO.FS.readBinFile (diskPath directory path)
    let folders := (FileTree.empty.makeDirectories path.dropLast).2
    match folders.locate path with
    | .ok place => return folders.put place (.file content.toList)
    | .error _ => return .empty
  catch _ => return .empty

def writeTree (directory : String) (path : List String) (before after : FileTree) : IO Unit := do
  match (before.read path).toOption, (after.read path).toOption with
  | _, some content =>
    IO.FS.createDirAll (diskPath directory path.dropLast)
    IO.FS.writeBinFile (diskPath directory path) ⟨content.toArray⟩
  | some _, none => IO.FS.removeFile (diskPath directory path)
  | none, none => return ()

def runConsole (console : CommandLine.Console Jira.Link) (args : List String) (link : Jira.Link) :
    IO UInt32 := do
  let file := console.issueFile? args
  let before ← match file with
    | some (directory, place) => readTree directory place
    | none => pure .empty
  let (result, scene) := console.run args ⟨link, ⟨before, .empty⟩, []⟩
  if let some (directory, place) := file then
    writeTree directory place before scene.store.files
  match result with
  | .ok exit =>
    IO.print exit.output
    return UInt32.ofNat exit.code
  | .error _ =>
    IO.eprintln "The run was broken off by a fault that is not the tracker's or the store's."
    return 1

end TicketKeeper.Program

open TicketKeeper in
def main (args : List String) : IO UInt32 := do
  let env ← Program.environment
  match Settings.ofEnvironment env with
  | .error _ =>
    IO.eprintln "The environment has a setting that cannot be read."
    return 1
  | .ok settings =>
    let lines ← Program.readLines (← IO.getStdin)
    let client := Jira.Client.ofSettings settings {}
    Program.runConsole ⟨settings, env, client.map Jira.Client.tracker⟩ args
      ⟨lines.filterMap Program.delivery?⟩
