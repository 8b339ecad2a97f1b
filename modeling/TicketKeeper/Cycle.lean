import TicketKeeper.Action
import TicketKeeper.Plan

/-! One cycle for a finished build: the record is loaded, the action decided and its steps applied.
A call that faults ends the cycle; only the tracker's refusal of a last comment is noted and passed
over. -/
namespace TicketKeeper

structure Applied where
  created : Option String := none
  commented : Option String := none
  forgotten : Option String := none
  warnings : List String := []
deriving DecidableEq, Repr

/-- Empty fields of a draft are left out of the form. -/
def Draft.form (d : Draft) : IssueForm where
  projectKey := d.projectKey
  summary := d.summary
  description := d.description
  assignee := if d.assignee = "" then none else some d.assignee
  components := if d.components.isEmpty then none else some d.components

def Plan.lastComment (key : String) : Option String → Plan (List String)
  | none | some "" => return []
  | some text => .call (.comment key text) fun
    | .ok () => return []
    | .error fault => match fault.trackerFailure? with
      | some f => return ["final_comment_failed: " ++ f.message.text]
      | none => .fail fault

/-- The calls of one step for a build. The tracker comes before the record, but a record is dropped
whatever becomes of the last comment. -/
def Step.plan (job : String) (build : Int) (done : Applied) : Step → Plan Applied
  | .create draft => do
    let issue ← Plan.ask (.create draft.form)
    Plan.ask (.save job issue.key build)
    return { done with created := some issue.key }
  | .comment key text => do
    Plan.ask (.comment key text)
    Plan.ask (.markBuild job build)
    return { done with commented := some key }
  | .forget key text => do
    let warnings ← Plan.lastComment key text
    Plan.ask (.clear job)
    return { done with forgotten := some key, warnings := done.warnings ++ warnings }

def Step.planAll (job : String) (build : Int) (done : Applied) : List Step → Plan Applied
  | [] => return done
  | s :: rest => do
    let done ← s.plan job build done
    planAll job build done rest

def Action.plan (job : String) (build : Int) (action : Action) : Plan Applied :=
  Step.planAll job build {} action.steps

structure Job where
  report : Report
  rootUrl : String
  profile : Profile
  commentOnForget : Bool
  extra : Status.Extra

namespace Job

def build (j : Job) : Build := ⟨j.report.job, j.report.number, j.report.url, j.rootUrl⟩

def ofReport (settings : Settings) (report : Report) : Job where
  report := report
  rootUrl := report.rootUrl.getD settings.rootUrl
  profile := Profile.ofReport settings report
  commentOnForget := settings.commentOnForget
  extra := settings.extraStatusMap.map fun (name, value) => (name, .str value)

def situation (j : Job) (record : Option Record) : Situation where
  build := j.build
  profile := j.profile
  outcome := j.report.outcome
  previous := j.report.previous
  trackedKey := record.map (·.key)
  lastApplied := record.bind (·.build)
  commentOnForget := j.commentOnForget

end Job

structure CycleResult where
  job : String
  build : Int
  action : Action
  ticket : Option String
  previousTicket : Option String
  applied : Applied

namespace CycleResult

def toJson (r : CycleResult) : Json :=
  .obj [("status", .str "ok"), ("job_name", .str r.job), ("build_number", .int r.build),
    ("action", .str r.action.kind), ("reason", .ofOption (.str ·.text) r.action.reason?),
    ("ticket_key", .ofString? r.ticket), ("previous_ticket_key", .ofString? r.previousTicket),
    ("created_ticket_key", .ofString? r.applied.created),
    ("commented_ticket_key", .ofString? r.applied.commented),
    ("forgotten_ticket_key", .ofString? r.applied.forgotten),
    ("warnings", .arr (r.applied.warnings.map .str))]

end CycleResult

/-- A created ticket is tracked; a forgotten one leaves none. Empty keys count for nothing. -/
def Applied.trackedAfter (a : Applied) (before : Option String) : Option String :=
  match a.created.filter (· != ""), a.forgotten.filter (· != "") with
  | some key, _ => some key
  | none, some _ => none
  | none, none => before

def Decision.plan (extra : Status.Extra) : Decision → Plan Action
  | .settled action => return action
  | .asks key answer => do
    let raw ← Plan.ask (.status key)
    let status ← Plan.orFail ((Status.project (.str raw) extra).mapError .failure)
    return answer status

namespace Job

def check (j : Job) (action : Action) : Except Fault Unit := do
  if action.isWorded && !Number.isWritable j.report.number then
    throw (.defect .badValue)
  if action.draft?.any (·.projectKey = "") then
    throw (.failure (.badRequest "project_key_required" [("job_name", .str j.report.job)]))

def choose (j : Job) : Plan (Option Record × Action) := do
  let record ← Plan.ask (.load j.report.job)
  let action ← (j.situation record).decide.plan j.extra
  Plan.orFail (j.check action)
  return (record, action)

def result (j : Job) (record : Option Record) (action : Action) (applied : Applied) :
    CycleResult where
  job := j.report.job
  build := j.report.number
  action := action
  ticket := applied.trackedAfter (j.situation record).trackedKey
  previousTicket := (j.situation record).trackedKey
  applied := applied

def plan (j : Job) : Plan CycleResult := do
  let (record, action) ← j.choose
  let applied ← action.plan j.report.job j.report.number
  return j.result record action applied

end Job

namespace Parties

variable {τ σ : Type} (p : Parties τ σ)

def apply (job : String) (build : Int) (action : Action) : Cycle τ σ Applied :=
  p.carry (action.plan job build)

def reconcile (j : Job) : Cycle τ σ CycleResult := p.carry j.plan

end Parties

end TicketKeeper
