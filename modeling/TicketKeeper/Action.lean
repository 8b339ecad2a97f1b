import TicketKeeper.Report
import TicketKeeper.Status
import TicketKeeper.Store.Record

/-! What to do about a finished build. The decision needs at most one outside fact, the live status
of the tracked ticket: it is an action at once, or a question with an action for each answer. -/
namespace TicketKeeper

structure Draft where
  projectKey : String
  summary : String
  description : String
  assignee : String := ""
  components : List String := []
deriving DecidableEq, Repr

inductive IdleReason
  | abortedBuild
  | firstBuild
  | alreadyApplied
  | untracked
deriving DecidableEq, Repr

def IdleReason.text : IdleReason → String
  | abortedBuild => "aborted build"
  | firstBuild => "first build of job"
  | alreadyApplied => "build already applied"
  | untracked => "no tracked ticket"

inductive Step
  | create (draft : Draft)
  | comment (key text : String)
  /-- The text is a last comment, if there is to be one. -/
  | forget (key : String) (text : Option String)
deriving DecidableEq, Repr

def Step.kind : Step → String
  | create _ => "create"
  | comment .. => "comment"
  | forget .. => "forget"

inductive Action
  | idle (reason : IdleReason)
  | create (draft : Draft)
  | comment (key text : String)
  | forget (key : String) (text : Option String)
  | replace (key : String) (text : Option String) (draft : Draft)
deriving DecidableEq, Repr

namespace Action

def kind : Action → String
  | idle _ => "noop"
  | create _ => "create"
  | comment .. => "comment"
  | forget .. => "forget"
  | replace .. => "replace"

/-- A ticket is forgotten before another one is created. -/
def steps : Action → List Step
  | idle _ => []
  | create draft => [.create draft]
  | comment key text => [.comment key text]
  | forget key text => [.forget key text]
  | replace key text draft => [.forget key text, .create draft]

def reason? : Action → Option IdleReason
  | idle reason => some reason
  | _ => none

/-- Whether there is something to post. All that is posted names the build. -/
def isWorded : Action → Bool
  | idle _ | forget _ none => false
  | _ => true

def draft? : Action → Option Draft
  | create draft => some draft
  | replace _ _ draft => some draft
  | _ => none

end Action

structure Situation where
  build : Build
  profile : Profile
  outcome : Outcome
  previous : Option Outcome := none
  trackedKey : Option String := none
  lastApplied : Option Int := none
  commentOnForget : Bool := false

inductive Decision
  | settled (action : Action)
  | asks (key : String) (answer : Status → Action)

namespace Situation

def tracked? (s : Situation) : Option String := s.trackedKey.filter (· != "")

def draft (s : Situation) : Draft where
  projectKey := s.profile.projectKey
  summary := s.build.summary
  description := s.build.description s.profile.testDescription
  assignee := s.profile.assignee
  components := s.profile.components

def lastWord (s : Situation) : Option String :=
  if s.commentOnForget then some s.build.forgotten else none

def onFailure (s : Situation) : Decision :=
  match s.tracked? with
  | none => .settled (.create s.draft)
  | some key => .asks key fun status =>
    if status.isActive then .comment key s.build.stillFailing
    else .replace key s.lastWord s.draft

def onSuccess (s : Situation) : Decision :=
  match s.tracked? with
  | none => .settled (.idle .untracked)
  | some key => .asks key fun status =>
    if status.isActive then .comment key s.build.nowPassing
    else .forget key s.lastWord

def alreadyApplied (s : Situation) : Bool :=
  s.tracked?.isSome && s.lastApplied == some s.build.number

def decide (s : Situation) : Decision :=
  if s.outcome = .aborted then .settled (.idle .abortedBuild)
  else if s.previous = none then .settled (.idle .firstBuild)
  else if s.alreadyApplied then .settled (.idle .alreadyApplied)
  else if s.outcome = .failure then s.onFailure
  else s.onSuccess

end Situation

end TicketKeeper
