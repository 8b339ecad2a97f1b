import TicketKeeper.Failure
import TicketKeeper.Url.Basic

/-! Issue trackers. A call on a tracker gives its result, the tracker's next state, and what went
over the wire meanwhile. -/
namespace TicketKeeper

open TicketKeeper.Number (Binary64)

structure Issue where
  id : String
  key : String
deriving DecidableEq, Repr

structure IssueForm where
  projectKey : String
  summary : String
  description : String
  assignee : Option String := none
  components : Option (List String) := none
deriving DecidableEq, Repr

inductive Method
  | get
  | post
deriving DecidableEq, Repr

def Method.name : Method → String
  | get => "GET"
  | post => "POST"

structure Request where
  method : Method
  url : Url
  /-- The credentials, name and token with a colon between them. -/
  auth : String
  body : Option Json

structure Reply where
  status : Int := 200
  headers : List (String × String) := []
  body : List UInt8 := []

inductive Delivery
  | reply (r : Reply)
  | broken (fault : LinkFault)
  | raised (d : Defect)

inductive WireEvent
  | exchange (request : Request) (delivery : Delivery)
  | pause (seconds : Binary64)

structure Turn (τ α : Type) where
  result : Except Fault α
  next : τ
  wire : List WireEvent := []

structure Tracker (τ : Type) where
  create (form : IssueForm) : τ → Turn τ Issue
  status (key : String) : τ → Turn τ String
  comment (key text : String) : τ → Turn τ Unit

structure Board where
  nextNumber : Int := 101
  statuses : List (String × String) := []

namespace Board

def create (form : IssueForm) (b : Board) : Turn Board Issue :=
  let key := s!"{form.projectKey}-{b.nextNumber}"
  ⟨.ok ⟨toString b.nextNumber, key⟩, ⟨b.nextNumber + 1, Json.setMember key "Open" b.statuses⟩, []⟩

def status (key : String) (b : Board) : Turn Board String :=
  match b.statuses.lookup key with
  | some raw => ⟨.ok raw, b, []⟩
  | none =>
    let gone := Failure.lookupFailed key s!"Ticket {key} no longer exists" (some 404)
    ⟨.error (.failure gone), b, []⟩

def comment (_key _text : String) (b : Board) : Turn Board Unit := ⟨.ok (), b, []⟩

def setStatus (key raw : String) (b : Board) : Board :=
  { b with statuses := Json.setMember key raw b.statuses }

def tracker : Tracker Board := ⟨create, status, comment⟩

end Board

end TicketKeeper
