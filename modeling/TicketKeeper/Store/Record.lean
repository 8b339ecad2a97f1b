import TicketKeeper.Failure

/-! The record of a job: the ticket that is tracked for it, and the last build that was applied. A
store keeps at most one record for each job. -/
namespace TicketKeeper

structure Record where
  key : String
  build : Option Int := none
deriving DecidableEq, Repr

abbrev Act (σ α : Type) := σ → Except Fault α × σ

/-- A store over states of type `σ`. A record saved without a key is refused or kept as the store
sees fit; the cycle never saves one. -/
structure Store (σ : Type) where
  load (job : String) : Act σ (Option Record)
  save (job : String) (key : Option String) (build : Option Int) : Act σ Unit
  markBuild (job : String) (build : Option Int) : Act σ Unit
  clear (job : String) : Act σ Unit

namespace Store

inductive Access
  | read
  | write
  | delete
deriving DecidableEq, Repr

def Access.name : Access → String
  | read => "read"
  | write => "write"
  | delete => "delete"

def failed (access : Access) (job : String) : Fault :=
  .failure (.storeUnavailable s!"Ticket store {access.name} failed" job)

end Store

end TicketKeeper
