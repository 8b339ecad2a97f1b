import TicketKeeper.Failure
import TicketKeeper.Text.Split
import TicketKeeper.Text.Fold

/-! Statuses of tickets. A raw status is projected through a table of known spellings, to which the
operator may add; a spelling outside the table is a failure, so that a closed ticket is never taken
for an active one. -/
namespace TicketKeeper

inductive Status
  | opened
  | resolved
  | closed
deriving DecidableEq, Repr

namespace Status

def name : Status → String
  | opened => "open"
  | resolved => "resolved"
  | closed => "closed"

def named? (s : String) : Option Status := [opened, resolved, closed].find? (·.name == s)

theorem named?_name (s : Status) : named? s.name = some s := by cases s <;> decide

def isActive : Status → Bool
  | opened | resolved => true
  | closed => false

def normal (s : String) : String :=
  String.ofList (Text.fold (Text.unwords (Text.words s.toList)))

abbrev Table := List (String × Status)

/-- Numbers of the classic workflow, and names. All are in normal form. -/
def builtin : Table := [
  ("1", opened), ("3", opened), ("4", opened), ("5", resolved), ("6", closed),
  ("open", opened), ("to do", opened), ("new", opened), ("backlog", opened),
  ("in progress", opened), ("in-progress", opened), ("reopened", opened), ("in review", opened),
  ("resolved", resolved), ("closed", closed), ("done", closed)]

abbrev Extra := List (String × Json)

/-- The normal form of a value; a value that counts as absent has that of the empty text. -/
def spelling (v : Json) : String := normal (if v.isTruthy then v.text else "")

private def quotedName (s : String) : String := String.ofList (Text.quoted s.toList)

def invalidExtra (name : String) (value : Json) : Failure :=
  .invalidConfiguration
    s!"Invalid status projection for {quotedName name}: {String.ofList value.shown}"
    "JIRA_EXTRA_STATUS_MAP"

def extend (table : Table) : Extra → Except Failure Table
  | [] => .ok table
  | (name, value) :: r =>
    match named? (spelling value) with
    | some status => extend (Json.setMember (normal name) status table) r
    | none => .error (invalidExtra name value)

def table (extra : Extra) : Except Failure Table := extend builtin extra

/-- The status that a raw value means. Entries are checked before the value is looked up. -/
def project (raw : Json) (extra : Extra) : Except Failure Status := do
  match (← table extra).lookup (spelling raw) with
  | some status => .ok status
  | none => .error (.unknownStatus raw.text)

end Status

end TicketKeeper
