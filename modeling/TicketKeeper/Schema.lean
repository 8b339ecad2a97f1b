import TicketKeeper.Failure

/-! The tables of a database and their first migration. -/
namespace TicketKeeper.Schema

structure Column where
  name : String
  type : String
  nullable : Bool := false
deriving DecidableEq, Repr

structure Index where
  name : String
  columns : List String
  unique : Bool
deriving DecidableEq, Repr

structure TableSchema where
  columns : List Column
  primaryKey : List String
  indexes : List Index
deriving DecidableEq, Repr

abbrev Tables := List (String × TableSchema)

def recordTableName : String := "job_ticket_records"

def recordTable : TableSchema where
  columns := [
    ⟨"id", "INTEGER", false⟩, ⟨"job_name", "VARCHAR(255)", false⟩,
    ⟨"ticket_key", "VARCHAR(64)", false⟩, ⟨"last_build_number", "INTEGER", true⟩,
    ⟨"created_at", "DATETIME", false⟩, ⟨"updated_at", "DATETIME", false⟩]
  primaryKey := ["id"]
  indexes := [⟨"ix_job_ticket_records_job_name", ["job_name"], true⟩]

def hasRecords (t : Tables) : Bool := t.any (·.1 == recordTableName)

inductive Change
  | upgrade
  | downgrade
  | createMissing
deriving DecidableEq, Repr

/-- A change that the tables do not allow leaves them as they are. -/
def change (c : Change) (t : Tables) : Except Defect Unit × Tables :=
  match c, hasRecords t with
  | .upgrade, false => (.ok (), t ++ [(recordTableName, recordTable)])
  | .upgrade, true => (.error .schema, t)
  | .downgrade, true => (.ok (), t.filter (·.1 != recordTableName))
  | .downgrade, false => (.error .schema, t)
  | .createMissing, false => (.ok (), t ++ [(recordTableName, recordTable)])
  | .createMissing, true => (.ok (), t)

end TicketKeeper.Schema
