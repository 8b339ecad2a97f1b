import TicketKeeper.Store.Directory
import TicketKeeper.Store.Table
import TicketKeeper.Settings

/-! Both stores side by side, and the choice between them. -/
namespace TicketKeeper.Store

structure Depot where
  files : FileTree := .empty
  table : Table := .empty

inductive Backend
  | files (root : List String)
  | table
deriving DecidableEq, Repr

namespace Depot

/-- The database outlives a session, what a session has broken off does not. -/
def newSession (d : Depot) : Depot := { d with table := { d.table with broken := false } }

def onFiles {α : Type} (act : Act FileTree α) : Act Depot α := fun d =>
  let (result, files) := act d.files
  (result, { d with files := files })

def onTable {α : Type} (act : Act Table α) : Act Depot α := fun d =>
  let (result, table) := act d.table
  (result, { d with table := table })

end Depot

namespace Backend

def store : Backend → Store Depot
  | .files root => {
      load := fun job => Depot.onFiles ((directory root).load job)
      save := fun job key build => Depot.onFiles ((directory root).save job key build)
      markBuild := fun job build => Depot.onFiles ((directory root).markBuild job build)
      clear := fun job => Depot.onFiles ((directory root).clear job) }
  | .table => {
      load := fun job => Depot.onTable (Table.load job)
      save := fun job key build => Depot.onTable (Table.save job key build)
      markBuild := fun job build => Depot.onTable (Table.markBuild job build)
      clear := fun job => Depot.onTable (Table.clear job) }

private def refuse (message : String) : Except Failure Backend :=
  .error (.invalidConfiguration message "TICKET_STORE_BACKEND")

/-- The backend that a value names, in any case and with blanks around it; a value that counts as
absent names none. The table needs a session; files are kept at the root given here. -/
def choose (name : Json) (session : Bool) (root : List String) : Except Failure Backend :=
  let text := if name.isTruthy then name.text else ""
  let kind := String.ofList ((Text.trim text.toList).map Char.toLower)
  if kind = "file" then .ok (.files root)
  else if kind = "database" then
    if session then .ok .table else refuse "Database store requires a session"
  else refuse s!"Unknown ticket store backend: {String.ofList name.shown}"

end Backend

/-- The names of a relative path, without the empty ones and those that point nowhere. -/
def pathNames (s : String) : List String :=
  ((Text.splitAt '/' s.toList).map String.ofList).filter fun n => n != "" && n != "."

end TicketKeeper.Store
