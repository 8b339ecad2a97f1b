import TicketKeeper.Store.Record

/-! The store that keeps one row for each job in a table. Every call is a transaction: one that
fails leaves the rows as they were. -/
namespace TicketKeeper.Store

structure Row where
  job : String
  key : String
  build : Option Int
deriving DecidableEq, Repr

structure Table where
  rows : Option (List Row)
  /-- Whether a number that did not fit broke the transaction off. The next call fails and ends
  it. -/
  broken : Bool := false

namespace Table

def empty : Table := ⟨some [], false⟩

def fits (n : Int) : Bool := -0x8000000000000000 ≤ n && n < 0x8000000000000000

def find? (rows : List Row) (job : String) : Option Row := rows.find? (·.job == job)

def put (row : Row) : List Row → List Row
  | [] => [row]
  | r :: rs => if r.job = row.job then row :: rs else r :: put row rs

theorem find?_put_self (row : Row) (rows : List Row) : find? (put row rows) row.job = some row := by
  fun_induction put row rows <;> grind [find?]

theorem find?_put_of_ne {row : Row} {job : String} (h : job ≠ row.job) (rows : List Row) :
    find? (put row rows) job = find? rows job := by
  fun_induction put row rows <;> grind [find?]

/-- Runs a transaction on the rows, unless the one before was broken off or there is no table. -/
def transact {α : Type} (access : Access) (job : String)
    (run : List Row → Except Fault (α × List Row)) : Act Table α := fun t =>
  if t.broken then (.error (failed access job), { t with broken := false })
  else match t.rows with
    | none => (.error (failed access job), t)
    | some rows => match run rows with
      | .ok (a, rows) => (.ok a, { t with rows := some rows })
      | .error (.defect d) => (.error (.defect d), { t with broken := true })
      | .error f => (.error f, t)

def load (job : String) : Act Table (Option Record) :=
  transact .read job fun rows => .ok ((find? rows job).map fun r => ⟨r.key, r.build⟩, rows)

def save (job : String) (key : Option String) (build : Option Int) : Act Table Unit :=
  transact .write job fun rows =>
    if build.all fits then
      match key with
      | some key => .ok ((), put ⟨job, key, build⟩ rows)
      | none => .error (failed .write job)
    else .error (.defect .outOfRange)

def markBuild (job : String) (build : Option Int) : Act Table Unit :=
  transact .write job fun rows =>
    match find? rows job with
    | none => .ok ((), rows)
    | some r =>
      if build.all fits then .ok ((), put { r with build := build } rows)
      else .error (.defect .outOfRange)

def clear (job : String) : Act Table Unit :=
  transact .delete job fun rows => .ok ((), rows.filter (·.job != job))

end Table

def table : Store Table := ⟨Table.load, Table.save, Table.markBuild, Table.clear⟩

end TicketKeeper.Store
