import TicketKeeper.Store.Depot
import TicketKeeper.Proofs.Store.Directory
import TicketKeeper.Proofs.Store.Table

/-! Both stores keep the records of jobs, each in its own part of the depot. -/
namespace TicketKeeper

variable {ρ σ : Type} {s : Store ρ}

/-- A store that works on a part of its state as another one does. -/
structure Store.WorksOn (u : Store σ) (s : Store ρ) (part : σ → ρ) : Prop where
  load (job st) : (u.load job st).1 = (s.load job (part st)).1 ∧
    part (u.load job st).2 = (s.load job (part st)).2
  write (job w st) : (u.write job w st).1 = (s.write job w (part st)).1 ∧
    part (u.write job w st).2 = (s.write job w (part st)).2
  whole {job st} : part (u.load job st).2 = part st → (u.load job st).2 = st

def Keeping.onPart (k : Keeping s) {u : Store σ} {part : σ → ρ} (on : u.WorksOn s part) :
    Keeping u where
  stands st := k.stands (part st)
  awake st := k.awake (part st)
  apart := k.apart
  load_ok {job st r} h := by
    rw [(on.load job st).1] at h
    exact on.whole ((on.load job st).2.trans (k.load_ok h))
  stands_load job st := by rw [(on.load job st).2, k.stands_load]
  awake_load {job st other} h := by
    rw [(on.load job st).2]
    exact k.awake_load h
  found {job st r} h := by
    rw [(on.load job st).1] at h
    exact k.found h
  missing {job st} h awake := by
    rw [(on.load job st).1] at h
    exact k.missing h awake
  write_apart {job other st} w h := by rw [(on.write job w st).2, k.write_apart w h]
  write_error {job w st f} h := by
    rw [(on.write job w st).1] at h
    rw [(on.write job w st).2, k.write_error h]
  awake_write {job st other} w h := by
    rw [(on.write job w st).2]
    exact k.awake_write w h
  save_ok {job key n st} h tidy := by
    have same := on.write job (.save (some key) (some n)) st
    dsimp only [Store.write] at same
    rw [same.1] at h
    rw [same.2]
    exact k.save_ok h tidy
  markBuild_ok {job n st r} h awake hr := by
    have same := on.write job (.markBuild (some n)) st
    dsimp only [Store.write] at same
    rw [same.1] at h
    rw [same.2]
    exact k.markBuild_ok h awake hr
  clear_ok {job st} h awake := by
    have same := on.write job .clear st
    dsimp only [Store.write] at same
    rw [same.1] at h
    rw [same.2]
    exact k.clear_ok h awake

theorem Answering.onPart {calm : ρ → Prop} (a : Answering s calm) {u : Store σ} {part : σ → ρ}
    (on : u.WorksOn s part) : Answering u fun st => calm (part st) where
  load_calm {job st} h := on.whole ((on.load job st).2.trans (a.load_calm h))
  write_calm {job w st} sound h := by
    rw [(on.write job w st).1] at h
    rw [(on.write job w st).2]
    exact a.write_calm sound h
  write_ok {job w st} h := by
    rw [(on.write job w st).1] at h
    rw [(on.load job _).1, (on.write job w st).2]
    exact a.write_ok h

namespace Store.Backend

def Separates : Backend → String → String → Prop
  | .files _ => fun job other => Path.mark job.toList ≠ Path.mark other.toList
  | .table => fun job other => job ≠ other

instance : (b : Backend) → (job other : String) → Decidable (b.Separates job other)
  | .files _, job, other =>
    inferInstanceAs (Decidable (Path.mark job.toList ≠ Path.mark other.toList))
  | .table, job, other => inferInstanceAs (Decidable (job ≠ other))

def Calm : Backend → Depot → Prop
  | .files _ => fun _ => True
  | .table => fun d => d.table.broken = false

/-- There are no records: no row in the table, no issue file in the tree. -/
def IsEmpty : Backend → Depot → Prop
  | .files _ => fun d => ∀ path content,
      d.files.node? (path ++ [Directory.fileName]) ≠ some (.file content)
  | .table => fun d => d.table.rows.getD [] = []

theorem files_worksOn (root : List String) :
    (Backend.files root).store.WorksOn (directory root) Depot.files where
  load _ _ := ⟨rfl, rfl⟩
  write _ w _ := by cases w <;> exact ⟨rfl, rfl⟩
  whole _ := rfl

theorem table_worksOn : Backend.table.store.WorksOn Store.table Depot.table where
  load _ _ := ⟨rfl, rfl⟩
  write _ w _ := by cases w <;> exact ⟨rfl, rfl⟩
  whole {job st} h := by
    obtain ⟨files, table⟩ := st
    exact congrArg (Depot.mk files) h

def keeping : (b : Backend) → Keeping b.store
  | .files root => (Directory.keeping root).onPart (files_worksOn root)
  | .table => Table.keeping.onPart table_worksOn

theorem answering : (b : Backend) → Answering b.store b.Calm
  | .files root => (Directory.answering root).onPart (files_worksOn root)
  | .table => Table.answering.onPart table_worksOn

@[simp] theorem keeping_apart (b : Backend) : b.keeping.apart = b.Separates := by
  cases b <;> rfl

@[simp] theorem stands_newSession (b : Backend) (d : Depot) :
    b.keeping.stands d.newSession = b.keeping.stands d := by
  cases b <;> rfl

@[simp] theorem awake_newSession (b : Backend) (d : Depot) :
    b.keeping.awake d.newSession = b.keeping.awake d := by
  cases b <;> rfl

theorem stands_of_isEmpty {b : Backend} {d : Depot} (h : b.IsEmpty d) (job : String) :
    b.keeping.stands d job = none := by
  cases b with
  | files root =>
    change Directory.stands root d.files job = none
    unfold Directory.stands
    split
    · rename_i content hfile
      exact (h _ content hfile).elim
    · rfl
  | table =>
    change Table.stands d.table job = none
    cases hrows : d.table.rows with
    | none => rw [Table.stands, hrows]; rfl
    | some rows =>
      obtain rfl : rows = [] := by simpa [IsEmpty, hrows] using h
      rw [Table.stands_of_rows hrows]
      rfl

end Store.Backend

end TicketKeeper
