import TicketKeeper.Proofs.Store.Reachable

/-! Stores that seclude their jobs from each other. A write for one job has no part in the record of
another, and what comes of it depends on the record of its own job alone. -/
namespace TicketKeeper

open Store (Write)

variable {ρ σ : Type} {s : Store ρ}

namespace Store.Write

def Within (holds : Int → Prop) : Write → Prop
  | .save _ build | .markBuild build => ∀ n, build = some n → holds n
  | .clear => True

theorem Within.mono {holds allows : Int → Prop} {w : Write} (h : w.Within holds)
    (le : ∀ n, holds n → allows n) : w.Within allows := by
  cases w with
  | save | markBuild => exact fun n given => le n (h n given)
  | clear => trivial

def applied : Write → Option Record → Option Record
  | .save (some key) build, _ => some ⟨key, build⟩
  | .save none _, r => r
  | .markBuild build, r => r.map fun r => { r with build := build }
  | .clear, _ => none

def answer (job : String) : Write → Except Fault Unit
  | .save none _ => .error (failed .write job)
  | _ => .ok ()

end Store.Write

/-- A store that secludes its jobs as long as it is sited. -/
structure Secluding (s : Store ρ) (apart : String → String → Prop) (sited : ρ → Prop)
    (holds : Int → Prop) : Prop where
  load_sited {job st} : sited st → (s.load job st).2 = st
  write_sited {job w st} : sited st → w.Within holds → sited (s.write job w st).2
  write_apart {job other w st} : sited st → w.Within holds → apart job other →
    (s.load other (s.write job w st).2).1 = (s.load other st).1
  write_alike {job w st st' r} : sited st → sited st' → w.Within holds →
    (s.load job st).1 = .ok r → (s.load job st').1 = .ok r →
    (s.write job w st).1 = (s.write job w st').1 ∧
      ∃ r', (s.load job (s.write job w st).2).1 = .ok r' ∧
        (s.load job (s.write job w st').2).1 = .ok r'

theorem Secluding.onPart {apart : String → String → Prop} {sited : ρ → Prop} {holds : Int → Prop}
    (h : Secluding s apart sited holds) {u : Store σ} {part : σ → ρ} (on : u.WorksOn s part) :
    Secluding u apart (fun st => sited (part st)) holds where
  load_sited {job st} here := on.whole ((on.load job st).2.trans (h.load_sited here))
  write_sited {job w st} here within := by
    rw [(on.write job w st).2]
    exact h.write_sited here within
  write_apart {job other w st} here within apart := by
    rw [(on.load other _).1, (on.load other _).1, (on.write job w st).2]
    exact h.write_apart here within apart
  write_alike {job w st st' r} here here' within loaded loaded' := by
    rw [(on.load job _).1] at loaded loaded'
    rw [(on.write job w st).1, (on.write job w st').1, (on.load job _).1, (on.load job _).1,
      (on.write job w st).2, (on.write job w st').2]
    exact h.write_alike here here' within loaded loaded'

namespace Store

theorem Directory.secluding (root : List String) : Secluding (directory root)
    (fun job other => Path.mark job.toList ≠ Path.mark other.toList) (Directory.Sited root)
    (fun _ => True) where
  load_sited _ := rfl
  write_sited here _ := (here.reworks _ _ none).1.sited here
  write_apart here _ apart := (here.reworks _ _ none).1.load_apart here apart
  write_alike here here' _ loaded loaded' := here.write_alike here' loaded loaded' _

namespace Table

variable {t t' : Table} {rows : List Row} {job : String} {w : Write} {build : Option Int}

theorem load_eq (calm : t.broken = false) (job : String) : (load job t).1 =
    if t.rows.isSome then .ok (stands t job) else .error (failed .read job) := by
  cases hrows : t.rows with
  | none => simp [load, transact, calm, hrows]
  | some rows => rw [load_of_rows calm hrows, stands_of_rows hrows]; rfl

theorem transact_of_rows {α : Type} {access : Access} {run : List Row → Except Fault (α × List Row)}
    {a : α} {rows' : List Row} (calm : t.broken = false) (hrows : t.rows = some rows)
    (ran : run rows = .ok (a, rows')) :
    transact access job run t = (.ok a, { t with rows := some rows' }) := by
  simp [transact, calm, hrows, ran]

/-- What a write whose number fits comes to. The row of the job is written, and nothing is broken
off. -/
theorem write_eq (calm : t.broken = false) (hrows : t.rows = some rows) (job : String)
    (within : w.Within fun n => fits n = true) :
    ∃ rows', table.write job w t = (w.answer job, { t with rows := some rows' }) ∧
      stands { t with rows := some rows' } job = w.applied (stands t job) := by
  have fitting {build : Option Int} (within : ∀ n, build = some n → fits n = true) :
      build.all fits = true := by
    cases build with
    | none => rfl
    | some n => exact within n rfl
  cases w with
  | save key build =>
    have fitting := fitting within
    cases key with
    | none =>
      obtain ⟨_, broken⟩ := t
      obtain rfl : broken = false := calm
      obtain rfl := hrows
      refine ⟨rows, ?_, rfl⟩
      change save job none build ⟨some rows, false⟩ = _
      simp [save, transact, fitting, failed, Write.answer]
    | some key =>
      refine ⟨_, transact_of_rows calm hrows (by simp only [fitting, if_true]; rfl), ?_⟩
      rw [stands_of_rows rfl, find?_put_self ⟨job, key, build⟩]
      rfl
  | markBuild build =>
    have fitting := fitting within
    rw [stands_of_rows hrows]
    cases found : find? rows job with
    | none =>
      refine ⟨rows, transact_of_rows calm hrows (by rw [found]), ?_⟩
      rw [stands_of_rows rfl, found]
      rfl
    | some r =>
      refine ⟨_, transact_of_rows calm hrows (by simp only [found, fitting, if_true]; rfl), ?_⟩
      obtain rfl := job_of_find? found
      rw [stands_of_rows rfl, find?_put_self { r with build := build }]
      rfl
  | clear =>
    have cleared : clear job t = (.ok (), { t with rows := some (rows.filter (·.job != job)) }) :=
      transact_of_rows calm hrows rfl
    refine ⟨_, cleared, ?_⟩
    rw [stands_of_rows rfl, find?_clear_self]
    rfl

theorem write_absent (calm : t.broken = false) (hrows : t.rows = none) (job : String) (w : Write) :
    (table.write job w t).2 = t := by
  cases w <;> simp [Store.write, table, save, markBuild, clear, transact, calm, hrows]

theorem broken_write (calm : t.broken = false) (within : w.Within fun n => fits n = true) :
    (table.write job w t).2.broken = false := by
  cases hrows : t.rows with
  | none => rwa [write_absent calm hrows]
  | some rows =>
    obtain ⟨rows', written, -⟩ := write_eq calm hrows job within
    rwa [written]

theorem isSome_rows_write (calm : t.broken = false) (within : w.Within fun n => fits n = true) :
    (table.write job w t).2.rows.isSome = t.rows.isSome := by
  cases hrows : t.rows with
  | none => rw [write_absent calm hrows, hrows]
  | some rows =>
    obtain ⟨rows', written, -⟩ := write_eq calm hrows job within
    rw [written]
    rfl

theorem rows_of_load {r : Option Record} (calm : t.broken = false) (loaded : (load job t).1 = .ok r) :
    ∃ rows, t.rows = some rows ∧ stands t job = r := by
  rw [load_eq calm] at loaded
  cases hrows : t.rows with
  | none => simp [hrows] at loaded
  | some rows => exact ⟨rows, rfl, by simpa [hrows] using loaded⟩

theorem load_write {r : Option Record} (calm : t.broken = false)
    (within : w.Within fun n => fits n = true) (loaded : (load job t).1 = .ok r) :
    (table.write job w t).1 = w.answer job ∧
      (load job (table.write job w t).2).1 = .ok (w.applied r) := by
  obtain ⟨rows, hrows, rfl⟩ := rows_of_load calm loaded
  obtain ⟨rows', written, shown⟩ := write_eq calm hrows job within
  rw [written, ← shown, load_eq (t := { t with rows := some rows' }) calm]
  exact ⟨rfl, rfl⟩

theorem secluding : Secluding table (fun job other => job ≠ other) (fun t => t.broken = false)
    (fun n => fits n = true) where
  load_sited calm := answering.load_calm calm
  write_sited calm within := broken_write calm within
  write_apart {job other w t} calm within apart := by
    change (load other (table.write job w t).2).1 = (load other t).1
    rw [load_eq calm, load_eq (broken_write calm within), isSome_rows_write calm within,
      find?_write apart w]
  write_alike calm calm' within loaded loaded' := by
    obtain ⟨answer, after⟩ := load_write calm within loaded
    obtain ⟨answer', after'⟩ := load_write calm' within loaded'
    exact ⟨answer.trans answer'.symm, _, after, after'⟩

end Table

namespace Backend

/-- A directory that is sited, or a table on which no transaction is broken off. -/
def Sited : Backend → Depot → Prop
  | .files root => fun d => Directory.Sited root d.files
  | .table => fun d => d.table.broken = false

theorem secluding : (b : Backend) → Secluding b.store b.Separates b.Sited b.Holds
  | .files root => (Directory.secluding root).onPart (files_worksOn root)
  | .table => Table.secluding.onPart table_worksOn

end Backend

end Store

end TicketKeeper
