import TicketKeeper.Store.Table
import TicketKeeper.Proofs.Store.Keeping

/-! The table keeps the records of jobs. A transaction that fails changes no row, and one that
succeeds is not broken off. -/
namespace TicketKeeper.Store.Table

variable {α : Type} {t : Table} {job : String}

def stands (t : Table) (job : String) : Option Record :=
  (t.rows.bind (find? · job)).map fun r => ⟨r.key, r.build⟩

theorem stands_of_rows {rows : List Row} (h : t.rows = some rows) :
    stands t job = (find? rows job).map fun r => ⟨r.key, r.build⟩ := by
  rw [stands, h]
  rfl

theorem transact_ok {access : Access} {run : List Row → Except Fault (α × List Row)} {a : α}
    (h : (transact access job run t).1 = .ok a) : t.broken = false ∧ ∃ rows rows',
      t.rows = some rows ∧ run rows = .ok (a, rows') ∧
        (transact access job run t).2 = { t with rows := some rows' } := by
  unfold transact at h ⊢
  split at h
  · contradiction
  rename_i sound
  rw [if_neg sound]
  refine ⟨by simpa using sound, ?_⟩
  split at h
  · contradiction
  rename_i rows hrows
  split at h
  · rename_i a' rows' hrun
    obtain rfl := Except.ok.inj h
    exact ⟨rows, rows', hrows, hrun, rfl⟩
  · contradiction
  · contradiction

theorem transact_error {access : Access} {run : List Row → Except Fault (α × List Row)} {f : Fault}
    (h : (transact access job run t).1 = .error f) : (transact access job run t).2.rows = t.rows := by
  unfold transact at h ⊢
  split
  · rfl
  rename_i sound
  rw [if_neg sound] at h
  split
  · rfl
  · split
    · simp_all
    · simp_all
    · simp_all

theorem find?_clear_self (rows : List Row) : find? (rows.filter (·.job != job)) job = none := by
  rw [find?, List.find?_eq_none]
  intro r hr
  simpa using (List.mem_filter.mp hr).2

theorem find?_clear_of_ne {other : String} (h : other ≠ job) (rows : List Row) :
    find? (rows.filter (·.job != job)) other = find? rows other := by
  simp only [find?]
  induction rows with
  | nil => rfl
  | cons r rs ih =>
    by_cases hr : r.job = job
    · have skip : (r.job == other) = false := by simpa [hr] using h.symm
      rw [List.filter_cons_of_neg (by simpa using hr), ih, List.find?_cons, skip]
    · rw [List.filter_cons_of_pos (by simpa using hr), List.find?_cons, List.find?_cons, ih]

theorem load_ok {r : Option Record} (h : (load job t).1 = .ok r) :
    (load job t).2 = t ∧ stands t job = r := by
  obtain ⟨-, rows, rows', hrows, hrun, hstate⟩ := transact_ok h
  obtain ⟨rfl, rfl⟩ := Prod.mk.inj (Except.ok.inj hrun)
  refine ⟨?_, stands_of_rows hrows⟩
  rw [load, hstate, ← hrows]

theorem save_ok {key : Option String} {build : Option Int} (h : (save job key build t).1 = .ok ()) :
    ∃ k rows, key = some k ∧ t.rows = some rows ∧
      (save job key build t).2 = { t with rows := some (put ⟨job, k, build⟩ rows) } := by
  obtain ⟨-, rows, rows', hrows, hrun, hstate⟩ := transact_ok h
  split at hrun
  · split at hrun
    · rename_i k
      obtain ⟨-, rfl⟩ := Prod.mk.inj (Except.ok.inj hrun)
      exact ⟨k, rows, rfl, hrows, hstate⟩
    · contradiction
  · contradiction

theorem markBuild_ok {build : Option Int} (h : (markBuild job build t).1 = .ok ()) :
    ∃ rows, t.rows = some rows ∧ (markBuild job build t).2 = { t with
      rows := some ((find? rows job).elim rows fun r => put { r with build := build } rows) } := by
  obtain ⟨-, rows, rows', hrows, hrun, hstate⟩ := transact_ok h
  refine ⟨rows, hrows, ?_⟩
  rw [markBuild, hstate]
  split at hrun
  · rename_i hnone
    obtain ⟨-, rfl⟩ := Prod.mk.inj (Except.ok.inj hrun)
    rw [hnone]
    rfl
  · rename_i r hr
    split at hrun
    · obtain ⟨-, rfl⟩ := Prod.mk.inj (Except.ok.inj hrun)
      rw [hr]
      rfl
    · contradiction

theorem clear_ok (h : (clear job t).1 = .ok ()) : ∃ rows, t.rows = some rows ∧
    (clear job t).2 = { t with rows := some (rows.filter (·.job != job)) } := by
  obtain ⟨-, rows, rows', hrows, hrun, hstate⟩ := transact_ok h
  obtain ⟨-, rfl⟩ := Prod.mk.inj (Except.ok.inj hrun)
  exact ⟨rows, hrows, hstate⟩

theorem job_of_find? {rows : List Row} {r : Row} (h : find? rows job = some r) : r.job = job := by
  simpa using List.find?_some h

theorem write_error {w : Write} {f : Fault} (h : (table.write job w t).1 = .error f) :
    (table.write job w t).2.rows = t.rows := by
  cases w with
  | save key build => exact transact_error h
  | markBuild build => exact transact_error h
  | clear =>
    change (clear job t).1 = _ at h
    exact transact_error h

theorem find?_write {other : String} (hne : job ≠ other) (w : Write) :
    stands (table.write job w t).2 other = stands t other := by
  cases hw : (table.write job w t).1 with
  | error f => rw [stands, write_error hw, stands]
  | ok _ =>
    cases w with
    | save key build =>
      obtain ⟨k, rows, -, hrows, hstate⟩ := save_ok hw
      change stands (save job key build t).2 other = _
      rw [hstate, stands_of_rows rfl, stands_of_rows hrows, find?_put_of_ne hne.symm]
    | markBuild build =>
      obtain ⟨rows, hrows, hstate⟩ := markBuild_ok hw
      change stands (markBuild job build t).2 other = _
      rw [hstate, stands_of_rows rfl, stands_of_rows hrows]
      cases hr : find? rows job with
      | none => rfl
      | some r => rw [Option.elim, find?_put_of_ne (job_of_find? hr ▸ hne.symm)]
    | clear =>
      obtain ⟨rows, hrows, hstate⟩ := clear_ok hw
      change stands (clear job t).2 other = _
      rw [hstate, stands_of_rows rfl, stands_of_rows hrows, find?_clear_of_ne hne.symm]

theorem rows_load (job : String) (t : Table) : (load job t).2.rows = t.rows := by
  cases h : (load job t).1 with
  | ok r => rw [(load_ok h).1]
  | error f => exact transact_error h

theorem stands_congr {t t' : Table} (h : t'.rows = t.rows) : stands t' = stands t := by
  funext job
  rw [stands, h, stands]

def keeping : Keeping table where
  stands := stands
  awake _ _ := True
  apart job other := job ≠ other
  load_ok h := (load_ok h).1
  stands_load job t := stands_congr (rows_load job t)
  awake_load := id
  found h := ⟨(load_ok h).2, trivial⟩
  missing h _ := (load_ok h).2
  write_apart w h := find?_write h w
  write_error h := stands_congr (write_error h)
  awake_write _ := id
  save_ok {job key n t} h tidy := by
    obtain ⟨k, rows, hk, hrows, hstate⟩ := save_ok h
    obtain rfl := Option.some.inj hk
    refine ⟨trivial, key, ?_, tidy.ne_empty, fun _ => rfl⟩
    change stands (save job (some key) (some n) t).2 job = _
    rw [hstate, stands_of_rows rfl, find?_put_self ⟨job, key, some n⟩]
    rfl
  markBuild_ok {job n t r} h _ hr := by
    obtain ⟨rows, hrows, hstate⟩ := markBuild_ok h
    change stands (markBuild job (some n) t).2 job = _
    rw [stands_of_rows hrows, Option.map_eq_some_iff] at hr
    obtain ⟨row, hrow, rfl⟩ := hr
    have self := find?_put_self { row with build := some n } rows
    obtain rfl : row.job = job := job_of_find? hrow
    rw [hstate, stands_of_rows rfl, hrow, Option.elim, self]
    rfl
  clear_ok {job t} h _ := by
    obtain ⟨rows, -, hstate⟩ := clear_ok h
    change stands (clear job t).2 job = none
    rw [hstate, stands_of_rows rfl, find?_clear_self]
    rfl

theorem write_ok {w : Write} (h : (table.write job w t).1 = .ok ()) : t.broken = false ∧
    ∃ rows, (table.write job w t).2 = { t with rows := some rows } := by
  cases w with
  | save key build =>
    obtain ⟨sound, -, rows, -, -, hstate⟩ := transact_ok h
    exact ⟨sound, rows, hstate⟩
  | markBuild build =>
    obtain ⟨sound, -, rows, -, -, hstate⟩ := transact_ok h
    exact ⟨sound, rows, hstate⟩
  | clear =>
    change (clear job t).1 = _ at h
    obtain ⟨sound, -, rows, -, -, hstate⟩ := transact_ok h
    exact ⟨sound, rows, hstate⟩

theorem load_of_rows {rows : List Row} (sound : t.broken = false) (h : t.rows = some rows) :
    load job t = (.ok ((find? rows job).map fun r => ⟨r.key, r.build⟩), t) := by
  obtain ⟨_, broken⟩ := t
  obtain rfl : broken = false := sound
  obtain rfl := h
  rfl

theorem answering : Answering table fun t => t.broken = false where
  load_calm {job t} sound := by
    change (load job t).2 = t
    cases h : t.rows with
    | some rows => rw [load_of_rows sound h]
    | none => simp [load, transact, sound, h]
  write_calm {job w t} sound h := by
    obtain ⟨-, rows, hstate⟩ := write_ok h
    rw [hstate]
    exact sound
  write_ok {job w t} h := by
    obtain ⟨sound, rows, hstate⟩ := write_ok h
    rw [hstate]
    exact ⟨_, congrArg Prod.fst (load_of_rows (t := { t with rows := some rows }) sound rfl)⟩

end TicketKeeper.Store.Table
