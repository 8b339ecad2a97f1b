import TicketKeeper.Proofs.Reading
import TicketKeeper.Proofs.Store.Secluding

/-! Both stores are the same keyed map. Whatever calls are made on an empty directory and on an
empty table, they give what they would give on a map from the names of jobs to records. -/
namespace TicketKeeper.Store

open TicketKeeper.Text (IsLine)

/-- A key that stands on a line of its own, and a number that fits the column. -/
def Write.Proper (w : Write) : Prop :=
  w.Within (fun n => Table.fits n = true) ∧ match w with
    | .save key _ => ∃ k, key = some k ∧ Tidy k ∧ IsLine k.toList
    | _ => True

inductive Op
  | load (job : String)
  | write (job : String) (w : Write)

namespace Op

def job : Op → String
  | load job => job
  | write job _ => job

def Proper : Op → Prop
  | load _ => True
  | write _ w => w.Proper

end Op

inductive Answer
  | record (r : Option Record)
  | done
deriving DecidableEq

abbrev Records := String → Option Record

namespace Records

def call (m : Records) : Op → Answer × Records
  | .load job => (.record (m job), m)
  | .write job w => (.done, Function.update m job (w.applied (m job)))

def calls (m : Records) : List Op → List Answer × Records
  | [] => ([], m)
  | op :: ops => ((m.call op).1 :: (calls (m.call op).2 ops).1, (calls (m.call op).2 ops).2)

end Records

section Calls

variable {σ : Type} (s : Store σ)

def call : Op → Act σ Answer
  | .load job => fun st => ((s.load job st).1.map .record, (s.load job st).2)
  | .write job w => fun st => ((s.write job w st).1.map fun _ => .done, (s.write job w st).2)

def calls : List Op → σ → List (Except Fault Answer) × σ
  | [], st => ([], st)
  | op :: ops, st =>
    ((s.call op st).1 :: (calls ops (s.call op st).2).1, (calls ops (s.call op st).2).2)

end Calls

/-- A store shows a map for some names, and its writes change it as they change the map. -/
structure Implements {σ : Type} (s : Store σ) (names : String → Prop) (shows : Records → σ → Prop) :
    Prop where
  load {m st job} : shows m st → names job → s.load job st = (.ok (m job), st)
  write {m st job w} : shows m st → names job → w.Proper → (s.write job w st).1 = .ok () ∧
    shows (Function.update m job (w.applied (m job))) (s.write job w st).2

namespace Implements

variable {σ : Type} {s : Store σ} {names : String → Prop} {shows : Records → σ → Prop}
  {m : Records} {st : σ}

theorem call (h : Implements s names shows) (start : shows m st) {op : Op} (named : names op.job)
    (proper : op.Proper) :
    (s.call op st).1 = .ok (m.call op).1 ∧ shows (m.call op).2 (s.call op st).2 := by
  cases op with
  | load job =>
    have loaded : s.load job st = (.ok (m job), st) := h.load start named
    simp only [Store.call, Records.call, loaded]
    exact ⟨rfl, start⟩
  | write job w =>
    obtain ⟨written, after⟩ : (s.write job w st).1 = .ok () ∧
        shows (Function.update m job (w.applied (m job))) (s.write job w st).2 :=
      h.write start named proper
    simp only [Store.call, Records.call, written]
    exact ⟨rfl, after⟩

theorem calls (h : Implements s names shows) (start : shows m st) {ops : List Op}
    (named : ∀ op ∈ ops, names op.job) (proper : ∀ op ∈ ops, op.Proper) :
    (s.calls ops st).1 = (m.calls ops).1.map .ok ∧ shows (m.calls ops).2 (s.calls ops st).2 := by
  induction ops generalizing m st with
  | nil => exact ⟨rfl, start⟩
  | cons op ops ih =>
    obtain ⟨answer, after⟩ :=
      h.call start (named op List.mem_cons_self) (proper op List.mem_cons_self)
    obtain ⟨answers, final⟩ := ih after (fun op' hop => named op' (List.mem_cons_of_mem _ hop))
      fun op' hop => proper op' (List.mem_cons_of_mem _ hop)
    exact ⟨congrArg₂ List.cons answer answers, final⟩

end Implements

/-! ### The directory -/

namespace Directory

open FileTree

variable {root : List String} {job : String} {t : FileTree} {r : Option Record} {w : Write}

abbrev Roomy (root : List String) : Prop := pathSize root + 2 * (maxName + 1) ≤ maxPath

theorem Sited.write_ok (h : Sited root t) (roomy : Roomy root) (loaded : load root job t = .ok r)
    (content : Text.Bytes) : (write root job content t).1 = .ok () := by
  have fits : pathSize (folderPlace root job) + 20 ≤ maxPath := by
    have up := pathSize_destination_le [] root
    have name := Path.utf8ByteSize_component job
    rw [folderPlace, pathSize_append, pathSize, pathSize]
    simp only [Roomy, pathSize, maxName] at roomy up name
    omega
  rw [(h.reachable loaded).write_eq h, if_pos ⟨fits, rfl⟩]

theorem tidy_of_load {r : Record} (loaded : load root job t = .ok (some r)) :
    Tidy r.key ∧ IsLine r.key.toList := by
  have stands := (load_some loaded).1
  rw [Directory.stands] at stands
  split at stands
  · obtain ⟨text, -, decoded⟩ := Option.bind_eq_some_iff.mp stands
    exact IssueFile.tidy_of_decode decoded
  · cases stands

theorem writable_of_fits {n : Int} (fits : Table.fits n = true) : Number.isWritable n = true := by
  simp only [Table.fits, Bool.and_eq_true, decide_eq_true_eq] at fits
  refine Number.isWritable_of_lt (show 0 < 19 by decide) (by decide) ?_
  omega

theorem all_writable {build : Option Int} (fits : ∀ n, build = some n → Table.fits n = true) :
    build.all Number.isWritable = true := by
  cases build with
  | none => rfl
  | some n => exact writable_of_fits (fits n rfl)

theorem Sited.save_ok (h : Sited root t) (roomy : Roomy root) (loaded : load root job t = .ok r)
    {key : String} (tidy : Tidy key) (line : IsLine key.toList) {build : Option Int}
    (fits : ∀ n, build = some n → Table.fits n = true) :
    (save root job (some key) build t).1 = .ok () ∧
      load root job (save root job (some key) build t).2 = .ok (some ⟨key, build⟩) := by
  have writable := all_writable fits
  have written := h.write_ok roomy loaded (Text.encodeUtf8 (IssueFile.encode key build))
  have after := load_write written
  rw [IssueFile.decode_encode tidy line writable] at after
  rw [save, if_pos writable]
  exact ⟨written, after⟩

theorem Sited.load_write (h : Sited root t) (roomy : Roomy root) (loaded : load root job t = .ok r)
    (proper : w.Proper) : ((directory root).write job w t).1 = .ok () ∧
      load root job ((directory root).write job w t).2 = .ok (w.applied r) := by
  obtain ⟨within, keyed⟩ := proper
  cases w with
  | save key build =>
    obtain ⟨key, rfl, tidy, line⟩ := keyed
    exact h.save_ok roomy loaded tidy line within
  | markBuild build =>
    change (markBuild root job build t).1 = .ok () ∧ load root job (markBuild root job build t).2 = _
    rw [markBuild, loaded]
    cases r with
    | none => exact ⟨rfl, loaded⟩
    | some r =>
      obtain ⟨tidy, line⟩ := tidy_of_load loaded
      exact h.save_ok roomy loaded tidy line within
  | clear =>
    have cleared := (h.reachable loaded).clear_ok h
    exact ⟨cleared, load_clear cleared⟩

structure Shows (root : List String) (names : String → Prop) (m : Records) (t : FileTree) :
    Prop where
  sited : Sited root t
  shown {other : String} : names other → load root other t = .ok (m other)

theorem implements (roomy : Roomy root) {names : String → Prop}
    (apart : ∀ job other, names job → names other → job ≠ other →
      Path.mark job.toList ≠ Path.mark other.toList) :
    Implements (directory root) names (Shows root names) where
  load h named := Prod.ext (h.shown named) rfl
  write {m t job w} h named proper := by
    obtain ⟨written, after⟩ := h.sited.load_write roomy (h.shown named) proper
    have reworks := (h.sited.reworks job w none).1
    refine ⟨written, reworks.sited h.sited, fun {other} named' => ?_⟩
    by_cases same : other = job
    · rw [same, Function.update_self, after]
    · rw [Function.update_of_ne same,
        reworks.load_apart h.sited (apart job other named named' (Ne.symm same)), h.shown named']

end Directory

/-! ### The table -/

namespace Table

variable {t : Table} {job : String} {w : Write}

def Keyed (t : Table) : Prop := ∀ rows, t.rows = some rows → (rows.map (·.job)).Nodup

theorem jobs_put (row : Row) (rows : List Row) : (put row rows).map (·.job) =
    if row.job ∈ rows.map (·.job) then rows.map (·.job) else rows.map (·.job) ++ [row.job] := by
  fun_induction put row rows with
  | case1 => rfl
  | case2 r rs same => simp [same]
  | case3 r rs other ih =>
    rw [List.map_cons, ih, List.map_cons]
    by_cases later : row.job ∈ rs.map (·.job)
    · rw [if_pos later, if_pos (List.mem_cons_of_mem _ later)]
    · have absent : row.job ∉ r.job :: rs.map (·.job) := by
        simp only [List.mem_cons, not_or]
        exact ⟨Ne.symm other, later⟩
      rw [if_neg later, if_neg absent, List.cons_append]

theorem nodup_put {rows : List Row} (nodup : (rows.map (·.job)).Nodup) (row : Row) :
    ((put row rows).map (·.job)).Nodup := by
  rw [jobs_put]
  split
  · exact nodup
  · exact List.nodup_append.mpr ⟨nodup, List.nodup_singleton _, by simp_all [eq_comm]⟩

theorem Keyed.write (h : t.Keyed) (job : String) (w : Write) : (table.write job w t).2.Keyed := by
  intro rows' hrows'
  cases result : (table.write job w t).1 with
  | error f =>
    rw [write_error result] at hrows'
    exact h rows' hrows'
  | ok =>
    cases w with
    | save key build =>
      obtain ⟨k, rows, -, hrows, state⟩ := save_ok result
      rw [show (table.write job (.save key build) t).2 = _ from state] at hrows'
      cases hrows'
      exact nodup_put (h rows hrows) _
    | markBuild build =>
      obtain ⟨rows, hrows, state⟩ := markBuild_ok result
      rw [show (table.write job (.markBuild build) t).2 = _ from state] at hrows'
      cases hrows'
      cases find? rows job with
      | none => exact h rows hrows
      | some r => exact nodup_put (h rows hrows) _
    | clear =>
      obtain ⟨rows, hrows, state⟩ := clear_ok result
      rw [show (table.write job .clear t).2 = _ from state] at hrows'
      cases hrows'
      exact (h rows hrows).sublist (List.filter_sublist.map _)

structure Shows (m : Records) (t : Table) : Prop where
  calm : t.broken = false
  keyed : t.Keyed
  shown (other : String) : (load other t).1 = .ok (m other)

theorem implements : Implements table (fun _ => True) Shows where
  load h _ := Prod.ext (h.shown _) (answering.load_calm h.calm)
  write {m t job w} h _ proper := by
    obtain ⟨within, keyed⟩ := proper
    obtain ⟨answer, after⟩ := load_write h.calm within (h.shown job)
    have done : w.answer job = .ok () := by
      cases w with
      | save key build =>
        obtain ⟨key, rfl, -⟩ := keyed
        rfl
      | markBuild | clear => rfl
    refine ⟨answer.trans done, broken_write h.calm within, h.keyed.write job w, fun other => ?_⟩
    by_cases same : other = job
    · rw [same, Function.update_self, after]
    · rw [Function.update_of_ne same]
      exact (secluding.write_apart h.calm within (Ne.symm same)).trans (h.shown other)

end Table

/-- An empty directory store: no record can be loaded, and there is room for all of them. -/
structure Directory.Fresh (root : List String) (t : FileTree) : Prop where
  sited : Sited root t
  roomy : Roomy root
  empty (job) : load root job t = .ok none

theorem Directory.fresh_empty {root : List String} (named : isPath root = true)
    (plain : FileTree.Plain root) (roomy : Roomy root) : Fresh root .empty where
  sited := sited_empty plain
  roomy := roomy
  empty job := by
    have nothing (q : List String) : FileTree.empty.node? q = none ∨
        FileTree.empty.node? q = some .directory := by
      cases q
      · exact .inr rfl
      · exact .inl rfl
    have missing : FileTree.empty.node? (filePlace root job) = none := by
      rw [filePlace, folderPlace, List.append_assoc]
      cases FileTree.destination [] root <;> rfl
    have small := pathSize_place_le roomy (Path.utf8ByteSize_component job)
    rcases (sited_empty plain).read small with ⟨⟨q, name, rest, content, -, file⟩, -⟩ | ⟨-, read⟩
    · rcases nothing q with none | directory
      · rw [none] at file
        cases file
      · rw [directory] at file
        cases file
    · rw [contentAt, missing] at read
      rw [load, named, read]
      rfl

/-- Both stores are the same keyed map. Calls on an empty directory and on an empty table give what
they give on an empty map, and the table never has two rows for one job. -/
theorem calls_eq_map (root : List String) (t : FileTree) (fresh : Directory.Fresh root t)
    (ops : List Op) (proper : ∀ op ∈ ops, op.Proper)
    (apart : ∀ op ∈ ops, ∀ op' ∈ ops, op.job ≠ op'.job →
      Path.mark op.job.toList ≠ Path.mark op'.job.toList) :
    let answers := (Records.calls (fun _ => none) ops).1
    ((directory root).calls ops t).1 = answers.map .ok ∧
      (table.calls ops .empty).1 = answers.map .ok ∧ (table.calls ops .empty).2.Keyed := by
  intro answers
  let names (job : String) : Prop := ∃ op ∈ ops, op.job = job
  have files : Directory.Shows root names (fun _ => none) t :=
    ⟨fresh.sited, fun _ => fresh.empty _⟩
  have rows : Table.Shows (fun _ => none) .empty :=
    ⟨rfl, fun rows h => by cases h; simp, fun _ => rfl⟩
  have marks : ∀ job other, names job → names other → job ≠ other →
      Path.mark job.toList ≠ Path.mark other.toList := by
    rintro _ _ ⟨op, hop, rfl⟩ ⟨op', hop', rfl⟩ other
    exact apart op hop op' hop' other
  obtain ⟨filed, -⟩ :=
    (Directory.implements fresh.roomy marks).calls files (fun op hop => ⟨op, hop, rfl⟩) proper
  obtain ⟨rowed, after⟩ := Table.implements.calls rows (fun _ _ => trivial) proper
  exact ⟨filed, rowed, after.keyed⟩

/-- A record is saved, marked, replaced by one without a number, and dropped twice. -/
theorem calls_eq_map_two_jobs :
    let ops : List Op := [
      .write "J" (.markBuild (some 1)), .load "J",
      .write "J" (.save (some "T-1") (some 7)), .write "K" (.save (some "T-2") (some 3)),
      .write "J" (.markBuild (some 8)), .load "J",
      .write "J" (.save (some "T-3") none), .load "J",
      .write "J" .clear, .write "J" .clear, .load "J", .load "K"]
    let answers : List (Except Fault Answer) := [
      .ok .done, .ok (.record none), .ok .done, .ok .done, .ok .done,
      .ok (.record (some ⟨"T-1", some 8⟩)), .ok .done, .ok (.record (some ⟨"T-3", none⟩)),
      .ok .done, .ok .done, .ok (.record none), .ok (.record (some ⟨"T-2", some 3⟩))]
    ((directory ["tickets"]).calls ops .empty).1 = answers ∧
      (table.calls ops .empty).1 = answers := by
  intro ops answers
  have proper : ∀ op ∈ ops, op.Proper := by
    simp only [ops, List.forall_mem_cons, Op.Proper, Write.Proper, Write.Within]
    simp
    decide
  have marks : Path.mark "J".toList ≠ Path.mark "K".toList := by decide +kernel
  have named : ∀ op ∈ ops, op.job = "J" ∨ op.job = "K" := by simp [ops, Op.job]
  have apart : ∀ op ∈ ops, ∀ op' ∈ ops, op.job ≠ op'.job →
      Path.mark op.job.toList ≠ Path.mark op'.job.toList := by
    intro op hop op' hop' other
    rcases named op hop with job | job <;> rcases named op' hop' with job' | job' <;>
      rw [job, job'] at other ⊢
    · exact absurd rfl other
    · exact marks
    · exact marks.symm
    · exact absurd rfl other
  have fresh : Directory.Fresh ["tickets"] .empty :=
    Directory.fresh_empty rfl (by decide) (by decide)
  obtain ⟨files, rows, -⟩ := calls_eq_map ["tickets"] .empty fresh ops proper apart
  exact ⟨files, rows⟩

end TicketKeeper.Store
