import TicketKeeper.Proofs.Store.KeyedMap

/-! Records that are read again. Whatever text stands in the issue file of a job, a load tells what
it says; only bytes that are no text bring a failure of another kind than that of the store. What a
load tells can be written and is read back, although the file may be spelled in another way by
then; and it can be dropped, from either store. -/
namespace TicketKeeper

open TicketKeeper.Text

namespace Store

namespace IssueFile

theorem decode_encode_iff {key : String} {build : Option Int}
    (writable : build.all Number.isWritable = true) :
    decode (encode key build) = some ⟨key, build⟩ ↔ Tidy key ∧ IsLine key.toList := by
  constructor
  · exact fun decoded => tidy_of_decode decoded
  · rintro ⟨tidy, line⟩
    exact decode_encode tidy line writable

theorem isWritable_of_build? {line : List Char} {n : Int} (h : build? line = some n) :
    Number.isWritable n = true := by
  simp only [build?] at h
  split at h
  · exact Number.isWritable_of_numeral? h
  · cases h

theorem writable_of_decode {text : List Char} {r : Record} (h : decode text = some r) :
    r.build.all Number.isWritable = true := by
  unfold decode at h
  split at h
  · cases h
  · dsimp only at h
    split at h
    · cases h
    · cases h
      rw [Option.all_eq_true]
      intro n last
      obtain ⟨line, -, found⟩ := List.mem_filterMap.mp (List.mem_of_getLast? last)
      exact isWritable_of_build? found

end IssueFile

namespace Directory

open FileTree

variable {root : List String} {job : String} {t : FileTree} {text : List Char} {r : Record}

/-! ### Whatever the bytes -/

def Legible (root : List String) (t : FileTree) (job : String) : Prop :=
  ∀ content, t.read (place root job) = .ok content → ∃ text, content = encodeUtf8 text

/-- A call that fails tells a failure of the store for the job. -/
def Tells {α : Type} (job : String) (r : Except Fault α) : Prop :=
  ∀ f, r = .error f → ∃ access, f = failed access job

theorem tells_ok {α : Type} (a : α) : Tells job (.ok a) := nofun

theorem tells_error {α : Type} {f : Fault} :
    Tells job (.error f : Except Fault α) ↔ ∃ access, f = failed access job := by
  constructor
  · exact fun tells => tells f rfl
  · rintro told _ ⟨⟩
    exact told

theorem tells_failed {α : Type} (access : Access) :
    Tells job (.error (failed access job) : Except Fault α) :=
  tells_error.mpr ⟨access, rfl⟩

theorem not_tells_defect {α : Type} (d : Defect) :
    ¬Tells job (.error (.defect d) : Except Fault α) := by
  rw [tells_error]
  rintro ⟨access, same⟩
  exact nomatch same

theorem load_of_text (named : isPath root = true)
    (read : t.read (place root job) = .ok (encodeUtf8 text)) :
    load root job t = .ok (IssueFile.decode text) := by
  simp [load, named, read, decodeUtf8?_encodeUtf8]

theorem exists_text_of_load (loaded : load root job t = .ok (some r)) :
    ∃ text, t.read (place root job) = .ok (encodeUtf8 text) ∧ IssueFile.decode text = some r := by
  unfold load at loaded
  split at loaded
  · cases loaded
  split at loaded
  · cases loaded
  · cases loaded
  · rename_i content read
    split at loaded
    · cases loaded
    · rename_i text decoded
      rw [decodeUtf8?_eq_some_iff.mp decoded] at read
      exact ⟨text, read, Except.ok.inj loaded⟩

theorem load_tells_iff : Tells job (load root job t) ↔ isPath root = true ∧ Legible root t job := by
  constructor
  · intro tells
    unfold load at tells
    split at tells
    · exact absurd tells (not_tells_defect _)
    rename_i named
    refine ⟨by simpa using named, fun content read => ?_⟩
    rw [read] at tells
    dsimp only at tells
    split at tells
    · exact absurd tells (not_tells_defect _)
    · exact ⟨_, decodeUtf8?_eq_some_iff.mp ‹_›⟩
  · rintro ⟨named, legible⟩
    cases read : t.read (place root job) with
    | ok content =>
      obtain ⟨text, rfl⟩ := legible content read
      rw [load_of_text named read]
      exact tells_ok _
    | error e =>
      unfold load
      rw [named, read]
      -- a missing file is no failure; a directory in its place, or a file in that of the root, is
      cases e with
      | notFound => exact tells_ok _
      | _ => exact tells_failed _

theorem write_tells (named : isPath root = true) (content : Bytes) (room : Option Nat) :
    Tells job (write root job content t room).1 := by
  unfold write
  rw [if_neg (by simp [named])]
  split
  · exact tells_failed _
  split
  · exact tells_failed _
  split
  · exact tells_failed _
  split
  · exact tells_ok _
  · exact tells_failed _

theorem save_tells_iff (named : isPath root = true) (key : Option String) (build : Option Int)
    (room : Option Nat) :
    Tells job (save root job key build t room).1 ↔ build.all Number.isWritable = true := by
  unfold save
  split
  · exact iff_of_true (write_tells named _ room) ‹_›
  · exact iff_of_false (not_tells_defect _) ‹_›

theorem markBuild_of_load (loaded : load root job t = .ok (some r)) (build : Option Int)
    (room : Option Nat) :
    markBuild root job build t room = save root job (some r.key) build t room := by
  rw [markBuild, loaded]

theorem markBuild_of_missing (loaded : load root job t = .ok none) (build : Option Int)
    (room : Option Nat) : markBuild root job build t room = (.ok (), t) := by
  rw [markBuild, loaded]

theorem markBuild_tells_iff (build : Option Int) (room : Option Nat) :
    Tells job (markBuild root job build t room).1 ↔ isPath root = true ∧ Legible root t job ∧
      ∀ r, load root job t = .ok (some r) → build.all Number.isWritable = true := by
  rw [← and_assoc, ← load_tells_iff]
  cases loaded : load root job t with
  | error f =>
    have same : markBuild root job build t room = (.error f, t) := by rw [markBuild, loaded]
    rw [same, tells_error, tells_error]
    refine ⟨fun told => ⟨told, ?_⟩, And.left⟩
    rintro r ⟨⟩
  | ok found =>
    cases found with
    | none =>
      rw [markBuild_of_missing loaded]
      refine iff_of_true (tells_ok _) ⟨tells_ok _, ?_⟩
      rintro r ⟨⟩
    | some r =>
      have named := (load_tells_iff.mp (loaded ▸ tells_ok _)).1
      rw [markBuild_of_load loaded, save_tells_iff named]
      exact ⟨fun writable => ⟨tells_ok _, fun _ _ => writable⟩, fun h => h.2 r rfl⟩

/-- A load and a mark fail with a failure of the store, if they fail, exactly when the bytes in the
issue file are a text, the root is a path and a number to be written has a numeral. No text makes a
load fail, whatever its lines are. -/
theorem reading_tells_iff_legible (root : List String) (job : String) (t : FileTree) :
    (Tells job (load root job t) ↔ isPath root = true ∧ Legible root t job) ∧
    (∀ build room, Tells job (markBuild root job build t room).1 ↔
      isPath root = true ∧ Legible root t job ∧
        ∀ r, load root job t = .ok (some r) → build.all Number.isWritable = true) ∧
    ∀ text, isPath root = true → t.read (place root job) = .ok (encodeUtf8 text) →
      load root job t = .ok (IssueFile.decode text) :=
  ⟨load_tells_iff, markBuild_tells_iff, fun _ => load_of_text⟩

theorem read_write (fresh : Fresh root t) (content : Bytes) :
    (write root job content t).2.read (place root job) = .ok content := by
  have written := fresh.sited.write_ok fresh.roomy (fresh.empty job) content
  obtain ⟨-, -, -, shown⟩ := write_spec root job content t none
  exact (shown written).2

/-- A text in a store that was empty is legible, though none of its lines is a number. -/
theorem reading_tells_malformed :
    let t := (write [] "J" (encodeUtf8 "T-1\nbuild=\nbuild=x\n".toList) .empty).2
    load [] "J" t = .ok (some ⟨"T-1", none⟩) ∧ Tells "J" (markBuild [] "J" (some 8) t).1 := by
  intro t
  have read : t.read (place [] "J") = .ok (encodeUtf8 "T-1\nbuild=\nbuild=x\n".toList) :=
    read_write (fresh_empty rfl (by decide) (by decide)) _
  obtain ⟨-, marked, loaded⟩ := reading_tells_iff_legible [] "J" t
  have legible : Legible [] t "J" := by
    intro content same
    exact ⟨_, Except.ok.inj (same.symm.trans read)⟩
  exact ⟨loaded _ rfl read, (marked (some 8) none).mpr ⟨rfl, legible, fun _ _ => by decide⟩⟩

/-- One byte that begins no character is in the file: neither a load nor a mark tells a failure. -/
theorem reading_illegible :
    let t := (write [] "J" [0xFF] .empty).2
    ¬Tells "J" (load [] "J" t) ∧ ¬Tells "J" (markBuild [] "J" (some 8) t).1 := by
  intro t
  have read : t.read (place [] "J") = .ok [0xFF] :=
    read_write (fresh_empty rfl (by decide) (by decide)) _
  have illegible : ¬Legible [] t "J" := by
    intro legible
    obtain ⟨text, bytes⟩ := legible _ read
    cases decodeUtf8?_eq_some_iff.mpr bytes
  rw [load_tells_iff, markBuild_tells_iff]
  exact ⟨fun h => illegible h.2, fun h => illegible h.2.1⟩

/-! ### Read again -/

section

variable {key : String} {build : Option Int}

theorem load_save_iff (saved : (save root job (some key) build t).1 = .ok ()) :
    load root job (save root job (some key) build t).2 = .ok (some ⟨key, build⟩) ↔
      Tidy key ∧ IsLine key.toList := by
  obtain ⟨writable, same⟩ := save_eq saved
  rw [same] at saved ⊢
  rw [load_write saved, Except.ok.injEq]
  exact IssueFile.decode_encode_iff writable

theorem load_resaved (loaded : load root job t = .ok (some r))
    (saved : (save root job (some r.key) build t).1 = .ok ()) :
    load root job (save root job (some r.key) build t).2 = .ok (some { r with build := build }) :=
  (load_save_iff saved).mpr (tidy_of_load loaded)

theorem writable_of_load (loaded : load root job t = .ok (some r)) :
    r.build.all Number.isWritable = true := by
  obtain ⟨text, -, decoded⟩ := exists_text_of_load loaded
  exact IssueFile.writable_of_decode decoded

theorem Sited.save_eq_ok (sited : Sited root t) (roomy : Roomy root)
    (loaded : load root job t = .ok (some r)) (writable : build.all Number.isWritable = true) :
    (save root job (some key) build t).1 = .ok () := by
  rw [save, if_pos writable]
  exact sited.write_ok roomy loaded _

/-- What is saved is loaded exactly when the key is a trimmed line that is not empty. A record that
was loaded from any bytes can be saved and marked, and is loaded again with its number or with the
new one; when nothing can be loaded, a mark changes nothing. -/
theorem issueFile_read_again (root : List String) (job : String) (t : FileTree) :
    (∀ key build, (save root job (some key) build t).1 = .ok () →
      (load root job (save root job (some key) build t).2 = .ok (some ⟨key, build⟩) ↔
        Tidy key ∧ IsLine key.toList)) ∧
    (∀ r, load root job t = .ok (some r) →
      (Sited root t → Roomy root → (save root job (some r.key) r.build t).1 = .ok ()) ∧
      ((save root job (some r.key) r.build t).1 = .ok () →
        load root job (save root job (some r.key) r.build t).2 = .ok (some r)) ∧
      ∀ build, build.all Number.isWritable = true →
        (Sited root t → Roomy root → (markBuild root job build t).1 = .ok ()) ∧
        ((markBuild root job build t).1 = .ok () →
          load root job (markBuild root job build t).2 = .ok (some { r with build := build }))) ∧
    (load root job t = .ok none → ∀ build, markBuild root job build t = (.ok (), t)) := by
  refine ⟨fun key build => load_save_iff, fun r loaded => ?_,
    fun missing build => markBuild_of_missing missing build none⟩
  refine ⟨fun sited roomy => sited.save_eq_ok roomy loaded (writable_of_load loaded),
    load_resaved loaded, fun build writable => ?_⟩
  rw [markBuild_of_load loaded]
  exact ⟨fun sited roomy => sited.save_eq_ok roomy loaded writable, load_resaved loaded⟩

/-- A file with blanks, another line end and a number with a sign is read, marked and read again. -/
theorem issueFile_read_again_respelled :
    let t := (write ["tickets"] "J" (encodeUtf8 " T-1\r\nbuild=+7\nbuild=\n".toList) .empty).2
    load ["tickets"] "J" t = .ok (some ⟨"T-1", some 7⟩) ∧
      (markBuild ["tickets"] "J" (some 8) t).1 = .ok () ∧
      load ["tickets"] "J" (markBuild ["tickets"] "J" (some 8) t).2 =
        .ok (some ⟨"T-1", some 8⟩) := by
  intro t
  have fresh : Fresh ["tickets"] .empty := fresh_empty rfl (by decide) (by decide)
  have loaded : load ["tickets"] "J" t = .ok (some ⟨"T-1", some 7⟩) :=
    load_of_text rfl (read_write fresh _)
  have sited : Sited ["tickets"] t := (fresh.sited.reworks_write "J" _ none).1.sited fresh.sited
  obtain ⟨-, again, -⟩ := issueFile_read_again ["tickets"] "J" t
  obtain ⟨-, -, marks⟩ := again _ loaded
  obtain ⟨done, after⟩ := marks (some 8) (by decide)
  have marked := done sited fresh.roomy
  exact ⟨loaded, marked, after marked⟩

end

end Directory

/-! ### Both stores -/

namespace Table

theorem load_saved {t : Table} {job key : String} {build : Option Int}
    (saved : (save job (some key) build t).1 = .ok ()) :
    (load job (save job (some key) build t).2).1 = .ok (some ⟨key, build⟩) := by
  obtain ⟨calm, rows, -⟩ := write_ok (w := .save (some key) build) saved
  obtain ⟨_, rows, ⟨⟩, hrows, state⟩ := save_ok saved
  rw [state, load_of_rows (t := { t with rows := some (put ⟨job, key, build⟩ rows) }) calm rfl,
    find?_put_self ⟨job, key, build⟩]
  rfl

theorem clear_of_load {t : Table} {job : String} {r : Option Record}
    (loaded : (load job t).1 = .ok r) : (clear job t).1 = .ok () := by
  obtain ⟨calm, rows, -, hrows, -⟩ := transact_ok loaded
  exact congrArg Prod.fst (transact_of_rows calm hrows rfl)

end Table

theorem FileTree.remove_of_read {t : FileTree} {path : List String} {content : Text.Bytes}
    (h : t.read path = .ok content) : ∃ t', t.remove path = .ok t' := by
  simp only [read, remove, bind, Except.bind] at h ⊢
  cases located : t.locate path with
  | error e => simp [located] at h
  | ok q =>
    simp only [located] at h ⊢
    cases node : t.node? q with
    | none => simp [node] at h
    | some n =>
      cases n with
      | directory => simp [node] at h
      | file content => exact ⟨_, rfl⟩

theorem Directory.clear_of_load {root : List String} {job : String} {t : FileTree} {r : Record}
    (loaded : load root job t = .ok (some r)) : (clear root job t).1 = .ok () := by
  obtain ⟨text, read, -⟩ := exists_text_of_load loaded
  have named := (load_tells_iff.mp (loaded ▸ tells_ok _)).1
  obtain ⟨t', removed⟩ := FileTree.remove_of_read read
  simp [clear, named, removed]

theorem Depot.newSession_newSession (d : Depot) : d.newSession.newSession = d.newSession := rfl

namespace Backend

def Keeps : Backend → String → Prop
  | .files _ => fun key => Tidy key ∧ IsLine key.toList
  | .table => fun _ => True

variable {b : Backend} {d d' : Depot} {job key : String} {n : Option Int}

theorem load_saved_iff (saved : b.store.save job (some key) n d = (.ok (), d')) :
    (b.store.load job d').1 = .ok (some ⟨key, n⟩) ↔ b.Keeps key := by
  obtain rfl : (b.store.save job (some key) n d).2 = d' := congrArg Prod.snd saved
  have ok := congrArg Prod.fst saved
  cases b with
  | files root =>
    have ok : (Directory.save root job (some key) n d.files).1 = .ok () := ok
    exact Directory.load_save_iff ok
  | table => exact iff_of_true (Table.load_saved (t := d.table) ok) trivial

theorem calm_write {w : Write} (done : (b.store.write job w d).1 = .ok ()) :
    b.Calm (b.store.write job w d).2 := by
  cases b with
  | files root => trivial
  | table =>
    obtain ⟨same, part⟩ := table_worksOn.write job w d
    rw [same] at done
    obtain ⟨calm, rows, after⟩ := Table.write_ok done
    change (Backend.table.store.write job w d).2.table.broken = false
    rw [part, after]
    exact calm

theorem load_newSession (calm : b.Calm d) (job : String) :
    (b.store.load job d.newSession).1 = (b.store.load job d).1 := by
  cases b with
  | files root => rfl
  | table =>
    obtain ⟨files, rows, broken⟩ := d
    obtain rfl : broken = false := calm
    rfl

theorem Separates.symm {other : String} (h : b.Separates job other) : b.Separates other job := by
  cases b <;> exact Ne.symm h

theorem cleared_of_load {r : Record} (loaded : (b.store.load job d).1 = .ok (some r)) :
    ∃ d', b.store.clear job d = (.ok (), d') ∧ (b.store.load job d').1 = .ok none ∧
      b.Calm d' := by
  have ok : (b.store.clear job d).1 = .ok () := by
    cases b with
    | files root =>
      have loaded : Directory.load root job d.files = .ok (some r) := loaded
      exact Directory.clear_of_load loaded
    | table => exact Table.clear_of_load (t := d.table) loaded
  refine ⟨_, Prod.ext ok rfl, ?_, ?_⟩
  · exact congrArg Prod.fst
      (b.answering.load_cleared b.keeping (Prod.ext ok rfl) (b.keeping.found loaded).2)
  · exact calm_write (w := .clear) ok

end Backend
end Store
end TicketKeeper
