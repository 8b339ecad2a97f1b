import Mathlib.Data.Nat.Digits.Defs
import TicketKeeper.Proofs.Store.Depot

/-! Healthy stores. In a directory that is there, where names have room, a record can be saved
whenever it can be loaded; a table takes every number that fits its column. -/
namespace TicketKeeper.Store

namespace FileTree

variable {t t' : FileTree} {path here : List String}

def Sound (t : FileTree) : Prop :=
  ∀ path name, t.node? (path ++ [name]) ≠ none → t.node? path = some .directory

theorem Sound.erase {content : Text.Bytes} (h : t.Sound)
    (file : t.node? path = some (.file content)) :
    (t.erase path).Sound := by
  intro other name stands
  have apart : other ++ [name] ≠ path := by
    intro same
    apply stands
    rw [same, node?_erase_self]
  rw [node?_erase_of_ne apart] at stands
  have directory := h other name stands
  rw [node?_erase_of_ne, directory]
  intro same
  rw [same, file] at directory
  cases directory

theorem pathSize_dropLast_le (path : List String) : pathSize path.dropLast ≤ pathSize path := by
  induction path with
  | nil => exact Nat.le_refl _
  | cons name r ih =>
    cases r with
    | nil => exact Nat.zero_le _
    | cons next r =>
      rw [List.dropLast_cons_cons, pathSize, pathSize]
      omega

theorem pathSize_destination_le (here path : List String) :
    pathSize (destination here path) ≤ pathSize here + pathSize path := by
  induction path generalizing here with
  | nil => exact Nat.le_refl _
  | cons name r ih =>
    have step : pathSize (if name = ".." then here.dropLast else here ++ [name]) ≤
        pathSize here + (name.utf8ByteSize + 1) := by
      split
      · exact (pathSize_dropLast_le here).trans (Nat.le_add_right _ _)
      · rw [pathSize_append]
        rfl
    calc pathSize (destination here (name :: r))
      _ ≤ pathSize (if name = ".." then here.dropLast else here ++ [name]) + pathSize r := ih _
      _ ≤ pathSize here + pathSize (name :: r) := by
        rw [pathSize]
        omega

theorem utf8ByteSize_ofList_le (cs : List Char) :
    (String.ofList cs).utf8ByteSize ≤ 4 * cs.length := by
  induction cs with
  | nil => exact Nat.le_refl _
  | cons c cs ih =>
    have one := c.utf8Size_le_four
    rw [String.ofList_cons, String.utf8ByteSize_append, String.utf8ByteSize_singleton,
      List.length_cons]
    omega

theorem utf8ByteSize_stagingName {n : Nat} (h : n < 10 ^ 9) :
    (stagingName n).utf8ByteSize ≤ maxName := by
  have digits : (toString n).toList.length ≤ 9 := by
    rw [Nat.toString_eq_ofList_toDigits, String.toList_ofList]
    exact Nat.toDigits_length 10 n 9 (by decide) h
  have padded := utf8ByteSize_ofList_le
    (List.replicate (8 - (toString n).toList.length) '0' ++ (toString n).toList)
  rw [List.length_append, List.length_replicate] at padded
  change (".issue-" ++ String.ofList _ ++ ".tmp").utf8ByteSize ≤ _
  rw [String.utf8ByteSize_append, String.utf8ByteSize_append,
    show ".issue-".utf8ByteSize = 7 by decide, show ".tmp".utf8ByteSize = 4 by decide, maxName]
  omega

theorem utf8ByteSize_freshName (sparse : t.entries.length + 1 < 10 ^ 9) :
    (t.freshName path).utf8ByteSize ≤ maxName := by
  unfold freshName
  cases found : ((List.range (t.entries.length + 1)).map stagingName).find?
      (fun name => (t.node? (path ++ [name])).isNone) with
  | none => exact utf8ByteSize_stagingName (by decide)
  | some name =>
    obtain ⟨n, hn, rfl⟩ := List.mem_map.mp (List.mem_of_find?_eq_some found)
    rw [List.mem_range] at hn
    exact utf8ByteSize_stagingName (by omega)

end FileTree

namespace Directory

open FileTree

variable {root : List String} {job : String} {t t' : FileTree} {r : Option Record}

/-- The root is a directory, and has room for a folder and a file in it. -/
structure Healthy (root : List String) (t : FileTree) : Prop where
  named : isPath root = true
  made : t.HasDirectory root
  room : pathSize root + 2 * (maxName + 1) ≤ maxPath
  sparse : t.entries.length < 10 ^ 8
  sound : t.Sound

structure Readable (root : List String) (t : FileTree) (job : String) : Prop where
  located : t.locate (folder root job) = .ok (folderPlace root job)
  short : (Path.component job).utf8ByteSize ≤ maxName
  folder : ∀ content, t.node? (folderPlace root job) ≠ some (.file content)
  file : t.node? (filePlace root job) ≠ some .directory

theorem Healthy.follow (h : Healthy root t) :
    t.follow [] (folder root job) = if maxName < (Path.component job).utf8ByteSize then
      .error .nameTooLong else .ok (folderPlace root job) := by
  obtain ⟨here, located, directory⟩ := h.made
  have led := (locate_ok_iff.mp located).2
  obtain rfl := eq_destination_of_follow led
  rw [folder, follow_append, led]
  simp only [Except.bind, FileTree.follow, directory, if_neg (component_ne_up job)]
  rfl

theorem eq_notFound_of_load {e : FileError} (loaded : load root job t = .ok r)
    (failed : t.read (place root job) = .error e) : e = .notFound := by
  rw [load, failed] at loaded
  split at loaded
  · cases loaded
  · cases e with
    | notFound => rfl
    | _ => cases loaded

theorem Healthy.short (h : Healthy root t) (loaded : load root job t = .ok r) :
    (Path.component job).utf8ByteSize ≤ maxName := by
  by_contra long
  have failed : t.read (place root job) = .error .nameTooLong := by
    have led : t.follow [] (place root job) = .error .nameTooLong := by
      rw [place, follow_append, h.follow, if_pos (Nat.lt_of_not_le long)]
      rfl
    have located : t.locate (place root job) = .error .nameTooLong := by
      rw [locate, led, ite_self]
    rw [FileTree.read, located]
    rfl
  cases eq_notFound_of_load loaded failed

theorem Healthy.locate_folder (h : Healthy root t)
    (short : (Path.component job).utf8ByteSize ≤ maxName) :
    t.locate (folder root job) = .ok (folderPlace root job) := by
  have room := h.room
  rw [locate_ok_iff, h.follow, if_neg (Nat.not_lt_of_le short), folder, pathSize_append, pathSize,
    pathSize]
  exact ⟨by omega, rfl⟩

theorem pathSize_place_le (room : pathSize root + 2 * (maxName + 1) ≤ maxPath)
    (short : (Path.component job).utf8ByteSize ≤ maxName) :
    pathSize (place root job) ≤ maxPath := by
  have file : fileName.utf8ByteSize ≤ maxName := by decide
  rw [place, folder, pathSize_append, pathSize_append, pathSize, pathSize, pathSize, pathSize]
  omega

theorem locate_place (located : t.locate (folder root job) = .ok (folderPlace root job))
    (small : pathSize (place root job) ≤ maxPath)
    (directory : t.node? (folderPlace root job) = some .directory) :
    t.locate (place root job) = .ok (filePlace root job) := by
  rw [locate_ok_iff] at located ⊢
  refine ⟨small, ?_⟩
  rw [place, follow_append, located.2]
  simp only [Except.bind, FileTree.follow, directory]
  rw [if_neg (by decide), if_neg (by decide), filePlace]

theorem Healthy.readable (h : Healthy root t) (loaded : load root job t = .ok r) :
    Readable root t job := by
  have short := h.short loaded
  have located := h.locate_folder short
  have small := pathSize_place_le h.room short
  refine ⟨located, short, ?_, ?_⟩
  · intro content file
    have failed : t.read (place root job) = .error .notDirectory := by
      have led : t.follow [] (place root job) = .error .notDirectory := by
        rw [place, follow_append, (locate_ok_iff.mp located).2]
        simp only [Except.bind, FileTree.follow, file]
      rw [FileTree.read, locate, if_neg (Nat.not_lt_of_le small), led]
      rfl
    cases eq_notFound_of_load loaded failed
  · intro directory
    have above : t.node? (folderPlace root job) = some .directory := by
      apply h.sound _ fileName
      change t.node? (filePlace root job) ≠ none
      simp [directory]
    have failed : t.read (place root job) = .error .isDirectory := by
      rw [FileTree.read, locate_place located small above]
      simp only [bind, Except.bind, directory]
      rfl
    cases eq_notFound_of_load loaded failed

theorem Readable.makeDirectories (h : Readable root t job) : ∃ t',
    t.makeDirectories (Directory.folder root job) = (.ok (), t') ∧
      t'.node? (folderPlace root job) = some .directory ∧
      (t' = t ∨
        t.node? (folderPlace root job) = none ∧ t' = t.put (folderPlace root job) .directory) := by
  have made : ∃ t', t.makeDirectory (Directory.folder root job) = .ok t' ∧
      t'.node? (folderPlace root job) = some .directory ∧
      (t' = t ∨ t.node? (folderPlace root job) = none ∧
        t' = t.put (folderPlace root job) .directory) := by
    cases found : t.node? (folderPlace root job) with
    | none =>
      refine ⟨t.put (folderPlace root job) .directory, ?_, node?_put_self .., .inr ⟨rfl, rfl⟩⟩
      simp only [makeDirectory, h.located, bind, Except.bind, found]
      rfl
    | some node =>
      cases node with
      | file content => exact absurd found (h.folder content)
      | directory =>
        refine ⟨t, ?_, found, .inl rfl⟩
        simp only [makeDirectory, h.located, bind, Except.bind, found]
        rfl
  obtain ⟨t', made, stands, same⟩ := made
  refine ⟨t', ?_, stands, same⟩
  have path : (Directory.folder root job).reverse = Path.component job :: root.reverse := by
    rw [Directory.folder, List.reverse_append]
    rfl
  rw [FileTree.makeDirectories, path, makeAll, ← path, List.reverse_reverse, made]

theorem length_putEntry_le (path : List String) (n : Node) (entries : List (List String × Node)) :
    (putEntry path n entries).length ≤ entries.length + 1 := by
  fun_induction putEntry path n entries <;> simp_all

theorem Healthy.stage_ok (h : Healthy root t) (short : (Path.component job).utf8ByteSize ≤ maxName)
    (located : t'.locate (folder root job) = .ok (folderPlace root job))
    (sparse : t'.entries.length ≤ t.entries.length + 1) :
    ∃ staged, t'.node? staged = none ∧
      t'.stage (folder root job) = .ok (staged, t'.put staged (.file [])) := by
  refine ⟨folderPlace root job ++ [t'.freshName (folderPlace root job)], node?_freshName .., ?_⟩
  have room := h.room
  have few := h.sparse
  have name : (t'.freshName (folderPlace root job)).utf8ByteSize ≤ maxName :=
    utf8ByteSize_freshName (by omega)
  have up := pathSize_destination_le [] root
  have small :
      pathSize (folderPlace root job ++ [t'.freshName (folderPlace root job)]) ≤ maxPath := by
    generalize t'.freshName (folderPlace root job) = fresh at name ⊢
    rw [folderPlace, pathSize_append, pathSize_append]
    simp only [pathSize] at up ⊢
    omega
  simp only [stage, located, bind, Except.bind, if_neg (Nat.not_lt_of_le small)]
  rfl

theorem rename_staged_ok {staged path target : List String} (fresh : t.node? staged = none)
    (located : t.locate path = .ok target) (free : t.node? target ≠ some .directory)
    (content : Text.Bytes) :
    ∃ t', (t.put staged (.file content)).rename staged path = .ok t' := by
  have keeps : t.KeepsDirectories (t.put staged (.file content)) := by
    intro q hq
    rwa [node?_put_of_ne]
    rintro rfl
    simp [fresh] at hq
  have free : (t.put staged (.file content)).node? target ≠ some .directory := by
    by_cases same : target = staged
    · simp [same, node?_put_self]
    · rwa [node?_put_of_ne same]
  simp only [rename, keeps.locate located, bind, Except.bind, node?_put_self]
  exact ⟨_, rfl⟩

theorem Healthy.write_ok (h : Healthy root t) (loaded : load root job t = .ok r)
    (content : Text.Bytes) :
    (write root job content t).1 = .ok () := by
  have readable := h.readable loaded
  have small := pathSize_place_le h.room readable.short
  obtain ⟨t₁, made, directory, same⟩ := readable.makeDirectories
  have grown : t.GrowsTo t₁ := by
    rcases same with rfl | ⟨missing, rfl⟩
    · exact .refl _
    · exact .put_directory missing
  have free : t₁.node? (filePlace root job) ≠ some .directory := by
    rcases same with rfl | ⟨missing, rfl⟩
    · exact readable.file
    · rw [node?_put_of_ne (by simp [filePlace])]
      exact readable.file
  have sparse : t₁.entries.length ≤ t.entries.length + 1 := by
    rcases same with rfl | ⟨-, rfl⟩
    · exact Nat.le_add_right _ 1
    · exact length_putEntry_le ..
  have located := grown.keepsDirectories.locate readable.located
  obtain ⟨staged, fresh, stages⟩ := h.stage_ok readable.short located sparse
  obtain ⟨t₂, renamed⟩ :=
    rename_staged_ok fresh (locate_place located small directory) free content
  rw [write, h.named, made]
  dsimp only
  rw [stages]
  dsimp only
  rw [fill_of_roomy rfl, put_put]
  dsimp only
  rw [renamed]
  rfl

theorem Healthy.save_ok (h : Healthy root t) (loaded : load root job t = .ok r)
    (key : Option String) {build : Option Int} (writable : build.all Number.isWritable = true) :
    (save root job key build t).1 = .ok () := by
  rw [save, if_pos writable]
  exact h.write_ok loaded _

theorem Healthy.clear (h : Healthy root t) (job : String) : Healthy root (clear root job t).2 := by
  unfold Directory.clear
  split
  · exact h
  split
  · rename_i t' removed
    obtain ⟨q, content, -, file, rfl⟩ := remove_ok removed
    refine ⟨h.named, (keepsDirectories_erase file).hasDirectory h.made, h.room, ?_,
      h.sound.erase file⟩
    exact (List.length_filter_le _ _).trans_lt h.sparse
  · exact h
  · exact h

end Directory

namespace Backend

def Healthy : Backend → Depot → Prop
  | .files root => fun d => Directory.Healthy root d.files
  | .table => fun d => d.table.rows ≠ none

def Holds : Backend → Int → Prop
  | .files _ => fun _ => True
  | .table => fun n => Table.fits n = true

variable {b : Backend} {d d' : Depot} {job : String}

theorem Healthy.clear (h : b.Healthy d) (cleared : b.store.clear job d = (.ok (), d')) :
    b.Healthy d' := by
  obtain rfl : (b.store.clear job d).2 = d' := congrArg Prod.snd cleared
  cases b with
  | files root => exact Directory.Healthy.clear h job
  | table =>
    obtain ⟨rows, -, state⟩ := Table.clear_ok (congrArg Prod.fst cleared)
    change (Table.clear job d.table).2.rows ≠ none
    simp [state]

theorem Healthy.save_ok_iff (h : b.Healthy d) {r : Option Record}
    (loaded : (b.store.load job d).1 = .ok r) (key : String) {n : Int}
    (writable : Number.isWritable n = true) :
    (b.store.save job (some key) (some n) d).1 = .ok () ↔ b.Holds n := by
  cases b with
  | files root =>
    have writable : (some n).all Number.isWritable = true := writable
    exact ⟨fun _ => trivial, fun _ => Directory.Healthy.save_ok h loaded (some key) writable⟩
  | table =>
    have loaded : (Table.load job d.table).1 = .ok r := loaded
    obtain ⟨sound, rows, -, hrows, -, -⟩ := Table.transact_ok loaded
    change (Table.save job (some key) (some n) d.table).1 = _ ↔ Table.fits n = true
    unfold Table.save Table.transact
    rw [sound, hrows, if_neg Bool.false_ne_true]
    cases fits : Table.fits n <;> simp [fits]

end Backend

end TicketKeeper.Store
