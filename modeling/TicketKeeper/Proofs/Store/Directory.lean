import TicketKeeper.Store.Directory
import TicketKeeper.Proofs.Store.FileTree
import TicketKeeper.Proofs.Store.Keeping
import TicketKeeper.Proofs.Text.Utf8

/-! The directory store, one job at a time. A record stands in the tree when the issue file at the
place of its job holds it. The root may be missing, or be reached through directories that are, so
what stands can be read only once the folder of the job is there; folders are never taken away. -/
namespace TicketKeeper.Store.Directory

open TicketKeeper.Text FileTree

variable {root : List String} {job : String} {t t' : FileTree} {room : Option Nat}

def folderPlace (root : List String) (job : String) : List String :=
  destination [] root ++ [Path.component job]

def filePlace (root : List String) (job : String) : List String :=
  folderPlace root job ++ [fileName]

def stands (root : List String) (t : FileTree) (job : String) : Option Record :=
  match t.node? (filePlace root job) with
  | some (.file content) => (decodeUtf8? content).bind IssueFile.decode
  | _ => none

abbrev Awake (root : List String) (t : FileTree) (job : String) : Prop :=
  t.HasDirectory (folder root job)

theorem component_ne_up (job : String) : Path.component job ≠ ".." := by
  intro h
  have chars := congrArg String.toList h
  rw [Path.component, Path.componentOf, String.toList_ofList] at chars
  have dash : '-' ∈ "..".toList := by
    rw [← chars]
    simp
  exact absurd dash (by decide)

theorem eq_folderPlace {q : List String} (h : t.locate (folder root job) = .ok q) :
    q = folderPlace root job := by
  rw [eq_destination_of_follow (locate_ok_iff.mp h).2, folder, destination, List.foldl_append]
  simp [folderPlace, destination, component_ne_up]

theorem eq_filePlace {q : List String} (h : t.locate (place root job) = .ok q) :
    q = filePlace root job := by
  rw [eq_destination_of_follow (locate_ok_iff.mp h).2, place, folder, destination,
    List.foldl_append, List.foldl_append]
  simp [filePlace, folderPlace, destination, component_ne_up, fileName]

theorem awake_of_locate {q : List String} (h : t.locate (place root job) = .ok q) :
    Awake root t job := by
  rw [place, locate_ok_iff, follow_append] at h
  obtain ⟨short, led⟩ := h
  cases hfolder : t.follow [] (folder root job) with
  | error e => simp [hfolder, Except.bind] at led
  | ok here =>
    simp only [hfolder, Except.bind, follow] at led
    have small : pathSize (folder root job) ≤ maxPath := by
      rw [pathSize_append] at short
      exact (Nat.le_add_right ..).trans short
    refine ⟨here, locate_ok_iff.mpr ⟨small, hfolder⟩, ?_⟩
    split at led
    · assumption
    · contradiction
    · contradiction

/-- When the folder is there, its issue file is missed only because there is none. -/
theorem locate_of_awake (h : Awake root t job)
    (hne : t.locate (place root job) ≠ .error .nameTooLong) :
    t.locate (place root job) = .ok (filePlace root job) := by
  obtain ⟨here, located, hdir⟩ := h
  obtain rfl := eq_folderPlace located
  have short : pathSize (place root job) ≤ maxPath := by
    by_contra h
    exact hne (by rw [locate, if_pos (Nat.lt_of_not_le h)])
  have led := (locate_ok_iff.mp located).2
  refine locate_ok_iff.mpr ⟨short, ?_⟩
  rw [place, follow_append, led]
  simp only [Except.bind, follow, hdir]
  rw [if_neg (by decide), if_neg (by decide), filePlace]

theorem node?_of_read_notFound (h : Awake root t job)
    (hread : t.read (place root job) = .error .notFound) :
    t.node? (filePlace root job) = none := by
  cases located : t.locate (place root job) with
  | error e =>
    have he : e = .notFound := by simpa [FileTree.read, located, bind, Except.bind] using hread
    have := locate_of_awake h (by rw [located, he]; simp)
    rw [located] at this
    contradiction
  | ok q =>
    obtain rfl := eq_filePlace located
    simp only [FileTree.read, located, bind, Except.bind] at hread
    split at hread
    · contradiction
    · contradiction
    · assumption

theorem read_ok {content : Bytes} (h : t.read (place root job) = .ok content) :
    t.node? (filePlace root job) = some (.file content) ∧ Awake root t job := by
  cases located : t.locate (place root job) with
  | error e => simp [FileTree.read, located, bind, Except.bind] at h
  | ok q =>
    refine ⟨?_, awake_of_locate located⟩
    obtain rfl := eq_filePlace located
    simp only [FileTree.read, located, bind, Except.bind] at h
    split at h
    · rename_i hfile
      rw [hfile, Except.ok.inj h]
    · contradiction
    · contradiction

theorem load_some {r : Record} (h : load root job t = .ok (some r)) :
    stands root t job = some r ∧ Awake root t job := by
  unfold load at h
  split at h
  · contradiction
  split at h
  · exact nomatch Except.ok.inj h
  · contradiction
  · rename_i hread
    obtain ⟨hfile, awake⟩ := read_ok hread
    split at h
    · contradiction
    · rename_i htext
      refine ⟨?_, awake⟩
      rw [stands, hfile]
      exact (congrArg (·.bind IssueFile.decode) htext).trans (Except.ok.inj h)

theorem load_none (h : load root job t = .ok none) (awake : Awake root t job) :
    stands root t job = none := by
  unfold load at h
  split at h
  · contradiction
  split at h
  · rename_i hread
    rw [stands, node?_of_read_notFound awake hread]
  · contradiction
  · rename_i hread
    split at h
    · contradiction
    · rename_i htext
      rw [stands, (read_ok hread).1]
      exact (congrArg (·.bind IssueFile.decode) htext).trans (Except.ok.inj h)

/-! ### Writing -/

def SameFilesBut (q : List String) (t t' : FileTree) : Prop :=
  ∀ p content, p ≠ q → (t'.node? p = some (.file content) ↔ t.node? p = some (.file content))

def SameFiles (t t' : FileTree) : Prop :=
  ∀ p content, t'.node? p = some (.file content) ↔ t.node? p = some (.file content)

theorem SameFiles.but (h : SameFiles t t') (q : List String) : SameFilesBut q t t' :=
  fun p content _ => h p content

theorem stands_congr {other : String}
    (h : ∀ content, t'.node? (filePlace root other) = some (.file content) ↔
      t.node? (filePlace root other) = some (.file content)) :
    stands root t' other = stands root t other := by
  unfold stands
  split
  · rename_i content hfile
    rw [(h content).mp hfile]
  · rename_i hno
    split
    · rename_i content hfile
      exact (hno content ((h content).mpr hfile)).elim
    · rfl

theorem SameFiles.stands (h : SameFiles t t') : stands root t' = stands root t :=
  funext fun _ => stands_congr fun content => h _ content

/-- What a write leaves alone, and where it ends. -/
theorem write_spec (root : List String) (job : String) (content : Bytes) (t : FileTree)
    (room : Option Nat) :
    t.KeepsDirectories (write root job content t room).2 ∧
    SameFilesBut (filePlace root job) t (write root job content t room).2 ∧
    (∀ f, (write root job content t room).1 = .error f →
      SameFiles t (write root job content t room).2) ∧
    ((write root job content t room).1 = .ok () → isPath root = true ∧
      (write root job content t room).2.read (place root job) = .ok content) := by
  have unchanged {t₁ : FileTree} (grows : t.GrowsTo t₁) {t₂ : FileTree}
      (same : ∀ p, t₂.node? p = t₁.node? p) : t.KeepsDirectories t₂ ∧ SameFiles t t₂ :=
    ⟨fun p hp => (same p).trans (grows.keepsDirectories p hp), fun p c => by
      rw [same]
      exact grows.file_iff p c⟩
  have made := (makeDirectories_spec t (folder root job)).1
  unfold write
  split
  · obtain ⟨keeps, same⟩ := unchanged (.refl t) fun _ => rfl
    exact ⟨keeps, same.but _, fun _ _ => same, nofun⟩
  rename_i hpath
  split
  · rename_i heq
    rw [heq] at made
    obtain ⟨keeps, same⟩ := unchanged made fun _ => rfl
    exact ⟨keeps, same.but _, fun _ _ => same, nofun⟩
  rename_i t₁ heq
  rw [heq] at made
  split
  · obtain ⟨keeps, same⟩ := unchanged made fun _ => rfl
    exact ⟨keeps, same.but _, fun _ _ => same, nofun⟩
  rename_i staged t₂ hstage
  obtain ⟨fresh, rfl, -⟩ := stage_ok hstage
  obtain ⟨part, put, whole⟩ := fill_put t₁ staged (.file []) content room
  split
  · rename_i hfill
    rw [hfill] at put
    obtain rfl := put
    obtain ⟨keeps, same⟩ := unchanged made (node?_unstaged fresh (.file part))
    exact ⟨keeps, same.but _, fun _ _ => same, nofun⟩
  rename_i hfill
  rw [hfill] at put whole
  obtain rfl := put
  obtain rfl := whole rfl
  split
  · rename_i t₃ hrename
    obtain ⟨target, located, hfile, keeps, moved⟩ := rename_staged fresh hrename
    obtain rfl := eq_filePlace located
    refine ⟨made.keepsDirectories.trans keeps, fun p c hp => ?_, nofun, fun _ => ?_⟩
    · rw [moved p hp]
      exact made.file_iff p c
    · refine ⟨by simpa using hpath, ?_⟩
      simp only [FileTree.read, located, bind, Except.bind, hfile]
      rfl
  · obtain ⟨keeps, same⟩ := unchanged made (node?_unstaged fresh (.file part))
    exact ⟨keeps, same.but _, fun _ _ => same, nofun⟩

theorem load_write {text : List Char}
    (h : (write root job (encodeUtf8 text) t room).1 = .ok ()) :
    load root job (write root job (encodeUtf8 text) t room).2 = .ok (IssueFile.decode text) := by
  obtain ⟨-, -, -, written⟩ := write_spec root job (encodeUtf8 text) t room
  obtain ⟨hpath, hread⟩ := written h
  simp only [load, hpath, hread, decodeUtf8?_encodeUtf8]
  rfl

theorem awake_write {content : Bytes} (h : (write root job content t room).1 = .ok ()) :
    Awake root (write root job content t room).2 job := by
  obtain ⟨-, -, -, written⟩ := write_spec root job content t room
  exact (read_ok (written h).2).2

theorem save_eq {key : Option String} {build : Option Int}
    (h : (save root job key build t room).1 = .ok ()) : build.all Number.isWritable = true ∧
      save root job key build t room =
        write root job (encodeUtf8 (IssueFile.encode (key.getD Json.null.text) build)) t room := by
  unfold save at h ⊢
  split at h
  · rename_i hbuild
    exact ⟨hbuild, if_pos hbuild⟩
  · contradiction

/-- What becomes of a tree under a write for a job, whatever comes of it. -/
structure Touches (root : List String) (job : String) (t : FileTree)
    (r : Except Fault Unit × FileTree) : Prop where
  keepsDirectories : t.KeepsDirectories r.2
  others : SameFilesBut (filePlace root job) t r.2
  of_error {f} : r.1 = .error f → SameFiles t r.2

theorem Touches.refl (root : List String) (job : String) (t : FileTree) (r : Except Fault Unit) :
    Touches root job t (r, t) :=
  ⟨fun _ h => h, fun _ _ _ => .rfl, fun _ _ _ => .rfl⟩

theorem touches_save (key : Option String) (build : Option Int) :
    Touches root job t (save root job key build t room) := by
  unfold save
  split
  · obtain ⟨keeps, others, same, -⟩ := write_spec root job
      (encodeUtf8 (IssueFile.encode (key.getD Json.null.text) build)) t room
    exact ⟨keeps, others, same _⟩
  · exact .refl ..

theorem touches_markBuild (build : Option Int) :
    Touches root job t (markBuild root job build t room) := by
  unfold markBuild
  split
  · exact .refl ..
  · exact .refl ..
  · exact touches_save ..

theorem remove_ok {path : List String} (h : t.remove path = .ok t') : ∃ q content,
    t.locate path = .ok q ∧ t.node? q = some (.file content) ∧ t' = t.erase q := by
  simp only [remove, bind, Except.bind] at h
  split at h
  · contradiction
  rename_i q located
  split at h
  · rename_i content hfile
    exact ⟨q, content, located, hfile, (Except.ok.inj h).symm⟩
  · contradiction
  · contradiction

theorem keepsDirectories_erase {q : List String} {content : Bytes}
    (h : t.node? q = some (.file content)) : t.KeepsDirectories (t.erase q) := by
  intro p hp
  rwa [node?_erase_of_ne]
  rintro rfl
  rw [h] at hp
  cases hp

theorem touches_clear : Touches root job t (clear root job t) := by
  unfold clear
  split
  · exact .refl ..
  split
  · rename_i t' hremove
    obtain ⟨q, content, located, hfile, rfl⟩ := remove_ok hremove
    obtain rfl := eq_filePlace located
    refine ⟨keepsDirectories_erase hfile, fun p c hp => ?_, nofun⟩
    rw [node?_erase_of_ne hp]
  · exact .refl ..
  · exact .refl ..

theorem load_clear (h : (clear root job t).1 = .ok ()) :
    load root job (clear root job t).2 = .ok none := by
  unfold clear at h ⊢
  split at h
  · contradiction
  rename_i hpath
  have absent {t' : FileTree} (hread : t'.read (place root job) = .error .notFound) :
      load root job t' = .ok none := by
    rw [load, if_neg hpath, hread]
  rw [if_neg hpath]
  split at h
  · rename_i t' hremove
    obtain ⟨q, content, located, hfile, rfl⟩ := remove_ok hremove
    apply absent
    simp only [FileTree.read, (keepsDirectories_erase hfile).locate located, bind, Except.bind,
      node?_erase_self]
    rfl
  · rename_i hremove
    apply absent
    simp only [remove, bind, Except.bind] at hremove
    simp only [FileTree.read, bind, Except.bind]
    split at hremove
    · rw [Except.error.inj hremove]
    · split at hremove
      · contradiction
      · exact nomatch Except.error.inj hremove
      · rfl
  · contradiction

theorem touches (w : Write) : Touches root job t ((directory root room).write job w t) := by
  cases w with
  | save key build => exact touches_save key build
  | markBuild build => exact touches_markBuild build
  | clear => exact touches_clear

theorem filePlace_ne {other : String} (h : Path.mark job.toList ≠ Path.mark other.toList) :
    filePlace root other ≠ filePlace root job := by
  intro heq
  simp only [filePlace, folderPlace, List.append_cancel_right_eq, List.append_cancel_left_eq,
    List.cons.injEq, and_true] at heq
  exact h (Path.mark_eq_of_component_eq heq).symm

theorem stands_write {w : Write} {other : String}
    (h : Path.mark job.toList ≠ Path.mark other.toList) :
    stands root ((directory root room).write job w t).2 other = stands root t other :=
  stands_congr fun content => (touches w).others _ content (filePlace_ne h)

theorem markBuild_ok {n : Int} {r : Record}
    (h : (markBuild root job (some n) t room).1 = .ok ()) (awake : Awake root t job)
    (hr : stands root t job = some r) :
    stands root (markBuild root job (some n) t room).2 job = some { r with build := some n } := by
  unfold markBuild at h ⊢
  split at h
  · contradiction
  · rename_i hload
    rw [load_none hload awake] at hr
    contradiction
  · rename_i r' hload
    obtain rfl : r' = r := Option.some.inj ((load_some hload).1.symm.trans hr)
    obtain ⟨writable, hsave⟩ := save_eq h
    rw [hsave] at h ⊢
    have stays : IssueFile.decode (IssueFile.encode r'.key (some n)) = some ⟨r'.key, some n⟩ := by
      obtain ⟨text, htext⟩ : ∃ text, IssueFile.decode text = some r' := by
        rw [stands] at hr
        split at hr
        · obtain ⟨text, -, htext⟩ := Option.bind_eq_some_iff.mp hr
          exact ⟨text, htext⟩
        · contradiction
      obtain ⟨tidy, line⟩ := IssueFile.tidy_of_decode htext
      exact IssueFile.decode_encode tidy line writable
    have loaded := load_write h
    rw [show (some r'.key).getD Json.null.text = r'.key from rfl, stays] at loaded
    exact (load_some loaded).1

theorem save_ok {key : String} {n : Int}
    (h : (save root job (some key) (some n) t room).1 = .ok ()) (tidy : Tidy key) :
    Awake root (save root job (some key) (some n) t room).2 job ∧
      ∃ shown, stands root (save root job (some key) (some n) t room).2 job = some ⟨shown, some n⟩ ∧
        shown ≠ "" ∧ (IsLine key.toList → shown = key) := by
  obtain ⟨writable, hsave⟩ := save_eq h
  rw [hsave] at h ⊢
  have loaded := load_write h
  refine ⟨awake_write h, ?_⟩
  change load root job _ = .ok (IssueFile.decode (IssueFile.encode key (some n))) at loaded
  obtain ⟨shown, hshown⟩ := IssueFile.decode_encode_build tidy (n := n) writable
  have exact_key (line : IsLine key.toList) : shown = key := by
    rw [IssueFile.decode_encode tidy line writable] at hshown
    exact (congrArg Record.key (Option.some.inj hshown)).symm
  refine ⟨shown, ?_, (IssueFile.tidy_of_decode hshown).1.ne_empty, exact_key⟩
  rw [hshown] at loaded
  exact (load_some loaded).1

def keeping (root : List String) (room : Option Nat := none) : Keeping (directory root room) where
  stands := stands root
  awake := Awake root
  apart job other := Path.mark job.toList ≠ Path.mark other.toList
  load_ok _ := rfl
  stands_load _ _ := rfl
  awake_load := id
  found := load_some
  missing := load_none
  write_apart _ h := stands_write h
  write_error h := ((touches _).of_error h).stands
  awake_write w h := (touches w).keepsDirectories.hasDirectory h
  save_ok := save_ok
  markBuild_ok := markBuild_ok
  clear_ok h awake := load_none (load_clear h) (touches_clear.keepsDirectories.hasDirectory awake)

theorem answering (root : List String) (room : Option Nat := none) :
    Answering (directory root room) fun _ => True where
  load_calm _ := rfl
  write_calm _ _ := trivial
  write_ok {job w t} h := by
    have after_save {key build} (h : (save root job key build t room).1 = .ok ()) :
        ∃ r, load root job (save root job key build t room).2 = .ok r := by
      obtain ⟨-, hsave⟩ := save_eq h
      rw [hsave] at h ⊢
      exact ⟨_, load_write h⟩
    cases w with
    | save key build => exact after_save h
    | markBuild build =>
      change ∃ r, load root job (markBuild root job build t room).2 = .ok r
      change (markBuild root job build t room).1 = .ok () at h
      unfold markBuild at h ⊢
      split at h
      · contradiction
      · rename_i hload
        exact ⟨none, hload⟩
      · exact after_save h
    | clear => exact ⟨none, load_clear h⟩

end TicketKeeper.Store.Directory
