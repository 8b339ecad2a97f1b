import TicketKeeper.Proofs.Store.Route

/-! Directories that are sited: a root that is there, or that can be made name by name, in a tree
where what stands somewhere stands in a directory. A call for a job makes directories down to the
folder of the job, and has no part in the files of the other jobs. -/
namespace TicketKeeper.Store

namespace Path

open TicketKeeper.Text FileTree

theorem toNat_of_isSafe {c : Char} (h : isSafe c = true) : c.toNat < 128 := by
  have upTo {last : Char} (ascii : last.toNat < 128) (le : c.val ≤ last.val) : c.toNat < 128 :=
    Nat.lt_of_le_of_lt le ascii
  change (c.isUpper || c.isLower || c.isDigit || c == '.' || c == '_' || c == '-') = true at h
  simp only [Bool.or_eq_true, beq_iff_eq] at h
  rcases h with ((((upper | lower) | digit) | rfl) | rfl) | rfl
  · exact upTo (by decide) (of_decide_eq_true upper).2
  · exact upTo (by decide) (of_decide_eq_true (Bool.and_eq_true_iff.mp lower).2)
  · exact upTo (by decide) (of_decide_eq_true (Bool.and_eq_true_iff.mp digit).2)
  all_goals decide

theorem isSafe_of_mem_replaceRuns {inRun : Bool} {s : List Char} {c : Char}
    (h : c ∈ replaceRuns inRun s) : isSafe c = true := by
  fun_induction replaceRuns inRun s with
  | case1 => cases h
  | case2 inRun c' r safe ih =>
    rcases List.mem_cons.mp h with rfl | h
    · exact safe
    · exact ih h
  | case3 c' r unsafe_ ih => exact ih h
  | case4 inRun c' r unsafe_ first ih =>
    rcases List.mem_cons.mp h with rfl | h
    · decide
    · exact ih h

theorem isSafe_of_mem_readable {line : List Char} {c : Char} (h : c ∈ readable line) :
    isSafe c = true := by
  unfold readable at h
  split at h
  · simp only [List.mem_cons, List.not_mem_nil, or_false] at h
    rcases h with rfl | rfl | rfl <;> decide
  · exact isSafe_of_mem_replaceRuns (mem_of_mem_trimBy (List.mem_of_mem_take h))

theorem length_readable_le (line : List Char) : (readable line).length ≤ maxReadable := by
  unfold readable
  split
  · decide
  · exact List.length_take_le _ _

theorem utf8ByteSize_component (job : String) : (component job).utf8ByteSize ≤ maxName := by
  have ascii : ∀ c ∈ readable (cleanLine job.toList), c.toNat < 128 := fun c hc =>
    toNat_of_isSafe (isSafe_of_mem_readable hc)
  have short := length_readable_le (cleanLine job.toList)
  have mark := utf8ByteSize_ofList_le ('-' :: Path.mark job.toList)
  rw [List.length_cons, Path.length_mark] at mark
  rw [component, componentOf, String.ofList_append, String.utf8ByteSize_append,
    utf8ByteSize_ofList ascii, maxName]
  rw [maxReadable] at short
  omega

end Path

namespace Directory

open TicketKeeper.Text FileTree

variable {root : List String} {job other : String} {t t' : FileTree}

/-- A root that leads down from a directory that is there, in a sound tree. Its folders have names
left for files that are staged. -/
structure Sited (root : List String) (t : FileTree) : Prop where
  sound : t.Sound
  level : t.Descends root
  spare (job : String) : ∃ n < 10 ^ 8, t.node? (folderPlace root job ++ [stagingName n]) = none

theorem sited_empty (plain : Plain root) : Sited root .empty where
  sound path name stands := by
    cases path <;> exact absurd rfl stands
  level := descends_of_plain plain
  spare job := by
    refine ⟨0, by decide, ?_⟩
    rw [folderPlace, List.append_assoc]
    cases destination [] root <;> rfl

theorem destination_folder (root : List String) (job : String) :
    destination [] (folder root job) = folderPlace root job := by
  simp [folder, folderPlace, destination, component_ne_up]

theorem plain_component (job : String) : Plain [Path.component job] := by
  intro name h
  rw [List.mem_singleton.mp h]
  exact ⟨component_ne_up job, Path.utf8ByteSize_component job⟩

theorem plain_names (job : String) : Plain [Path.component job, fileName] := by
  intro name h
  rcases List.mem_cons.mp h with rfl | h
  · exact plain_component job _ List.mem_cons_self
  · rw [List.mem_singleton.mp h]
    decide

theorem place_eq (root : List String) (job : String) :
    place root job = root ++ [Path.component job, fileName] := List.append_assoc ..

theorem destination_place (root : List String) (job : String) :
    destination [] (place root job) = filePlace root job := by
  rw [place_eq, destination_append_plain (plain_names job), filePlace, folderPlace,
    List.append_assoc]
  rfl

/-- The way to an issue file is closed by a file, or it is open as far as it goes. -/
theorem Sited.follow (h : Sited root t) (job : String) :
    (t.Blocked (filePlace root job) ∧ t.follow [] (place root job) = .error .notDirectory) ∨
      (¬t.Blocked (filePlace root job) ∧
        (t.follow [] (place root job) = .ok (filePlace root job) ∨
          t.follow [] (place root job) = .error .notFound ∧
            t.node? (filePlace root job) = none)) := by
  rw [← destination_place, place_eq]
  exact (h.level.append (plain_names job)).follow h.sound

def contentAt (t : FileTree) (place : List String) : Except FileError Bytes :=
  match t.node? place with
  | some (.file content) => .ok content
  | some .directory => .error .isDirectory
  | none => .error .notFound

theorem Sited.read (h : Sited root t) (small : pathSize (place root job) ≤ maxPath) :
    (t.Blocked (filePlace root job) ∧ t.read (place root job) = .error .notDirectory) ∨
      (¬t.Blocked (filePlace root job) ∧
        t.read (place root job) = contentAt t (filePlace root job)) := by
  rw [FileTree.read, FileTree.locate, if_neg (Nat.not_lt_of_le small)]
  rcases h.follow job with ⟨blocked, led⟩ | ⟨free, led | ⟨led, missing⟩⟩
  · rw [led]
    exact .inl ⟨blocked, rfl⟩
  · rw [led]
    refine .inr ⟨free, ?_⟩
    simp only [bind, Except.bind, contentAt]
    rcases t.node? (filePlace root job) with _ | _ | _ <;> rfl
  · rw [led]
    refine .inr ⟨free, ?_⟩
    rw [contentAt, missing]
    rfl

/-- A load sees the job's own file, and the files that are in the way to it. -/
theorem Sited.load_congr (h : Sited root t) (h' : Sited root t')
    (way : t'.Blocked (filePlace root job) ↔ t.Blocked (filePlace root job))
    (same : t'.node? (filePlace root job) = t.node? (filePlace root job)) :
    load root job t' = load root job t := by
  have read : t'.read (place root job) = t.read (place root job) := by
    by_cases small : pathSize (place root job) ≤ maxPath
    · rcases h.read small with ⟨blocked, read⟩ | ⟨free, read⟩ <;>
        rcases h'.read small with ⟨blocked', read'⟩ | ⟨free', read'⟩
      · rw [read, read']
      · exact absurd (way.mpr blocked) free'
      · exact absurd (way.mp blocked') free
      · rw [read, read', contentAt, same]
        rfl
    · simp only [FileTree.read, FileTree.locate, if_pos (Nat.lt_of_not_le small)]
      rfl
  rw [load, read, load]

/-! ### What calls do to a tree -/

/-- What a call for a job may make of a tree: directories down to the folder of the job are made,
and its file is put there or taken away. -/
structure Reworks (root : List String) (job : String) (t t' : FileTree) : Prop where
  sound : t'.Sound
  nodes (q) : t'.node? q = t.node? q ∨
    (q <+: folderPlace root job ∧ t.node? q = none ∧ t'.node? q = some .directory) ∨
    (q = filePlace root job ∧ t.node? q ≠ some .directory ∧ t'.node? q ≠ some .directory)

theorem length_filePlace (root : List String) (job : String) :
    (filePlace root job).length = (destination [] root).length + 2 := by
  rw [filePlace, folderPlace, List.length_append, List.length_append]
  rfl

theorem length_of_prefix {q : List String} (front : q <+: folderPlace root job) :
    q.length ≤ (destination [] root).length + 1 := by
  have := front.length_le
  rwa [folderPlace, List.length_append] at this

theorem stagingName_ne_fileName (n : Nat) : stagingName n ≠ fileName := by
  intro same
  have chars := congrArg (fun s : String => s.toList.head?) same
  change ((".issue-" ++ String.ofList _ ++ ".tmp").toList).head? = _ at chars
  rw [String.toList_append, String.toList_append, List.append_assoc] at chars
  exact nomatch (show some '.' = some 'i' from chars)

namespace Reworks

theorem refl (sound : t.Sound) : Reworks root job t t := ⟨sound, fun _ => .inl rfl⟩

theorem sited (r : Reworks root job t t') (h : Sited root t) : Sited root t' where
  sound := r.sound
  level := by
    have keeps : t.KeepsDirectories t' := by
      intro q directory
      rcases r.nodes q with same | ⟨-, missing, -⟩ | ⟨-, other, -⟩
      · rw [same, directory]
      · simp [missing] at directory
      · exact absurd directory other
    exact h.level.keep keeps
  spare other := by
    obtain ⟨n, small, free⟩ := h.spare other
    refine ⟨n, small, ?_⟩
    rcases r.nodes (folderPlace root other ++ [stagingName n]) with same | ⟨front, -⟩ | ⟨same, -⟩
    · rw [same, free]
    · have := length_of_prefix front
      simp [folderPlace] at this
    · exact absurd (List.cons.inj (List.append_inj' same rfl).2).1 (stagingName_ne_fileName n)

theorem blocked_iff (r : Reworks root job t t') (other : String) :
    t'.Blocked (filePlace root other) ↔ t.Blocked (filePlace root other) := by
  have files {q name rest} (way : filePlace root other = q ++ name :: rest) (content) :
      t'.node? q = some (.file content) ↔ t.node? q = some (.file content) := by
    rcases r.nodes q with same | ⟨-, missing, directory⟩ | ⟨rfl, -⟩
    · rw [same]
    · simp [missing, directory]
    · have := congrArg List.length way
      rw [List.length_append, length_filePlace, length_filePlace, List.length_cons] at this
      omega
  constructor
  · rintro ⟨q, name, rest, content, way, file⟩
    exact ⟨q, name, rest, content, way, (files way content).mp file⟩
  · rintro ⟨q, name, rest, content, way, file⟩
    exact ⟨q, name, rest, content, way, (files way content).mpr file⟩

theorem load_eq (r : Reworks root job t t') (h : Sited root t)
    (same : t'.node? (filePlace root other) = t.node? (filePlace root other)) :
    load root other t' = load root other t :=
  h.load_congr (r.sited h) (r.blocked_iff other) same

theorem node?_of_ne (r : Reworks root job t t') (ne : filePlace root other ≠ filePlace root job) :
    t'.node? (filePlace root other) = t.node? (filePlace root other) := by
  rcases r.nodes (filePlace root other) with same | ⟨front, -⟩ | ⟨same, -⟩
  · exact same
  · have := length_of_prefix front
    rw [length_filePlace] at this
    omega
  · exact absurd same ne

theorem load_apart (r : Reworks root job t t') (h : Sited root t)
    (apart : Path.mark job.toList ≠ Path.mark other.toList) :
    load root other t' = load root other t :=
  r.load_eq h (r.node?_of_ne (filePlace_ne apart))

end Reworks

theorem Sited.makeDirectories (h : Sited root t) (job : String) :
    Reworks root job t (t.makeDirectories (folder root job)).2 ∧
      (t.makeDirectories (folder root job)).2.node? (filePlace root job) =
        t.node? (filePlace root job) := by
  have along := madeAlong_makeAll (folder root job).reverse t
  rw [List.reverse_reverse] at along
  have grows := (makeDirectories_spec t (folder root job)).1
  have nodes (q) : (t.makeDirectories (folder root job)).2.node? q = t.node? q ∨
      (q <+: folderPlace root job ∧ t.node? q = none ∧
        (t.makeDirectories (folder root job)).2.node? q = some .directory) := by
    rcases grows q with same | ⟨missing, made⟩
    · exact .inl same
    · rcases along.only q with same | ⟨front, short, rfl⟩
      · exact .inl same
      · refine .inr ⟨?_, missing, made⟩
        rw [← destination_folder]
        exact (h.level.append (plain_component job)).front_of_missing short missing
  refine ⟨⟨along.sound h.sound, fun q => (nodes q).imp_right .inl⟩, ?_⟩
  refine (nodes _).resolve_right fun ⟨front, _⟩ => ?_
  have := length_of_prefix front
  rw [length_filePlace] at this
  omega

/-- Whatever comes of a write, it reworks the tree for its job; if it fails, the job's file is as it
was. -/
theorem Sited.reworks_write (h : Sited root t) (job : String) (content : Bytes)
    (room : Option Nat) :
    Reworks root job t (write root job content t room).2 ∧
      ∀ f, (write root job content t room).1 = .error f →
        (write root job content t room).2.node? (filePlace root job) =
          t.node? (filePlace root job) := by
  obtain ⟨made, own⟩ := h.makeDirectories job
  have folders := (makeDirectories_spec t (folder root job)).2
  unfold Directory.write
  split
  · exact ⟨.refl h.sound, fun _ _ => rfl⟩
  split
  · rename_i heq
    rw [heq] at made own
    exact ⟨made, fun _ _ => own⟩
  rename_i t₁ heq
  rw [heq] at made own folders
  split
  · exact ⟨made, fun _ _ => own⟩
  rename_i staged t₂ hstage
  obtain ⟨fresh, rfl, -⟩ := stage_ok hstage
  -- Without the staged file, whatever is in it, there are only folders that are new.
  have unstaged (part : Bytes) :
      Reworks root job t ((t₁.put staged (.file part)).erase staged) ∧
        ((t₁.put staged (.file part)).erase staged).node? (filePlace root job) =
          t.node? (filePlace root job) := by
    have same := node?_unstaged fresh (.file part)
    refine ⟨⟨made.sound.congr same, fun q => ?_⟩, (same _).trans own⟩
    rw [same]
    exact made.nodes q
  obtain ⟨part, put, whole⟩ := fill_put t₁ staged (.file []) content room
  split
  · rename_i hfill
    rw [hfill] at put
    obtain rfl := put
    exact ⟨(unstaged part).1, fun _ _ => (unstaged part).2⟩
  rename_i hfill
  rw [hfill] at put whole
  obtain rfl := put
  obtain rfl := whole rfl
  split
  · rename_i t₃ hrename
    obtain ⟨target, located, file, keeps, moved⟩ := rename_staged fresh hrename
    obtain rfl := eq_filePlace located
    obtain ⟨place, located, directory⟩ := folders rfl
    obtain rfl := eq_folderPlace located
    have free : t₁.node? (filePlace root job) ≠ some .directory := by
      intro directory
      simp [keeps _ directory] at file
    have sound : (t₁.put (filePlace root job) (.file part)).Sound :=
      made.sound.put (.inr ⟨_, _, rfl, directory⟩) free _
    refine ⟨⟨sound.congr fun q => ?_, fun q => ?_⟩, nofun⟩
    · by_cases same : q = filePlace root job
      · rw [same, file, node?_put_self]
      · rw [moved q same, node?_put_of_ne same]
    · by_cases same : q = filePlace root job
      · rw [same, ← own, file]
        exact .inr (.inr ⟨rfl, free, nofun⟩)
      · rw [moved q same]
        exact made.nodes q
  · exact ⟨(unstaged part).1, fun _ _ => (unstaged part).2⟩

theorem Sited.reworks_clear (h : Sited root t) (job : String) :
    Reworks root job t (clear root job t).2 ∧
      ∀ f, (clear root job t).1 = .error f → (clear root job t).2 = t := by
  unfold Directory.clear
  split
  · exact ⟨.refl h.sound, fun _ _ => rfl⟩
  split
  · rename_i t' removed
    obtain ⟨q, content, located, file, rfl⟩ := remove_ok removed
    obtain rfl := eq_filePlace located
    refine ⟨⟨h.sound.erase file, fun q => ?_⟩, nofun⟩
    by_cases same : q = filePlace root job
    · rw [same, file, node?_erase_self]
      exact .inr (.inr ⟨rfl, nofun, nofun⟩)
    · exact .inl (node?_erase_of_ne same t)
  · exact ⟨.refl h.sound, fun _ _ => rfl⟩
  · exact ⟨.refl h.sound, fun _ _ => rfl⟩

theorem Sited.reworks_save (h : Sited root t) (job : String) (key : Option String)
    (build : Option Int) (room : Option Nat) :
    Reworks root job t (save root job key build t room).2 ∧
      ∀ f, (save root job key build t room).1 = .error f →
        (save root job key build t room).2.node? (filePlace root job) =
          t.node? (filePlace root job) := by
  unfold Directory.save
  split
  · exact h.reworks_write job _ room
  · exact ⟨.refl h.sound, fun _ _ => rfl⟩

theorem Sited.reworks (h : Sited root t) (job : String) (w : Write) (room : Option Nat) :
    Reworks root job t ((directory root room).write job w t).2 ∧
      ∀ f, ((directory root room).write job w t).1 = .error f →
        ((directory root room).write job w t).2.node? (filePlace root job) =
          t.node? (filePlace root job) := by
  cases w with
  | save key build => exact h.reworks_save job key build room
  | clear =>
    obtain ⟨reworks, failed⟩ := h.reworks_clear job
    exact ⟨reworks, fun f failure =>
      congrArg (FileTree.node? · (filePlace root job)) (failed f failure)⟩
  | markBuild build =>
    change Reworks root job t (markBuild root job build t room).2 ∧ ∀ f,
      (markBuild root job build t room).1 = .error f →
        (markBuild root job build t room).2.node? _ = _
    unfold Directory.markBuild
    split
    · exact ⟨.refl h.sound, fun _ _ => rfl⟩
    · exact ⟨.refl h.sound, fun _ _ => rfl⟩
    · exact h.reworks_save job _ build room

end Directory

end TicketKeeper.Store
