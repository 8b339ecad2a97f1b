import TicketKeeper.Proofs.Store.Sited

/-! What becomes of the calls on a sited directory. It depends on the root, the job and the job's
own file, and on nothing else in the tree. -/
namespace TicketKeeper.Store.Directory

open TicketKeeper.Text FileTree

variable {root : List String} {job : String} {t t' : FileTree}

theorem Sited.size_freshName (h : Sited root t) (job : String) :
    (t.freshName (folderPlace root job)).utf8ByteSize = 19 := by
  obtain ⟨n, small, free⟩ := h.spare job
  rw [freshName, List.find?_map]
  cases found : (List.range (t.entries.length + 1)).find?
      ((fun name => (t.node? (folderPlace root job ++ [name])).isNone) ∘ stagingName) with
  | none => exact utf8ByteSize_stagingName_eq (by decide)
  | some i =>
    -- The first name that is free comes no later than the one that is known to be.
    obtain ⟨-, -, first⟩ := List.find?_range_eq_some.mp found
    have early : i ≤ n := by
      by_contra late
      have taken := first n (Nat.lt_of_not_le late)
      simp [free] at taken
    exact utf8ByteSize_stagingName_eq (by omega)

/-- The issue file of a job can be read, or there is none yet and nothing is in the way to it. -/
structure Reachable (root : List String) (t : FileTree) (job : String) : Prop where
  named : isPath root = true
  small : pathSize (place root job) ≤ maxPath
  free : ¬t.Blocked (filePlace root job)
  file : t.node? (filePlace root job) ≠ some .directory

theorem Sited.reachable (h : Sited root t) {r : Option Record} (loaded : load root job t = .ok r) :
    Reachable root t job := by
  have named : isPath root = true := by
    by_contra unnamed
    rw [load, if_pos (by simpa using unnamed)] at loaded
    cases loaded
  have small : pathSize (place root job) ≤ maxPath := by
    by_contra long
    have failed : t.read (place root job) = .error .nameTooLong := by
      rw [FileTree.read, FileTree.locate, if_pos (Nat.lt_of_not_le long)]
      rfl
    cases eq_notFound_of_load loaded failed
  rcases h.read small with ⟨-, failed⟩ | ⟨free, read⟩
  · cases eq_notFound_of_load loaded failed
  · refine ⟨named, small, free, fun directory => ?_⟩
    rw [contentAt, directory] at read
    cases eq_notFound_of_load loaded read

namespace Reachable

variable {r : Option Record}

theorem makeDirectories (h : Sited root t) (reach : Reachable root t job) :
    (t.makeDirectories (folder root job)).1 = .ok () := by
  have small := reach.small
  rw [place, pathSize_append] at small
  have free := reach.free
  rw [filePlace, blocked_concat, not_or, not_exists, ← destination_folder] at free
  rw [FileTree.makeDirectories]
  apply makeAll_ok h.sound
  all_goals rw [List.reverse_reverse]
  · exact h.level.append (plain_component job)
  · exact (Nat.le_add_right _ _).trans small
  · exact free.1
  · exact free.2

/-- A write comes off if the path of the staged file is not too long and the disk has room for it,
whatever else is in the tree. -/
theorem write_eq (h : Sited root t) (reach : Reachable root t job) (content : Bytes)
    (room : Option Nat) :
    (write root job content t room).1 = if pathSize (folderPlace root job) + 20 ≤ maxPath ∧
        room.all (content.length ≤ ·) = true then .ok ()
      else .error (failed .write job) := by
  obtain ⟨reworks, own⟩ := h.makeDirectories job
  have folders := (makeDirectories_spec t (folder root job)).2
  have made := reach.makeDirectories h
  rw [write, reach.named]
  generalize t.makeDirectories (folder root job) = out at reworks own folders made ⊢
  obtain ⟨_, t₁⟩ := out
  obtain rfl : _ = Except.ok () := made
  obtain ⟨place, located, directory⟩ := folders rfl
  obtain rfl := eq_folderPlace located
  have size : pathSize (folderPlace root job ++ [t₁.freshName (folderPlace root job)]) =
      pathSize (folderPlace root job) + 20 := by
    rw [pathSize_append, pathSize, pathSize, (reworks.sited h).size_freshName job]
  have clear : t₁.node? (filePlace root job) ≠ some .directory := by
    rw [own]
    exact reach.file
  simp only [Bool.not_true, Bool.false_eq_true, if_false, stage, located, bind, Except.bind, size]
  by_cases fits : pathSize (folderPlace root job) + 20 ≤ maxPath
  · rw [if_neg (Nat.not_lt_of_le fits)]
    simp only [pure, Except.pure]
    cases roomy : room.all (content.length ≤ ·) with
    | true =>
      obtain ⟨t₂, renamed⟩ := rename_staged_ok (node?_freshName t₁ (folderPlace root job))
        (locate_place located reach.small directory) clear content
      rw [fill_of_roomy roomy, put_put, if_pos ⟨fits, rfl⟩]
      simp only [renamed]
    | false =>
      obtain ⟨t₂, filled⟩ := fill_of_not_roomy roomy
        (t₁.put (folderPlace root job ++ [t₁.freshName (folderPlace root job)]) (.file []))
        (folderPlace root job ++ [t₁.freshName (folderPlace root job)])
      rw [filled, if_neg fun both => Bool.false_ne_true both.2]
  · rw [if_pos (Nat.lt_of_not_le fits), if_neg fun both => fits both.1]
    rfl

theorem clear_ok (h : Sited root t) (reach : Reachable root t job) :
    (clear root job t).1 = .ok () := by
  rw [Directory.clear, reach.named, FileTree.remove, FileTree.locate,
    if_neg (Nat.not_lt_of_le reach.small)]
  rcases h.follow job with ⟨blocked, -⟩ | ⟨-, led | ⟨led, -⟩⟩
  · exact absurd blocked reach.free
  · simp only [led, bind, Except.bind]
    cases found : t.node? (filePlace root job) with
    | none => rfl
    | some node =>
      cases node with
      | file => rfl
      | directory => exact absurd found reach.file
  · rw [led]
    rfl

end Reachable

section Alike

variable {r : Option Record} (h : Sited root t) (h' : Sited root t')
  (loaded : load root job t = .ok r) (loaded' : load root job t' = .ok r)

include h h' loaded loaded'

theorem Sited.save_alike (key : Option String) (build : Option Int) :
    (save root job key build t).1 = (save root job key build t').1 ∧
      ∃ r', load root job (save root job key build t).2 = .ok r' ∧
        load root job (save root job key build t').2 = .ok r' := by
  obtain ⟨reworks, failed⟩ := h.reworks_save job key build none
  obtain ⟨reworks', failed'⟩ := h'.reworks_save job key build none
  have same : (save root job key build t).1 = (save root job key build t').1 := by
    unfold Directory.save
    split
    · rw [(h.reachable loaded).write_eq h, (h'.reachable loaded').write_eq h']
    · rfl
  refine ⟨same, ?_⟩
  cases result : (save root job key build t).1 with
  | ok =>
    have result' := same.symm.trans result
    obtain ⟨-, saved⟩ := save_eq result
    obtain ⟨-, saved'⟩ := save_eq result'
    rw [saved] at result ⊢
    rw [saved'] at result' ⊢
    exact ⟨_, load_write result, load_write result'⟩
  | error f =>
    have own := reworks.load_eq h (failed f result)
    have own' := reworks'.load_eq h' (failed' f (same.symm.trans result))
    exact ⟨r, own.trans loaded, own'.trans loaded'⟩

/-- What comes of a write depends on the root, the job and its record. -/
theorem Sited.write_alike (w : Write) :
    ((directory root).write job w t).1 = ((directory root).write job w t').1 ∧
      ∃ r', load root job ((directory root).write job w t).2 = .ok r' ∧
        load root job ((directory root).write job w t').2 = .ok r' := by
  cases w with
  | save key build => exact h.save_alike h' loaded loaded' key build
  | markBuild build =>
    change (markBuild root job build t).1 = (markBuild root job build t').1 ∧
      ∃ r', load root job (markBuild root job build t).2 = .ok r' ∧
        load root job (markBuild root job build t').2 = .ok r'
    rw [Directory.markBuild, Directory.markBuild, loaded, loaded']
    cases r with
    | none => exact ⟨rfl, none, loaded, loaded'⟩
    | some r => exact h.save_alike h' loaded loaded' (some r.key) build
  | clear =>
    have cleared := (h.reachable loaded).clear_ok h
    have cleared' := (h'.reachable loaded').clear_ok h'
    exact ⟨cleared.trans cleared'.symm, none, load_clear cleared, load_clear cleared'⟩

end Alike

end TicketKeeper.Store.Directory
