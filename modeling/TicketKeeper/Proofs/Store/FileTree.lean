import Mathlib.Data.List.Nodup
import Mathlib.Data.List.Perm.Subperm
import TicketKeeper.Store.FileTree

/-! What the operations on a tree leave as it was. Directories are made but never taken away, so a
path that leads somewhere goes on leading there; and a staged file has a name that nothing had. -/
namespace TicketKeeper.Store.FileTree

variable {t t' t'' : FileTree} {path here place : List String}

@[simp] theorem node?_erase_self (t : FileTree) (path : List String) :
    (t.erase path).node? path = none := by
  rw [node?, erase, List.lookup_eq_none_iff]
  intro e he
  have hne : e.1 ≠ path := by simpa using (List.mem_filter.mp he).2
  exact bne_iff_ne.mpr hne.symm

theorem node?_erase_of_ne {other : List String} (h : other ≠ path) (t : FileTree) :
    (t.erase path).node? other = t.node? other := by
  simp only [node?, erase]
  induction t.entries with
  | nil => rfl
  | cons e r ih =>
    by_cases he : e.1 = path
    · have skip : (other == e.1) = false := by simpa [he] using h
      rw [List.filter_cons_of_neg (by simpa using he), ih, List.lookup_cons, skip]
    · rw [List.filter_cons_of_pos (by simpa using he), List.lookup_cons, List.lookup_cons, ih]

def KeepsDirectories (t t' : FileTree) : Prop :=
  ∀ q, t.node? q = some .directory → t'.node? q = some .directory

/-- Directories have been made, and nothing else has changed. -/
def GrowsTo (t t' : FileTree) : Prop :=
  ∀ q, t'.node? q = t.node? q ∨ t.node? q = none ∧ t'.node? q = some .directory

theorem KeepsDirectories.trans (h : t.KeepsDirectories t') (h' : t'.KeepsDirectories t'') :
    t.KeepsDirectories t'' := fun q hq => h' q (h q hq)

namespace GrowsTo

theorem refl (t : FileTree) : t.GrowsTo t := fun _ => .inl rfl

theorem trans (h : t.GrowsTo t') (h' : t'.GrowsTo t'') : t.GrowsTo t'' := by
  intro q
  rcases h q with h | ⟨h, hd⟩ <;> rcases h' q with h' | ⟨h', hd'⟩
  · exact .inl (h'.trans h)
  · exact .inr ⟨h ▸ h', hd'⟩
  · exact .inr ⟨h, h'.trans hd⟩
  · exact .inr ⟨h, hd'⟩

theorem keepsDirectories (h : t.GrowsTo t') : t.KeepsDirectories t' := by
  intro q hq
  rcases h q with h | ⟨h, -⟩
  · exact h.trans hq
  · rw [hq] at h
    contradiction

theorem file_iff (h : t.GrowsTo t') (q : List String) (content : Text.Bytes) :
    t'.node? q = some (.file content) ↔ t.node? q = some (.file content) := by
  rcases h q with h | ⟨h, hd⟩
  · rw [h]
  · simp [h, hd]

theorem put_directory (h : t.node? path = none) : t.GrowsTo (t.put path .directory) := by
  intro q
  by_cases hq : q = path
  · subst hq
    exact .inr ⟨h, node?_put_self t q .directory⟩
  · exact .inl (node?_put_of_ne hq t .directory)

end GrowsTo

/-! ### Following a path -/

/-- Where a path leads when everything on its way is a directory. -/
def destination (here path : List String) : List String :=
  path.foldl (fun here name => if name = ".." then here.dropLast else here ++ [name]) here

theorem follow_append (t : FileTree) (here a b : List String) :
    t.follow here (a ++ b) = (t.follow here a).bind (t.follow · b) := by
  induction a generalizing here with
  | nil => rfl
  | cons name r ih =>
    simp only [List.cons_append, follow]
    split
    · split
      · rfl
      · exact ih _
    · rfl
    · rfl

theorem eq_destination_of_follow (h : t.follow here path = .ok place) :
    place = destination here path := by
  induction path generalizing here with
  | nil => exact (Except.ok.inj h).symm
  | cons name r ih =>
    simp only [follow] at h
    split at h
    · split at h
      · contradiction
      · exact ih h
    · contradiction
    · contradiction

theorem KeepsDirectories.follow (keeps : t.KeepsDirectories t')
    (h : t.follow here path = .ok place) : t'.follow here path = .ok place := by
  induction path generalizing here with
  | nil => exact h
  | cons name r ih =>
    simp only [FileTree.follow] at h ⊢
    split at h
    · rename_i hdir
      rw [keeps _ hdir]
      dsimp only
      split at h
      · contradiction
      · rename_i hname
        rw [if_neg hname]
        exact ih h
    · contradiction
    · contradiction

theorem locate_ok_iff : t.locate path = .ok place ↔
    pathSize path ≤ maxPath ∧ t.follow [] path = .ok place := by
  unfold locate
  split
  · rename_i h
    simp [Nat.not_le_of_lt h]
  · rename_i h
    simp [Nat.le_of_not_lt h]

theorem KeepsDirectories.locate (keeps : t.KeepsDirectories t') (h : t.locate path = .ok place) :
    t'.locate path = .ok place := by
  rw [locate_ok_iff] at h ⊢
  exact ⟨h.1, keeps.follow h.2⟩

def HasDirectory (t : FileTree) (path : List String) : Prop :=
  ∃ place, t.locate path = .ok place ∧ t.node? place = some .directory

theorem KeepsDirectories.hasDirectory (keeps : t.KeepsDirectories t') (h : t.HasDirectory path) :
    t'.HasDirectory path := by
  obtain ⟨place, located, hdir⟩ := h
  exact ⟨place, keeps.locate located, keeps _ hdir⟩

theorem makeDirectory_ok (h : t.makeDirectory path = .ok t') :
    t.GrowsTo t' ∧ t'.HasDirectory path := by
  simp only [makeDirectory, bind, Except.bind] at h
  split at h
  · contradiction
  · rename_i place located
    split at h
    · rename_i hdir
      obtain rfl := Except.ok.inj h
      exact ⟨.refl t, place, located, hdir⟩
    · contradiction
    · rename_i hnone
      obtain rfl := Except.ok.inj h
      have grows := GrowsTo.put_directory hnone
      exact ⟨grows, place, grows.keepsDirectories.locate located, node?_put_self t place .directory⟩

theorem makeAll_spec (names : List String) (t : FileTree) :
    t.GrowsTo (makeAll names t).2 ∧
      ((makeAll names t).1 = .ok () → (makeAll names t).2.HasDirectory names.reverse) := by
  induction names generalizing t with
  | nil =>
    unfold makeAll
    split
    · rename_i made
      exact ⟨(makeDirectory_ok made).1, fun _ => (makeDirectory_ok made).2⟩
    · exact ⟨.refl t, fun h => nomatch h⟩
  | cons name parent ih =>
    unfold makeAll
    dsimp only
    split
    · rename_i made
      exact ⟨(makeDirectory_ok made).1, fun _ => (makeDirectory_ok made).2⟩
    · have above := ih t
      split
      · rename_i hparent
        rw [hparent] at above
        split
        · rename_i made
          have own := makeDirectory_ok made
          exact ⟨above.1.trans own.1, fun _ => own.2⟩
        · exact ⟨above.1, fun h => nomatch h⟩
      · rename_i hfailed
        refine ⟨above.1, fun h => (hfailed (makeAll parent t).2 ?_).elim⟩
        rw [← h]
    · exact ⟨.refl t, fun h => nomatch h⟩

theorem makeDirectories_spec (t : FileTree) (path : List String) :
    t.GrowsTo (t.makeDirectories path).2 ∧
      ((t.makeDirectories path).1 = .ok () → (t.makeDirectories path).2.HasDirectory path) := by
  simpa [makeDirectories] using makeAll_spec path.reverse t

/-! ### Staging -/

theorem stagingName_injective : Function.Injective stagingName := by
  intro n m h
  have text (n : Nat) : (stagingName n).toList = ".issue-".toList ++
      (List.replicate (8 - (toString n).toList.length) '0' ++ (toString n).toList) ++
      ".tmp".toList := by
    change (".issue-" ++ String.ofList _ ++ ".tmp").toList = _
    simp only [String.toList_append, String.toList_ofList]
  have digits := congrArg String.toList h
  rw [text, text, List.append_left_inj, List.append_right_inj] at digits
  have value := congrArg (Nat.ofDigitChars 10 · 0) digits
  simpa [Nat.ofDigitChars_append, Nat.toString_eq_ofList_toDigits] using value

theorem mem_entries_of_node? {q : List String} (h : t.node? q ≠ none) :
    q ∈ t.entries.map Prod.fst := by
  by_contra hq
  refine h (List.lookup_eq_none_iff.mpr fun e he => ?_)
  apply bne_iff_ne.mpr
  rintro rfl
  exact hq (List.mem_map_of_mem he)

/-- There are more candidates than entries, so one of them is free. -/
theorem node?_freshName (t : FileTree) (directory : List String) :
    t.node? (directory ++ [t.freshName directory]) = none := by
  let candidates := (List.range (t.entries.length + 1)).map stagingName
  let free (name : String) : Bool := (t.node? (directory ++ [name])).isNone
  cases found : candidates.find? free with
  | some name =>
    have : t.freshName directory = name := congrArg (·.getD (stagingName 0)) found
    rw [this]
    simpa [free] using List.find?_some found
  | none =>
    exfalso
    let places := candidates.map fun name => directory ++ [name]
    have distinct : places.Nodup := by
      refine List.Nodup.map (fun a b h => ?_) (List.nodup_range.map stagingName_injective)
      simpa using h
    have taken : places ⊆ t.entries.map Prod.fst := by
      intro q hq
      obtain ⟨name, hname, rfl⟩ := List.mem_map.mp hq
      refine mem_entries_of_node? fun hnone => ?_
      have := List.find?_eq_none.mp found name hname
      simp [free, hnone] at this
    have short := (distinct.subperm taken).length_le
    simp only [places, candidates, List.length_map, List.length_range] at short
    omega

theorem stage_ok {staged : List String} (h : t.stage path = .ok (staged, t')) :
    t.node? staged = none ∧ t' = t.put staged (.file []) ∧
      ∃ place name, t.locate path = .ok place ∧ staged = place ++ [name] := by
  simp only [stage, bind, Except.bind] at h
  split at h
  · contradiction
  · rename_i place located
    split at h
    · contradiction
    · obtain ⟨rfl, rfl⟩ := Prod.mk.inj (Except.ok.inj h)
      exact ⟨node?_freshName t place, rfl, place, _, located, rfl⟩

theorem put_put (t : FileTree) (path : List String) (n n' : Node) :
    (t.put path n).put path n' = t.put path n' := by
  simp only [put]
  congr 1
  fun_induction putEntry path n t.entries <;> grind [putEntry]

/-- A part of the content is in the file in any case, and all of it if there is room. -/
theorem fill_put (t : FileTree) (place : List String) (n : Node) (content : Text.Bytes)
    (room : Option Nat) : ∃ part, ((t.put place n).fill place content room).2 =
      t.put place (.file part) ∧
      (((t.put place n).fill place content room).1 = .ok () → part = content) := by
  unfold fill
  split
  · exact ⟨_, put_put .., nofun⟩
  · exact ⟨_, put_put .., fun _ => rfl⟩

theorem fill_of_roomy {content : Text.Bytes} {room : Option Nat}
    (roomy : room.all (content.length ≤ ·) = true) (t : FileTree) (place : List String) :
    t.fill place content room = (.ok (), t.put place (.file content)) := by
  cases room with
  | none => rfl
  | some n =>
    have enough : ¬n < content.length := Nat.not_lt_of_le (of_decide_eq_true roomy)
    rw [fill, Option.filter_some_neg (by simpa using enough)]

theorem fill_of_not_roomy {content : Text.Bytes} {room : Option Nat}
    (full : room.all (content.length ≤ ·) = false) (t : FileTree) (place : List String) :
    ∃ t', t.fill place content room = (.error .noSpace, t') := by
  cases room with
  | none => cases full
  | some n =>
    have short : n < content.length := Nat.lt_of_not_le (of_decide_eq_false full)
    rw [fill, Option.filter_some_pos (by simpa using short)]
    exact ⟨_, rfl⟩

theorem rename_ok {source : List String} (h : t.rename source path = .ok t') :
    ∃ target n, t.locate path = .ok target ∧ t.node? source = some n ∧
      t.node? target ≠ some .directory ∧ t' = (t.erase source).put target n := by
  simp only [rename, bind, Except.bind] at h
  split at h
  · contradiction
  · rename_i target located
    split at h
    · contradiction
    · contradiction
    · rename_i n hn hdir
      exact ⟨target, n, located, hn, hdir, (Except.ok.inj h).symm⟩

/-- Without the staged file the tree is the one before. -/
theorem node?_unstaged {staged : List String} (fresh : t.node? staged = none) (n : Node)
    (p : List String) : ((t.put staged n).erase staged).node? p = t.node? p := by
  by_cases hp : p = staged
  · rw [hp, node?_erase_self, fresh]
  · rw [node?_erase_of_ne hp, node?_put_of_ne hp]

theorem rename_staged {staged : List String} {content : Text.Bytes} (fresh : t.node? staged = none)
    (h : (t.put staged (.file content)).rename staged path = .ok t') :
    ∃ target, t'.locate path = .ok target ∧ t'.node? target = some (.file content) ∧
      t.KeepsDirectories t' ∧ ∀ p, p ≠ target → t'.node? p = t.node? p := by
  obtain ⟨target, n, located, hn, hdir, rfl⟩ := rename_ok h
  obtain rfl : Node.file content = n := by simpa [node?_put_self] using hn
  have moved (p : List String) (hp : p ≠ target) :
      (((t.put staged (.file content)).erase staged).put target (.file content)).node? p =
        t.node? p := by
    rw [node?_put_of_ne hp, node?_unstaged fresh]
  have keeps : t.KeepsDirectories
      (((t.put staged (.file content)).erase staged).put target (.file content)) := by
    intro p hp
    rw [moved p, hp]
    rintro rfl
    apply hdir
    rw [node?_put_of_ne, hp]
    rintro rfl
    simp [fresh] at hp
  have back : (t.put staged (.file content)).KeepsDirectories t := by
    intro p hp
    rwa [node?_put_of_ne] at hp
    rintro rfl
    simp [node?_put_self] at hp
  exact ⟨target, (back.trans keeps).locate located, node?_put_self .., keeps, moved⟩

end TicketKeeper.Store.FileTree
