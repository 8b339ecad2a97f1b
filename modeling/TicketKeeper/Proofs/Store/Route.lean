import Mathlib.Data.List.Infix
import TicketKeeper.Proofs.Number.Numeral
import TicketKeeper.Proofs.Store.Healthy

/-! Paths that lead downwards in a sound tree. Such a path leads to its place unless a file is in
the way or a directory is missing, and the missing directories can be made. -/
namespace TicketKeeper.Store

namespace FileTree

variable {t t' : FileTree} {path here place : List String} {name : String}

/-- Names that lead downwards, none of them too long. -/
def Plain (path : List String) : Prop :=
  ∀ name ∈ path, name ≠ ".." ∧ name.utf8ByteSize ≤ maxName

instance (path : List String) : Decidable (Plain path) :=
  inferInstanceAs (Decidable (∀ name ∈ path, name ≠ ".." ∧ name.utf8ByteSize ≤ maxName))

def Blocked (t : FileTree) (place : List String) : Prop :=
  ∃ q name rest content, place = q ++ name :: rest ∧ t.node? q = some (.file content)

theorem destination_append (here a b : List String) :
    destination here (a ++ b) = destination (destination here a) b := List.foldl_append

theorem destination_of_plain (plain : Plain path) (here : List String) :
    destination here path = here ++ path := by
  induction path generalizing here with
  | nil => exact (List.append_nil here).symm
  | cons name r ih =>
    have down := (plain name List.mem_cons_self).1
    rw [destination, List.foldl_cons, if_neg down, ← destination,
      ih fun other h => plain other (List.mem_cons_of_mem _ h), List.append_assoc]
    rfl

theorem Blocked.append (h : t.Blocked place) (more : List String) : t.Blocked (place ++ more) := by
  obtain ⟨q, name, rest, content, rfl, file⟩ := h
  exact ⟨q, name, rest ++ more, content, by simp, file⟩

theorem blocked_concat : t.Blocked (place ++ [name]) ↔
    t.Blocked place ∨ ∃ content, t.node? place = some (.file content) := by
  constructor
  · rintro ⟨q, name', rest, content, same, file⟩
    rcases List.eq_nil_or_concat rest with rfl | ⟨rest, last, rfl⟩
    · obtain ⟨rfl, -⟩ := List.append_inj' same rfl
      exact .inr ⟨content, file⟩
    · rw [List.concat_eq_append, ← List.cons_append, ← List.append_assoc] at same
      obtain ⟨rfl, -⟩ := List.append_inj' same rfl
      exact .inl ⟨q, name', rest, content, rfl, file⟩
  · rintro (blocked | ⟨content, file⟩)
    · exact blocked.append _
    · exact ⟨place, name, [], content, rfl, file⟩

namespace Sound

theorem directory_of_stands (sound : t.Sound) {rest : List String}
    (stands : t.node? (place ++ name :: rest) ≠ none) : t.node? place = some .directory := by
  induction rest using List.reverseRecOn with
  | nil => exact sound place name stands
  | append_singleton rest last ih =>
    apply ih
    rw [← List.cons_append, ← List.append_assoc] at stands
    simp [sound _ last stands]

theorem not_blocked (sound : t.Sound) (stands : t.node? place ≠ none) : ¬t.Blocked place := by
  rintro ⟨q, name, rest, content, rfl, file⟩
  rw [sound.directory_of_stands stands] at file
  cases file

theorem congr (sound : t.Sound) (same : ∀ q, t'.node? q = t.node? q) : t'.Sound := by
  intro path name stands
  rw [same] at stands ⊢
  exact sound path name stands

theorem put (sound : t.Sound)
    (within : place = [] ∨ ∃ parent name, place = parent ++ [name] ∧ t.node? parent = some .directory)
    (free : t.node? place ≠ some .directory) (n : Node) : (t.put place n).Sound := by
  intro path name stands
  have above : t.node? path = some .directory := by
    by_cases same : path ++ [name] = place
    · obtain rfl | ⟨parent, last, rfl, directory⟩ := within
      · simp at same
      · obtain ⟨rfl, -⟩ := List.append_inj' same rfl
        exact directory
    · rw [node?_put_of_ne same] at stands
      exact sound path name stands
  rw [node?_put_of_ne, above]
  rintro rfl
  exact free above

theorem follow (sound : t.Sound) (led : t.follow here path = .ok place) :
    (path = [] ∧ place = here) ∨ t.node? place = some .directory ∨
      ∃ parent name, place = parent ++ [name] ∧ t.node? parent = some .directory := by
  induction path generalizing here with
  | nil => exact .inl ⟨rfl, (Except.ok.inj led).symm⟩
  | cons name r ih =>
    simp only [FileTree.follow] at led
    split at led
    · rename_i directory
      split at led
      · cases led
      rcases ih led with ⟨rfl, rfl⟩ | onward
      · split
        · rcases List.eq_nil_or_concat here with rfl | ⟨parent, last, rfl⟩
          · exact .inr (.inl directory)
          · rw [List.concat_eq_append] at directory ⊢
            rw [List.dropLast_concat]
            exact .inr (.inl (sound _ last (by simp [directory])))
        · exact .inr (.inr ⟨here, name, rfl, directory⟩)
      · exact .inr onward
    · cases led
    · cases led

theorem missing_below (sound : t.Sound) (missing : t.node? here = none) (path : List String) :
    t.node? (here ++ path) = none := by
  cases path with
  | nil => rwa [List.append_nil]
  | cons name rest =>
    by_contra stands
    rw [sound.directory_of_stands stands] at missing
    cases missing

/-- Downwards a path leads to its place, unless a file is in the way or a directory is missing; in
a missing directory nothing stands. -/
theorem follow_plain (sound : t.Sound) (plain : Plain path) (free : ¬t.Blocked here) :
    (t.Blocked (here ++ path) ∧ t.follow here path = .error .notDirectory) ∨
      (¬t.Blocked (here ++ path) ∧ (t.follow here path = .ok (here ++ path) ∨
        t.follow here path = .error .notFound ∧ t.node? (here ++ path) = none)) := by
  induction path generalizing here with
  | nil =>
    rw [List.append_nil]
    exact .inr ⟨free, .inl rfl⟩
  | cons name r ih =>
    obtain ⟨down, short⟩ := plain name List.mem_cons_self
    have plain : Plain r := fun other h => plain other (List.mem_cons_of_mem _ h)
    cases found : t.node? here with
    | none =>
      have unblocked (more : List String) : ¬t.Blocked (here ++ more) := by
        induction more using List.reverseRecOn with
        | nil => rwa [List.append_nil]
        | append_singleton more last ih' =>
          rw [← List.append_assoc, blocked_concat]
          simp [ih', sound.missing_below found]
      exact .inr ⟨unblocked _, .inr
        ⟨by simp only [FileTree.follow, found], sound.missing_below found _⟩⟩
    | some node =>
      cases node with
      | file content =>
        exact .inl ⟨⟨here, name, r, content, rfl, found⟩, by simp only [FileTree.follow, found]⟩
      | directory =>
        have free : ¬t.Blocked (here ++ [name]) := by
          rw [blocked_concat]
          simp [free, found]
        have step : t.follow here (name :: r) = t.follow (here ++ [name]) r := by
          simp only [FileTree.follow, found, if_neg (Nat.not_lt_of_le short), if_neg down]
        rw [step, List.append_cons]
        exact ih plain free

end Sound

/-! ### Directories that are made -/

/-- Directories have been made on the way along a path, and nowhere else. -/
structure MadeAlong (path : List String) (t t' : FileTree) : Prop where
  sound : t.Sound → t'.Sound
  only (q) : t'.node? q = t.node? q ∨ ∃ front, front <+: path ∧ q = destination [] front

namespace MadeAlong

theorem refl (path : List String) (t : FileTree) : MadeAlong path t t := ⟨id, fun _ => .inl rfl⟩

theorem trans {t'' : FileTree} (h : MadeAlong path t t') (h' : MadeAlong path t' t'') :
    MadeAlong path t t'' where
  sound sound := h'.sound (h.sound sound)
  only q := by
    rcases h'.only q with same | made
    · rw [same]
      exact h.only q
    · exact .inr made

theorem longer (h : MadeAlong path t t') (more : List String) : MadeAlong (path ++ more) t t' where
  sound := h.sound
  only q := (h.only q).imp_right fun ⟨front, short, same⟩ =>
    ⟨front, short.trans (List.prefix_append _ _), same⟩

end MadeAlong

theorem madeAlong_of_makeDirectory (made : t.makeDirectory path = .ok t') : MadeAlong path t t' := by
  simp only [makeDirectory, bind, Except.bind] at made
  split at made
  · cases made
  rename_i place located
  have led := (locate_ok_iff.mp located).2
  split at made
  · cases made
    exact .refl path t
  · cases made
  · rename_i missing
    cases made
    refine ⟨fun sound => sound.put ?_ (by simp [missing]) .directory, fun q => ?_⟩
    · rcases sound.follow led with ⟨-, rfl⟩ | directory | within
      · exact .inl rfl
      · simp [missing] at directory
      · exact .inr within
    · by_cases same : q = place
      · exact .inr ⟨path, List.prefix_rfl, same.trans (eq_destination_of_follow led)⟩
      · exact .inl (node?_put_of_ne same t .directory)

theorem madeAlong_makeAll (names : List String) (t : FileTree) :
    MadeAlong names.reverse t (makeAll names t).2 := by
  induction names generalizing t with
  | nil =>
    unfold makeAll
    split
    · exact madeAlong_of_makeDirectory ‹_›
    · exact .refl ..
  | cons name parent ih =>
    have above : MadeAlong (name :: parent).reverse t (makeAll parent t).2 := by
      rw [List.reverse_cons]
      exact (ih t).longer [name]
    unfold makeAll
    dsimp only
    split
    · exact madeAlong_of_makeDirectory ‹_›
    · split
      · rename_i made
        rw [made] at above
        split
        · exact above.trans (madeAlong_of_makeDirectory ‹_›)
        · exact above
      · exact above
    · exact .refl ..

theorem Plain.append {more : List String} (plain : Plain path) (plain' : Plain more) :
    Plain (path ++ more) :=
  fun name h => (List.mem_append.mp h).elim (plain name) (plain' name)

theorem Plain.of_append {more : List String} (plain : Plain (path ++ more)) :
    Plain path ∧ Plain more :=
  ⟨fun name h => plain name (List.mem_append_left _ h),
    fun name h => plain name (List.mem_append_right _ h)⟩

theorem destination_append_plain {more : List String} (plain : Plain more) (path : List String) :
    destination [] (path ++ more) = destination [] path ++ more := by
  rw [destination_append, destination_of_plain plain]

/-! ### Paths that lead down from a directory -/

/-- A path leads down from a directory that is there, or from the top. -/
def Descends (t : FileTree) (path : List String) : Prop :=
  ∃ front rest, path = front ++ rest ∧ (front = [] ∨ t.HasDirectory front) ∧ Plain rest

theorem descends_of_plain (plain : Plain path) : t.Descends path := ⟨[], path, rfl, .inl rfl, plain⟩

theorem directory_of_front {front : List String} (made : t.HasDirectory path)
    (short : front <+: path) : t.node? (destination [] front) = some .directory := by
  obtain ⟨place, located, directory⟩ := made
  obtain ⟨more, rfl⟩ := short
  have led := (locate_ok_iff.mp located).2
  cases more with
  | nil =>
    rw [List.append_nil] at led
    rwa [← eq_destination_of_follow led]
  | cons name more =>
    rw [follow_append] at led
    cases halfway : t.follow [] front with
    | error e => simp [halfway, Except.bind] at led
    | ok here =>
      obtain rfl := eq_destination_of_follow halfway
      simp only [halfway, Except.bind, FileTree.follow] at led
      split at led
      · assumption
      · cases led
      · cases led

namespace Descends

theorem append {more : List String} (h : t.Descends path) (plain : Plain more) :
    t.Descends (path ++ more) := by
  obtain ⟨front, rest, rfl, base, down⟩ := h
  exact ⟨front, rest ++ more, List.append_assoc .., base, down.append plain⟩

theorem keep (h : t.Descends path) (keeps : t.KeepsDirectories t') : t'.Descends path := by
  obtain ⟨front, rest, rfl, base, down⟩ := h
  exact ⟨front, rest, rfl, base.imp_right keeps.hasDirectory, down⟩

theorem follow (h : t.Descends path) (sound : t.Sound) :
    (t.Blocked (destination [] path) ∧ t.follow [] path = .error .notDirectory) ∨
      (¬t.Blocked (destination [] path) ∧ (t.follow [] path = .ok (destination [] path) ∨
        t.follow [] path = .error .notFound ∧ t.node? (destination [] path) = none)) := by
  obtain ⟨front, rest, rfl, base, down⟩ := h
  rw [follow_append, destination_append_plain down]
  rcases base with rfl | ⟨here, located, directory⟩
  · have start : ¬t.Blocked [] := by
      rintro ⟨q, name, rest, content, same, -⟩
      simp at same
    exact sound.follow_plain down start
  · have led := (locate_ok_iff.mp located).2
    obtain rfl := eq_destination_of_follow led
    rw [led]
    exact sound.follow_plain down (sound.not_blocked (by simp [directory]))

theorem front_of_missing {front : List String} (h : t.Descends path) (short : front <+: path)
    (missing : t.node? (destination [] front) = none) :
    destination [] front <+: destination [] path := by
  obtain ⟨top, rest, rfl, base, down⟩ := h
  rw [destination_append_plain down]
  rcases List.prefix_or_prefix_of_prefix short (List.prefix_append top rest) with short' | ⟨more, rfl⟩
  · rcases base with rfl | made
    · rw [List.prefix_nil.mp short']
      exact List.nil_prefix
    · simp [directory_of_front made short'] at missing
  · have short := (List.prefix_append_right_inj top).mp short
    rw [destination_append_plain fun name h => down name (short.mem h)]
    exact (List.prefix_append_right_inj _).mpr short

theorem parent (h : t.Descends (path ++ [name])) :
    t.HasDirectory (path ++ [name]) ∨ (t.Descends path ∧ Plain [name]) := by
  obtain ⟨front, rest, same, base, down⟩ := h
  rcases List.eq_nil_or_concat rest with rfl | ⟨rest, last, rfl⟩
  · rw [List.append_nil] at same
    obtain rfl := same
    exact .inl (base.resolve_left (by simp))
  · rw [List.concat_eq_append] at same down
    rw [← List.append_assoc] at same
    obtain ⟨rfl, last⟩ := List.append_inj' same rfl
    obtain rfl := (List.cons.inj last).1
    exact .inr ⟨⟨front, rest, rfl, base, down.of_append.1⟩, down.of_append.2⟩

end Descends

theorem HasDirectory.locate_concat (h : t.HasDirectory path) (plain : Plain [name])
    (small : pathSize (path ++ [name]) ≤ maxPath) :
    t.locate (path ++ [name]) = .ok (destination [] path ++ [name]) := by
  obtain ⟨place, located, directory⟩ := h
  have led := (locate_ok_iff.mp located).2
  obtain rfl := eq_destination_of_follow led
  obtain ⟨down, short⟩ := plain name List.mem_cons_self
  rw [locate_ok_iff, follow_append, led]
  simp [Except.bind, FileTree.follow, directory, small, Nat.not_lt_of_le short, down]

theorem makeDirectory_of_located (located : t.locate path = .ok place)
    (clear : ∀ content, t.node? place ≠ some (.file content)) :
    ∃ t', t.makeDirectory path = .ok t' := by
  simp only [makeDirectory, located, bind, Except.bind]
  split
  · exact ⟨_, rfl⟩
  · exact absurd ‹_› (clear _)
  · exact ⟨_, rfl⟩

theorem makeAll_ok {names : List String} (sound : t.Sound) (descends : t.Descends names.reverse)
    (small : pathSize names.reverse ≤ maxPath) (free : ¬t.Blocked (destination [] names.reverse))
    (clear : ∀ content, t.node? (destination [] names.reverse) ≠ some (.file content)) :
    (makeAll names t).1 = .ok () := by
  induction names generalizing t with
  | nil =>
    have top : t.locate [] = .ok [] := rfl
    obtain ⟨t', made⟩ := makeDirectory_of_located top clear
    rw [makeAll, made]
  | cons name parent ih =>
    rw [List.reverse_cons] at descends small free clear
    unfold makeAll
    rw [List.reverse_cons]
    dsimp only
    have located : t.locate (parent.reverse ++ [name]) =
        .ok (destination [] (parent.reverse ++ [name])) ∨
          t.locate (parent.reverse ++ [name]) = .error .notFound := by
      rw [locate, if_neg (Nat.not_lt_of_le small)]
      exact (descends.follow sound).elim (fun h => absurd h.1 free) fun h => h.2.imp_right (·.1)
    rcases located with located | missing
    · obtain ⟨t', made⟩ := makeDirectory_of_located located clear
      rw [made]
    · have failed : t.makeDirectory (parent.reverse ++ [name]) = .error .notFound := by
        rw [makeDirectory, missing]
        rfl
      rcases descends.parent with ⟨place, located, -⟩ | ⟨above, plain⟩
      · rw [missing] at located
        cases located
      -- The parent is made first, and leaves no file in the way.
      have shorter : pathSize parent.reverse ≤ maxPath := by
        rw [pathSize_append] at small
        omega
      rw [destination_append_plain plain] at free clear
      rw [blocked_concat, not_or, not_exists] at free
      have above := ih sound above shorter free.1 free.2
      obtain ⟨grows, made⟩ := makeAll_spec parent t
      have located := (made above).locate_concat plain small
      obtain ⟨t', own⟩ := makeDirectory_of_located located fun content file =>
        clear content ((grows.file_iff _ content).mp file)
      rw [failed, show makeAll parent t = (.ok (), (makeAll parent t).2) from Prod.ext above rfl]
      dsimp only
      rw [own]

/-! ### Sizes of names -/

theorem utf8Size_eq_one {c : Char} (h : c.toNat < 128) : c.utf8Size = 1 := by
  have : c.val ≤ 0x7f := by
    rw [UInt32.le_iff_toNat_le]
    exact Nat.le_of_lt_succ h
  simp [Char.utf8Size, this]

theorem utf8ByteSize_ofList {cs : List Char} (ascii : ∀ c ∈ cs, c.toNat < 128) :
    (String.ofList cs).utf8ByteSize = cs.length := by
  induction cs with
  | nil => rfl
  | cons c cs ih =>
    rw [String.ofList_cons, String.utf8ByteSize_append, String.utf8ByteSize_singleton,
      List.length_cons, utf8Size_eq_one (ascii c List.mem_cons_self),
      ih fun d h => ascii d (List.mem_cons_of_mem c h), Nat.add_comm]

theorem utf8ByteSize_stagingName_eq {n : Nat} (h : n < 10 ^ 8) :
    (stagingName n).utf8ByteSize = 19 := by
  have digits : (toString n).toList.length ≤ 8 := by
    rw [Nat.toString_eq_ofList_toDigits, String.toList_ofList]
    exact Nat.toDigits_length 10 n 8 (by decide) h
  have ascii : ∀ c ∈ List.replicate (8 - (toString n).toList.length) '0' ++ (toString n).toList,
      c.toNat < 128 := by
    intro c hc
    rcases List.mem_append.mp hc with pad | digit
    · rw [List.eq_of_mem_replicate pad]
      decide
    · rw [Nat.toString_eq_ofList_toDigits, String.toList_ofList] at digit
      have := (Number.toNat_of_isDigit (Number.isDigit_toDigits c digit)).2
      omega
  change (".issue-" ++ String.ofList _ ++ ".tmp").utf8ByteSize = 19
  rw [String.utf8ByteSize_append, String.utf8ByteSize_append, utf8ByteSize_ofList ascii,
    List.length_append, List.length_replicate, show ".issue-".utf8ByteSize = 7 by decide,
    show ".tmp".utf8ByteSize = 4 by decide]
  omega

end FileTree

end TicketKeeper.Store
