import TicketKeeper.Text.Fold
import TicketKeeper.Proofs.Text.Words

/-! Folded words. A character that is not blank folds to characters that are not blank, so that
folding keeps the words of a text apart and joins none: texts between single spaces fold to the same
text when their words do. -/
namespace TicketKeeper.Text

variable {s t w : List Char}

def blankRanges : List (Nat × Nat) := [
  (9, 13), (28, 32), (0x85, 0x85), (0xA0, 0xA0), (0x1680, 0x1680), (0x2000, 0x200A),
  (0x2028, 0x2029), (0x202F, 0x202F), (0x205F, 0x205F), (0x3000, 0x3000)]

def isClear (first last : Nat) : Bool := blankRanges.all fun r => last < r.1 || r.2 < first

theorem exists_range_of_isBlank {c : Char} (h : isBlank c = true) :
    ∃ r ∈ blankRanges, r.1 ≤ c.toNat ∧ c.toNat ≤ r.2 := by
  simp only [isBlank, Bool.or_eq_true, Bool.and_eq_true, decide_eq_true_eq, beq_iff_eq] at h
  simp only [blankRanges, List.exists_mem_cons_iff, List.not_mem_nil, false_and, exists_false]
  omega

theorem isBlank_ofNat {first last n : Nat} (clear : isClear first last = true) (low : first ≤ n)
    (high : n ≤ last) : isBlank (Char.ofNat n) = false := by
  by_contra blank
  obtain ⟨r, hr, lower, upper⟩ := exists_range_of_isBlank (by simpa using blank)
  have apart := List.all_eq_true.mp clear r hr
  simp only [Bool.or_eq_true, decide_eq_true_eq] at apart
  have positive : ∀ r ∈ blankRanges, 0 < r.1 := by decide
  have := positive r hr
  -- A number that is no code of a character stands for the first one, which is not blank.
  have code : (Char.ofNat n).toNat = n ∨ (Char.ofNat n).toNat = 0 := by
    by_cases valid : n.isValidChar
    · rw [Char.ofNat, dif_pos valid]
      exact .inl rfl
    · rw [Char.ofNat, dif_neg valid]
      exact .inr rfl
  omega

theorem isClear_foldRuns : ∀ r ∈ foldRuns, isClear r.image (r.image + (r.stop - r.start)) = true := by
  decide +kernel

theorem isClear_foldLong : ∀ e ∈ foldLong, e.2 ≠ [] ∧ ∀ n ∈ e.2, isClear n n = true := by
  decide +kernel

theorem isBlank_toLower {c : Char} (ascii : c.toNat < 128) (h : isBlank c = false) :
    isBlank c.toLower = false := by
  have all : ∀ n < 128, isBlank (Char.ofNat n) = false → isBlank (Char.ofNat n).toLower = false := by
    decide
  rw [← Char.ofNat_toNat c] at h ⊢
  exact all c.toNat ascii h

theorem isWord_foldChar {c : Char} (h : isBlank c = false) : IsWord (foldChar c) := by
  unfold foldChar
  dsimp only
  split
  · rename_i ascii
    exact ⟨List.cons_ne_nil _ _, by simpa using isBlank_toLower ascii h⟩
  split
  · rename_i r found
    have covered := List.find?_some found
    have clear := isClear_foldRuns r (List.mem_of_find?_eq_some found)
    simp only [FoldRun.covers, Bool.and_eq_true, decide_eq_true_eq] at covered
    refine ⟨List.cons_ne_nil _ _, ?_⟩
    simpa using isBlank_ofNat clear (by unfold FoldRun.apply; omega)
      (by unfold FoldRun.apply; omega)
  split
  · rename_i ns found
    obtain ⟨before, behind, listed, -⟩ := List.lookup_eq_some_iff.mp found
    have mem : (c.toNat, ns) ∈ foldLong :=
      listed ▸ List.mem_append_right before List.mem_cons_self
    obtain ⟨any, clear⟩ := isClear_foldLong _ mem
    refine ⟨by simpa using any, fun d hd => ?_⟩
    obtain ⟨n, hn, rfl⟩ := List.mem_map.mp hd
    exact isBlank_ofNat (clear n hn) le_rfl le_rfl
  · exact ⟨List.cons_ne_nil _ _, by simpa using h⟩

theorem IsWord.fold (h : IsWord w) : IsWord (fold w) := by
  obtain ⟨any, solid⟩ := h
  obtain ⟨c, r, rfl⟩ := List.exists_cons_of_ne_nil any
  refine ⟨?_, fun d hd => ?_⟩
  · have first := (isWord_foldChar (solid c List.mem_cons_self)).1
    simp [Text.fold, first]
  · obtain ⟨e, he, hd⟩ := List.mem_flatMap.mp hd
    exact (isWord_foldChar (solid e he)).2 d hd

theorem fold_append (s t : List Char) : fold (s ++ t) = fold s ++ fold t := List.flatMap_append

theorem fold_unwords (ws : List (List Char)) : fold (unwords ws) = unwords (ws.map fold) := by
  induction ws with
  | nil => rfl
  | cons w ws ih =>
    cases ws with
    | nil => simp [unwords]
    | cons v ws =>
      have blank : fold (' ' :: unwords (v :: ws)) = ' ' :: fold (unwords (v :: ws)) := rfl
      rw [unwords_cons_cons, fold_append, blank, ih]
      simp [unwords_cons_cons]

/-- Texts that are the same but for the case of their letters and for their blanks. -/
def Alike (s t : List Char) : Prop := (words s).map fold = (words t).map fold

instance (s t : List Char) : Decidable (Alike s t) := inferInstanceAs (Decidable (_ = _))

theorem fold_unwords_eq_iff :
    fold (unwords (words s)) = fold (unwords (words t)) ↔ Alike s t := by
  have folded (s : List Char) : ∀ w ∈ (words s).map fold, IsWord w := by
    intro w hw
    obtain ⟨v, hv, rfl⟩ := List.mem_map.mp hw
    exact (isWord_of_mem_words hv).fold
  rw [fold_unwords, fold_unwords]
  constructor
  · intro same
    have read := congrArg words same
    rwa [words_unwords (folded s), words_unwords (folded t)] at read
  · exact fun same => congrArg unwords same

end TicketKeeper.Text
