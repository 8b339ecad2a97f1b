import Mathlib.Data.Finset.Card
import Mathlib.Data.List.FinRange
import TicketKeeper.Text.Clean

/-! First occurrences. Of the elements of a list that share a key only the first is kept, so what is
kept has as many elements as the list has keys. Names are kept like this by their folded form. -/
namespace TicketKeeper.Text

/-- The elements whose key no earlier one has. -/
def firstsBy {α β : Type} [DecidableEq β] (key : α → β) (l : List α) : List α :=
  ((List.finRange l.length).filter fun i => ∀ j < i, key l[j] ≠ key l[i]).map fun i => l[i]

section Firsts

variable {α β γ : Type} [DecidableEq β] {key : α → β}

/-- The first element is kept, and of the others those whose keys differ from its. -/
theorem firstsBy_cons (a : α) (l : List α) :
    firstsBy key (a :: l) = a :: (firstsBy key l).filter fun b => key a ≠ key b := by
  -- Behind the first element every position has that element before it, too.
  have later (i : Fin l.length) : (∀ j < i.succ, key (a :: l)[j] ≠ key (a :: l)[i.succ]) ↔
      key a ≠ key l[i] ∧ ∀ j < i, key l[j] ≠ key l[i] := by
    rw [Fin.forall_fin_succ]
    simp [Fin.succ_lt_succ_iff]
  simp only [firstsBy, List.length_cons, List.finRange_succ]
  rw [List.filter_cons_of_pos (by simp), List.map_cons, List.filter_map, List.map_map,
    List.filter_map, List.filter_filter]
  refine congrArg (fun is => a :: List.map (fun i => l[i]) is) (List.filter_congr fun i _ => ?_)
  rw [Function.comp_apply, Function.comp_apply, decide_eq_decide.mpr (later i), Bool.decide_and]

theorem firstsBy_sublist (key : α → β) (l : List α) : (firstsBy key l).Sublist l := by
  induction l with
  | nil => exact .slnil
  | cons a l ih =>
    rw [firstsBy_cons]
    exact (List.filter_sublist.trans ih).cons_cons a

theorem firstsBy_apart (key : α → β) (l : List α) :
    (firstsBy key l).Pairwise fun a b => key a ≠ key b := by
  induction l with
  | nil => exact .nil
  | cons a l ih =>
    rw [firstsBy_cons]
    refine List.pairwise_cons.mpr ⟨fun b hb => ?_, ih.filter _⟩
    simpa using (List.mem_filter.mp hb).2

theorem exists_mem_firstsBy {a : α} {l : List α} (h : a ∈ l) :
    ∃ b ∈ firstsBy key l, key b = key a := by
  induction l with
  | nil => cases h
  | cons first l ih =>
    rw [firstsBy_cons]
    by_cases same : key first = key a
    · exact ⟨first, List.mem_cons_self, same⟩
    · obtain rfl | h := List.mem_cons.mp h
      · contradiction
      obtain ⟨b, hb, kept⟩ := ih h
      refine ⟨b, List.mem_cons_of_mem first (List.mem_filter.mpr ⟨hb, ?_⟩), kept⟩
      simpa [kept] using same

theorem toFinset_firstsBy (key : α → β) (l : List α) :
    ((firstsBy key l).map key).toFinset = (l.map key).toFinset := by
  ext k
  simp only [List.mem_toFinset, List.mem_map]
  constructor
  · rintro ⟨a, ha, rfl⟩
    exact ⟨a, (firstsBy_sublist key l).subset ha, rfl⟩
  · rintro ⟨a, ha, rfl⟩
    exact exists_mem_firstsBy ha

theorem length_firstsBy (key : α → β) (l : List α) :
    (firstsBy key l).length = (l.map key).toFinset.card := by
  have once : ((firstsBy key l).map key).Nodup := List.pairwise_map.mpr (firstsBy_apart key l)
  rw [← toFinset_firstsBy, List.toFinset_card_of_nodup once, List.length_map]

theorem firstsBy_eq_self {l : List α} (apart : l.Pairwise fun a b => key a ≠ key b) :
    firstsBy key l = l := by
  induction l with
  | nil => rfl
  | cons a l ih =>
    obtain ⟨other, apart⟩ := List.pairwise_cons.mp apart
    rw [firstsBy_cons, ih apart, List.filter_eq_self.mpr]
    intro b hb
    simpa using other b hb

theorem firstsBy_map (key : α → β) (f : γ → α) (l : List γ) :
    firstsBy key (l.map f) = (firstsBy (key ∘ f) l).map f := by
  induction l with
  | nil => rfl
  | cons c l ih =>
    rw [List.map_cons, firstsBy_cons, firstsBy_cons, ih, List.filter_map]
    rfl

theorem firstSpellings_eq (seen ws : List (List Char)) :
    firstSpellings seen ws = (firstsBy fold ws).filter fun w => fold w ∉ seen := by
  fun_induction firstSpellings seen ws with
  | case1 => rfl
  | case2 seen w ws known ih =>
    have known : fold w ∈ seen := by simpa using known
    rw [firstsBy_cons, List.filter_cons_of_neg (by simp [known]), List.filter_filter, ih]
    -- What folds like a name that was seen was seen itself, so the name takes nothing away.
    refine List.filter_congr fun v _ => ?_
    by_cases same : fold w = fold v
    · simp [← same, known]
    · simp [same]
  | case3 seen w ws new ih =>
    have new : fold w ∉ seen := by simpa using new
    rw [firstsBy_cons, List.filter_cons_of_pos (by simp [new]), List.filter_filter, ih]
    refine congrArg (w :: ·) (List.filter_congr fun v _ => ?_)
    by_cases same : fold w = fold v
    · simp [same]
    · simp [same, Ne.symm same]

theorem cleanNames_eq (names : List (List Char)) :
    cleanNames names = firstsBy fold ((names.map cleanLine).filter fun w => !w.isEmpty) := by
  rw [cleanNames, firstSpellings_eq, List.filter_eq_self.mpr]
  simp

end Firsts

end TicketKeeper.Text
