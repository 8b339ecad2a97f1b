import TicketKeeper.Url.Basic
import TicketKeeper.Proofs.Url.Percent

/-! Parts of paths. A text that is put into a path as one part of it is found there again when it
has nothing in it that a path is cut at, is no point or two, and has no escapes. No points are left
in a normal path, and what is cut off a path leaves pieces of its parts. -/
namespace TicketKeeper.Url

open TicketKeeper.Text

def rootedPath (parts : List (List Char)) : List Char := parts.flatMap ('/' :: ·)

/-- A text that has nothing in it that a path is cut at. -/
def IsWhole (s : List Char) : Prop := ∀ c ∈ s, c ≠ '/' ∧ c ≠ '?' ∧ c ≠ '#'

instance (s : List Char) : Decidable (IsWhole s) :=
  List.decidableBAll (fun c => c ≠ '/' ∧ c ≠ '?' ∧ c ≠ '#') s

/-- A text that stands for itself as a part of a path. -/
structure IsSegment (s : List Char) : Prop where
  whole : IsWhole s
  literal : hasEscape s = false
  stays : s ≠ ['.'] ∧ s ≠ ['.', '.']

instance (s : List Char) : Decidable (IsSegment s) :=
  decidable_of_iff (IsWhole s ∧ hasEscape s = false ∧ s ≠ ['.'] ∧ s ≠ ['.', '.'])
    ⟨fun h => ⟨h.1, h.2.1, h.2.2⟩, fun h => ⟨h.whole, h.literal, h.stays⟩⟩

section Parts

variable {w : List Char} {parts kept : List (List Char)} {path : List Char}

theorem splitAt_append_rootedPath (w : List Char) (parts : List (List Char)) :
    splitAt '/' (w ++ rootedPath parts) = splitAt '/' w ++ parts.flatMap (splitAt '/') := by
  induction parts generalizing w with
  | nil => simp [rootedPath]
  | cons v parts ih =>
    have path : w ++ rootedPath (v :: parts) = w ++ '/' :: (v ++ rootedPath parts) := rfl
    rw [path, splitAt, fields_append_cons (by decide), ← splitAt, ← splitAt, ih,
      List.flatMap_cons]

theorem splitAt_rootedPath (parts : List (List Char)) :
    splitAt '/' (rootedPath parts) = [] :: parts.flatMap (splitAt '/') :=
  splitAt_append_rootedPath [] parts

theorem IsWhole.splitAt (h : IsWhole w) : splitAt '/' w = [w] :=
  fields_of_not fun c hc => beq_eq_false_iff_ne.mpr (h c hc).1

theorem mem_splitAt_append {v t : List Char} (rest : t = [] ∨ ∃ r, t = '/' :: r)
    (h : w ∈ splitAt '/' (v ++ t)) : w ∈ splitAt '/' v ∨ w ∈ splitAt '/' t := by
  obtain rfl | ⟨r, rfl⟩ := rest
  · exact .inl (by rwa [List.append_nil] at h)
  · rw [splitAt, fields_append_cons (by decide), List.mem_append] at h
    exact h.imp_right fun h => by simp [splitAt, fields, h]

/-- What is left of a path that is cut short are pieces of its parts. -/
theorem piece_of_mem_takeWhile {q : Char → Bool}
    (h : w ∈ splitAt '/' ((rootedPath parts).takeWhile q)) :
    w = [] ∨ ∃ part ∈ parts, w <:+: part := by
  induction parts with
  | nil => exact .inl (List.mem_singleton.mp h)
  | cons v parts ih =>
    have path : rootedPath (v :: parts) = '/' :: (v ++ rootedPath parts) := rfl
    rw [path, List.takeWhile_cons] at h
    split at h
    · rename_i goes
      have rest : (rootedPath parts).takeWhile q = [] ∨
          ∃ r, (rootedPath parts).takeWhile q = '/' :: r := by
        cases parts with
        | nil => exact .inl rfl
        | cons u parts => exact .inr ⟨_, List.takeWhile_cons_of_pos goes⟩
      have h : w = [] ∨ w ∈ splitAt '/' ((v ++ rootedPath parts).takeWhile q) := by
        simpa [splitAt, fields] using h
      obtain none | h := h
      · exact .inl none
      rw [List.takeWhile_append] at h
      split at h
      · obtain h | h := mem_splitAt_append rest h
        · exact .inr ⟨v, List.mem_cons_self, infix_of_mem_fields h⟩
        · obtain none | ⟨part, hpart, piece⟩ := ih h
          · exact .inl none
          · exact .inr ⟨part, List.mem_cons_of_mem _ hpart, piece⟩
      · refine .inr ⟨v, List.mem_cons_self, (infix_of_mem_fields h).trans ?_⟩
        exact (List.takeWhile_prefix q).isInfix
    · exact .inl (List.mem_singleton.mp h)

theorem mem_dropDots (h : w ∈ dropDots kept parts) :
    w ∈ kept ∨ (w ∈ parts ∧ w ≠ ['.'] ∧ w ≠ ['.', '.']) := by
  fun_induction dropDots kept parts with
  | case1 kept => exact .inl h
  | case2 kept r ih =>
    exact (ih h).imp_right fun ⟨hw, other⟩ => ⟨List.mem_cons_of_mem _ hw, other⟩
  | case3 kept r other ih =>
    obtain hw | ⟨hw, other⟩ := ih h
    · left
      split at hw
      · exact hw
      · exact List.dropLast_subset _ hw
    · exact .inr ⟨List.mem_cons_of_mem _ hw, other⟩
  | case4 kept part r single double ih =>
    obtain hw | ⟨hw, other⟩ := ih h
    · obtain hw | hw := List.mem_append.mp hw
      · exact .inl hw
      · obtain rfl := List.mem_singleton.mp hw
        exact .inr ⟨List.mem_cons_self, single, double⟩
    · exact .inr ⟨List.mem_cons_of_mem _ hw, other⟩

/-- No points are left as parts of a normal path, and no other parts come up but an empty one. -/
theorem mem_splitAt_normalPath (h : w ∈ splitAt '/' (normalPath path)) :
    (w = [] ∨ w ∈ splitAt '/' path) ∧ w ≠ ['.'] ∧ w ≠ ['.', '.'] := by
  unfold normalPath at h
  dsimp only at h
  split at h
  · by_cases any : dropDots [] (splitAt '/' path) = []
    · rw [any] at h
      obtain rfl : w = [] := List.mem_singleton.mp h
      exact ⟨.inl rfl, nofun, nofun⟩
    · rw [splitAt, fields_intercalate (by decide) any] at h
      · obtain hw | ⟨hw, other⟩ := mem_dropDots h
        · cases hw
        · exact ⟨.inr hw, other⟩
      · intro v hv c hc
        obtain hv | ⟨hv, -⟩ := mem_dropDots hv
        · cases hv
        · exact not_of_mem_fields (p := (· == '/')) hv hc
  · rename_i plain
    rw [Bool.or_eq_true, not_or, List.contains_iff_mem, List.contains_iff_mem] at plain
    refine ⟨.inr h, ?_, ?_⟩
    · rintro rfl
      exact plain.1 h
    · rintro rfl
      exact plain.2 h

theorem normalPath_eq_self (h : ∀ w ∈ splitAt '/' path, w ≠ ['.'] ∧ w ≠ ['.', '.']) :
    normalPath path = path := by
  unfold normalPath
  dsimp only
  rw [if_neg]
  rw [Bool.or_eq_true, not_or, List.contains_iff_mem, List.contains_iff_mem]
  exact ⟨fun dot => (h _ dot).1 rfl, fun dots => (h _ dots).2 rfl⟩

end Parts

end TicketKeeper.Url
