import TicketKeeper.Text.Clean
import TicketKeeper.Proofs.Text.Lines

/-! Words and fields. A text is cut at separators and put together again: what is cut at single
separators comes back as it was, and so do words that stand between single spaces. -/
namespace TicketKeeper.Text

variable {p : Char → Bool} {s w : List Char} {ws : List (List Char)}

theorem not_of_mem_fields {c : Char} (hw : w ∈ fields p s)
    (hc : c ∈ w) : p c = false := by
  fun_induction fields p s generalizing w with
  | case1 =>
    obtain rfl := List.mem_singleton.mp hw
    cases hc
  | case2 a r sep ih =>
    obtain rfl | hw := List.mem_cons.mp hw
    · cases hc
    · exact ih hw hc
  | case3 a r kept none ih =>
    obtain rfl := List.mem_singleton.mp hw
    obtain rfl := List.mem_singleton.mp hc
    simpa using kept
  | case4 a r kept w' ws first ih =>
    rw [first] at ih
    obtain rfl | hw := List.mem_cons.mp hw
    · obtain rfl | hc := List.mem_cons.mp hc
      · simpa using kept
      · exact ih List.mem_cons_self hc
    · exact ih (List.mem_cons_of_mem _ hw) hc

theorem prefix_of_fields (h : fields p s = w :: ws) : w <+: s ∧ ∀ v ∈ ws, v <:+: s := by
  fun_induction fields p s generalizing w ws with
  | case1 =>
    cases h
    exact ⟨List.prefix_refl [], nofun⟩
  | case2 c r sep ih =>
    cases h
    obtain ⟨v, vs, cut⟩ := List.exists_cons_of_ne_nil (fields_ne_nil p r)
    obtain ⟨first, rest⟩ := ih cut
    refine ⟨List.nil_prefix, fun x hx => ?_⟩
    rw [cut] at hx
    apply List.infix_cons
    obtain rfl | hx := List.mem_cons.mp hx
    · exact first.isInfix
    · exact rest x hx
  | case3 c r kept none ih => exact absurd none (fields_ne_nil p r)
  | case4 c r kept v vs cut ih =>
    cases h
    obtain ⟨first, rest⟩ := ih cut
    exact ⟨List.cons_prefix_cons.mpr ⟨rfl, first⟩, fun x hx => List.infix_cons (rest x hx)⟩

theorem infix_of_mem_fields (hw : w ∈ fields p s) : w <:+: s := by
  obtain ⟨v, vs, cut⟩ := List.exists_cons_of_ne_nil (fields_ne_nil p s)
  obtain ⟨first, rest⟩ := prefix_of_fields cut
  rw [cut] at hw
  obtain rfl | hw := List.mem_cons.mp hw
  · exact first.isInfix
  · exact rest w hw

theorem fields_of_not (h : ∀ c ∈ s, p c = false) : fields p s = [s] := by
  induction s with
  | nil => rfl
  | cons c r ih =>
    obtain ⟨first, rest⟩ := List.forall_mem_cons.mp h
    simp [fields, first, ih rest]

theorem fields_append_cons {c : Char} (sep : p c = true) (w s : List Char) :
    fields p (w ++ c :: s) = fields p w ++ fields p s := by
  induction w with
  | nil => simp [fields, sep]
  | cons d w ih =>
    obtain ⟨first, rest, cut⟩ := List.exists_cons_of_ne_nil (fields_ne_nil p w)
    rw [cut] at ih
    cases other : p d with
    | true => simp [fields, other, ih, cut]
    | false => simp [fields, other, ih, cut]

theorem fields_append {c : Char} (h : ∀ d ∈ w, p d = false) (sep : p c = true) (s : List Char) :
    fields p (w ++ c :: s) = w :: fields p s := by
  rw [fields_append_cons sep, fields_of_not h, List.singleton_append]

theorem fields_intercalate {c : Char} (sep : p c = true) (any : ws ≠ [])
    (h : ∀ w ∈ ws, ∀ d ∈ w, p d = false) : fields p ([c].intercalate ws) = ws := by
  induction ws with
  | nil => contradiction
  | cons w ws ih =>
    obtain ⟨first, rest⟩ := List.forall_mem_cons.mp h
    cases ws with
    | nil => rw [List.intercalate_singleton, fields_of_not first]
    | cons v ws =>
      rw [List.intercalate_cons_cons, List.append_assoc, List.singleton_append,
        fields_append first sep, ih (List.cons_ne_nil _ _) rest]

theorem intercalate_splitAt (sep : Char) (s : List Char) :
    [sep].intercalate (splitAt sep s) = s := by
  unfold splitAt
  fun_induction fields (· == sep) s with
  | case1 => rfl
  | case2 c r hc ih =>
    obtain ⟨w, ws, cut⟩ := List.exists_cons_of_ne_nil (fields_ne_nil (· == sep) r)
    rw [cut] at ih ⊢
    rw [List.intercalate_cons_cons, ih, beq_iff_eq.mp hc]
    rfl
  | case3 c r hc none ih => exact absurd none (fields_ne_nil _ _)
  | case4 c r hc w ws cut ih =>
    rw [cut] at ih
    cases ws with
    | nil =>
      rw [List.intercalate_singleton] at ih ⊢
      rw [ih]
    | cons v ws =>
      rw [List.intercalate_cons_cons] at ih ⊢
      rw [List.cons_append, List.cons_append, ih]

theorem cutAt_fst (sep : Char) (s : List Char) : (cutAt sep s).1 = s.takeWhile (· != sep) := by
  unfold cutAt
  split
  · rename_i none
    have whole := List.takeWhile_append_dropWhile (p := (· != sep)) (l := s)
    rw [none, List.append_nil] at whole
    exact whole.symm
  · rfl

theorem cutAt_of_not_mem {sep : Char} {s : List Char} (h : sep ∉ s) (r : List Char) :
    cutAt sep (s ++ sep :: r) = (s, some r) := by
  have apart : ∀ c ∈ s, (c != sep) = true := by
    intro c hc
    simp only [bne_iff_ne]
    rintro rfl
    exact h hc
  unfold cutAt
  rw [List.dropWhile_append_of_pos apart, List.takeWhile_append_of_pos apart]
  simp

theorem cutAt_of_absent {sep : Char} (h : sep ∉ s) : cutAt sep s = (s, none) := by
  have all : s.dropWhile (· != sep) = [] := by
    rw [List.dropWhile_eq_nil_iff]
    intro c hc
    rw [bne_iff_ne]
    rintro rfl
    exact h hc
  simp only [cutAt, all]

theorem cutAt_eq_some_iff {sep : Char} {t r : List Char} :
    cutAt sep s = (t, some r) ↔ s = t ++ sep :: r ∧ sep ∉ t := by
  constructor
  · intro cut
    by_cases h : sep ∈ s
    · obtain ⟨front, back, rfl, first⟩ := List.eq_append_cons_of_mem h
      rw [cutAt_of_not_mem first] at cut
      cases cut
      exact ⟨rfl, first⟩
    · rw [cutAt_of_absent h] at cut
      cases cut
  · rintro ⟨rfl, first⟩
    exact cutAt_of_not_mem first r

theorem unwords_cons_cons (w v : List Char) (ws : List (List Char)) :
    unwords (w :: v :: ws) = w ++ ' ' :: unwords (v :: ws) := by
  simp [unwords, List.intercalate_cons_cons]

theorem mem_intercalate {c sep : Char} (h : c ∈ [sep].intercalate ws) :
    c = sep ∨ ∃ w ∈ ws, c ∈ w := by
  induction ws with
  | nil => cases h
  | cons w ws ih =>
    cases ws with
    | nil =>
      rw [List.intercalate_singleton] at h
      exact .inr ⟨w, List.mem_cons_self, h⟩
    | cons v ws =>
      rw [List.intercalate_cons_cons, List.append_assoc, List.mem_append, List.singleton_append,
        List.mem_cons] at h
      obtain h | rfl | h := h
      · exact .inr ⟨w, List.mem_cons_self, h⟩
      · exact .inl rfl
      · exact (ih h).imp_right fun ⟨w', hw, hc⟩ => ⟨w', List.mem_cons_of_mem _ hw, hc⟩

theorem mem_unwords {c : Char} (h : c ∈ unwords ws) : c = ' ' ∨ ∃ w ∈ ws, c ∈ w :=
  mem_intercalate h

def IsWord (w : List Char) : Prop := w ≠ [] ∧ ∀ c ∈ w, isBlank c = false

theorem isWord_of_mem_words (h : w ∈ words s) : IsWord w := by
  obtain ⟨hw, any⟩ := List.mem_filter.mp h
  exact ⟨by simpa using any, fun c hc => not_of_mem_fields hw hc⟩

theorem words_unwords (h : ∀ w ∈ ws, IsWord w) : words (unwords ws) = ws := by
  cases ws with
  | nil => rfl
  | cons w ws =>
    have cut := fields_intercalate (p := isBlank) (c := ' ') (by decide) (List.cons_ne_nil w ws)
      fun w hw => (h w hw).2
    rw [words, unwords, cut, List.filter_eq_self]
    intro v hv
    simpa using (h v hv).1

theorem isLine_cleanLine (s : List Char) : IsLine (cleanLine s) := by
  intro c hc
  obtain rfl | ⟨w, hw, hc⟩ := mem_unwords hc
  · decide
  · have word : ∀ d ∈ w, isBlank d = false := fun d hd =>
      not_of_mem_fields (List.mem_filter.mp hw).1 hd
    exact isLine_of_not_isBlank word c hc

end TicketKeeper.Text
