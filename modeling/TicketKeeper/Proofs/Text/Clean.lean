import Mathlib.Data.List.Chain
import TicketKeeper.Proofs.Text.Firsts
import TicketKeeper.Proofs.Text.Words

/-! Clean texts. What the cleaners leave is in a normal form, and a text in normal form is left as
it is: a clean line has words between single spaces, and a clean text has trimmed lines of which no
two in a row are empty. -/
namespace TicketKeeper.Text

variable {p : Char → Bool} {s t l w : List Char} {ls ws : List (List Char)} {c : Char} {n : Nat}

section Ends

theorem head?_trim (h : s.head? = some c) (solid : isBlank c = false) :
    (trim s).head? = some c := by
  obtain ⟨r, rfl⟩ := List.head?_eq_some_iff.mp h
  have kept : trim (c :: r) = (c :: r).rdropWhile isBlank := by
    rw [trim, trimBy, dropEndWhile_eq, List.dropWhile_cons_of_neg (by simp [solid])]
  have any : (c :: r).rdropWhile isBlank ≠ [] := by
    intro none
    have blank := List.rdropWhile_eq_nil_iff.mp none c List.mem_cons_self
    simp [solid] at blank
  obtain ⟨a, r', cut⟩ := List.exists_cons_of_ne_nil any
  obtain ⟨dropped, whole⟩ := List.rdropWhile_prefix isBlank (c :: r)
  rw [cut] at whole
  obtain ⟨rfl, -⟩ := List.cons_eq_cons.mp whole
  rw [kept, cut]
  rfl

theorem getLast?_trim (h : s.getLast? = some c) (solid : isBlank c = false) :
    (trim s).getLast? = some c := by
  obtain ⟨r, rfl⟩ := List.getLast?_eq_some_iff.mp h
  have front : (r ++ [c]).dropWhile isBlank = r.dropWhile isBlank ++ [c] := by
    rw [List.dropWhile_append]
    split
    · simp_all
    · rfl
  rw [trim, trimBy, front, dropEndWhile_eq, List.rdropWhile_concat_neg _ _ _ (by simp [solid])]
  exact List.getLast?_concat

end Ends

section Lines

theorem intercalate_append {sep : Char} (hl : ls ≠ []) (hw : ws ≠ []) :
    [sep].intercalate (ls ++ ws) = [sep].intercalate ls ++ sep :: [sep].intercalate ws := by
  induction ls with
  | nil => contradiction
  | cons l ls ih =>
    obtain ⟨w, ws, rfl⟩ := List.exists_cons_of_ne_nil hw
    cases ls with
    | nil => simp [List.intercalate_cons_cons]
    | cons l' ls =>
      have tail := ih (List.cons_ne_nil _ _)
      rw [List.cons_append] at tail
      rw [List.cons_append, List.cons_append, List.intercalate_cons_cons, tail,
        List.intercalate_cons_cons]
      simp

theorem getLast?_joinLines (any : l ≠ []) (ls : List (List Char)) :
    (joinLines (ls ++ [l])).getLast? = l.getLast? := by
  unfold joinLines
  by_cases only : ls = []
  · simp [only]
  · rw [intercalate_append only (List.cons_ne_nil _ _), List.intercalate_singleton,
      List.getLast?_append, List.getLast?_cons]
    simp [List.getLast?_eq_some_getLast any]

theorem getLast?_of_splitAt (h : s.getLast? = some c) (solid : c ≠ '\n')
    (cut : splitAt '\n' s = ls ++ [l]) : l.getLast? = some c := by
  have joined : joinLines (ls ++ [l]) = s := cut ▸ intercalate_splitAt '\n' s
  by_cases any : l = []
  · subst any joined
    unfold joinLines at h
    by_cases only : ls = []
    · simp [only] at h
    · rw [intercalate_append only (List.cons_ne_nil _ _)] at h
      simp only [List.intercalate_singleton, List.getLast?_concat, Option.some.injEq] at h
      exact absurd h.symm solid
  · rw [← getLast?_joinLines any ls, joined, h]

theorem isTrimmed_joinLines (h : IsTrimmed s) :
    IsTrimmed (joinLines ((splitAt '\n' s).map trim)) := by
  obtain ⟨front, back⟩ := trimBy_eq_self_iff.mp h
  cases s with
  | nil => rfl
  | cons c r =>
    have first : isBlank c = false := front c rfl
    obtain ⟨d, hd⟩ : ∃ d, (c :: r).getLast? = some d := ⟨_, List.getLast?_eq_some_getLast (by simp)⟩
    have last : isBlank d = false := back d hd
    have feed : isBlank '\n' = true := by decide
    refine trimBy_eq_self_iff.mpr ⟨fun e he => ?_, fun e he => ?_⟩
    · obtain ⟨l, ls, cut⟩ : ∃ l ls, splitAt '\n' (c :: r) = (c :: l) :: ls := by
        obtain ⟨l, ls, cut⟩ := List.exists_cons_of_ne_nil (fields_ne_nil (· == '\n') r)
        have other : (c == '\n') = false := by
          rw [beq_eq_false_iff_ne]
          rintro rfl
          simp [first] at feed
        exact ⟨l, ls, by simp [splitAt, fields, other, cut]⟩
      obtain ⟨l', hl'⟩ := List.head?_eq_some_iff.mp (head?_trim (s := c :: l) rfl first)
      have begins : (joinLines ((splitAt '\n' (c :: r)).map trim)).head? = some c := by
        rw [cut, List.map_cons, hl']
        cases ls with
        | nil => simp [joinLines]
        | cons => simp [joinLines_cons_cons]
      rw [begins, Option.some.injEq] at he
      exact he ▸ first
    · obtain ⟨ls, l, cut⟩ := List.eq_nil_or_concat'  (splitAt '\n' (c :: r)) |>.resolve_left
        (fields_ne_nil _ _)
      have ends : l.getLast? = some d := by
        apply getLast?_of_splitAt hd _ cut
        rintro rfl
        simp [last] at feed
      have kept := getLast?_trim ends last
      have any : trim l ≠ [] := by
        intro none
        simp [none] at kept
      rw [cut, List.map_append, List.map_singleton, getLast?_joinLines any, kept,
        Option.some.injEq] at he
      exact he ▸ last

end Lines

section Breaks

theorem unifyBreaks_eq_self (h : '\r' ∉ s) : unifyBreaks s = s := by
  fun_induction unifyBreaks s with
  | case1 => rfl
  | case2 => simp at h
  | case3 => simp at h
  | case4 c r _ _ ih => rw [ih fun hr => h (List.mem_cons_of_mem c hr)]

theorem squeezeBreaks_sublist (n : Nat) (s : List Char) : (squeezeBreaks n s).Sublist s := by
  fun_induction squeezeBreaks n s with
  | case1 => exact .slnil
  | case2 n c r feed few ih => exact ih.cons_cons c
  | case3 n c r feed many ih => exact ih.cons c
  | case4 n c r other ih => exact ih.cons_cons c

theorem head?_squeezeBreaks (few : n < 2) (s : List Char) : (squeezeBreaks n s).head? = s.head? := by
  cases s with
  | nil => rfl
  | cons c r =>
    rw [squeezeBreaks, if_pos few]
    split <;> rfl

theorem getLast?_squeezeBreaks (h : s.getLast? = some c) (solid : c ≠ '\n') (n : Nat) :
    (squeezeBreaks n s).getLast? = some c := by
  fun_induction squeezeBreaks n s with
  | case1 => cases h
  | case2 n a r feed few ih =>
    cases r with
    | nil =>
      cases h
      exact absurd (beq_iff_eq.mp feed) solid
    | cons b r =>
      rw [List.getLast?_cons_cons] at h
      rw [List.getLast?_cons, ih h]
      rfl
  | case3 n a r feed many ih =>
    cases r with
    | nil =>
      cases h
      exact absurd (beq_iff_eq.mp feed) solid
    | cons b r =>
      rw [List.getLast?_cons_cons] at h
      exact ih h
  | case4 n a r other ih =>
    cases r with
    | nil => exact h
    | cons b r =>
      rw [List.getLast?_cons_cons] at h
      rw [List.getLast?_cons, ih h]
      rfl

theorem isTrimmed_squeezeBreaks (h : IsTrimmed s) (few : n < 2) :
    IsTrimmed (squeezeBreaks n s) := by
  obtain ⟨front, back⟩ := trimBy_eq_self_iff.mp h
  refine trimBy_eq_self_iff.mpr ⟨fun c hc => ?_, fun c hc => ?_⟩
  · rw [head?_squeezeBreaks few] at hc
    exact front c hc
  · cases last : s.getLast? with
    | none =>
      rw [List.getLast?_eq_none_iff.mp last] at hc
      cases hc
    | some d =>
      have solid := back d last
      have other : d ≠ '\n' := by
        rintro rfl
        cases solid
      rw [getLast?_squeezeBreaks last other, Option.some.injEq] at hc
      exact hc ▸ solid

/-- Only empty lines are dropped, and not the first line before the third line feed. -/
theorem splitAt_squeezeBreaks (n : Nat) (s : List Char) :
    splitAt '\n' (squeezeBreaks n s) ⊆ splitAt '\n' s ∧
      (n < 2 → ∃ l ls ls', splitAt '\n' (squeezeBreaks n s) = l :: ls ∧
        splitAt '\n' s = l :: ls' ∧ ls ⊆ ls') := by
  fun_induction squeezeBreaks n s with
  | case1 n => exact ⟨List.Subset.refl _, fun _ => ⟨[], [], [], rfl, rfl, List.Subset.refl _⟩⟩
  | case2 n c r feed few ih =>
    obtain rfl : c = '\n' := beq_iff_eq.mp feed
    have cut (s : List Char) : splitAt '\n' ('\n' :: s) = [] :: splitAt '\n' s := rfl
    rw [cut, cut]
    exact ⟨List.cons_subset_cons _ ih.1, fun _ => ⟨[], _, _, rfl, rfl, ih.1⟩⟩
  | case3 n c r feed many ih =>
    obtain rfl : c = '\n' := beq_iff_eq.mp feed
    exact ⟨fun l hl => List.mem_cons_of_mem [] (ih.1 hl), fun few => absurd few many⟩
  | case4 n c r other ih =>
    obtain ⟨l, ls, ls', cut, cut', sub⟩ := ih.2 (by decide)
    have begun {s l : List Char} {ls : List (List Char)} (h : splitAt '\n' s = l :: ls) :
        splitAt '\n' (c :: s) = (c :: l) :: ls := by
      unfold splitAt at h ⊢
      simp [fields, other, h]
    rw [begun cut, begun cut']
    exact ⟨List.cons_subset_cons _ sub, fun _ => ⟨_, _, _, rfl, rfl, sub⟩⟩

def tripleBreak : List Char := ['\n', '\n', '\n']

theorem tripleBreak_infix_iff (few : n ≤ 2) (other : c ≠ '\n') :
    tripleBreak <:+: List.replicate n '\n' ++ c :: s ↔ tripleBreak <:+: s := by
  obtain rfl | rfl | rfl : n = 0 ∨ n = 1 ∨ n = 2 := by omega
  all_goals
    simp [List.replicate, List.infix_cons_iff, tripleBreak, List.cons_prefix_cons, other.symm]

/-- The line feeds that were passed count with those that are kept. -/
theorem not_tripleBreak_squeezeBreaks (few : n ≤ 2) (s : List Char) :
    ¬tripleBreak <:+: List.replicate n '\n' ++ squeezeBreaks n s := by
  fun_induction squeezeBreaks n s with
  | case1 n =>
    rw [List.append_nil]
    intro long
    have := long.length_le
    simp [tripleBreak] at this
    omega
  | case2 n c r feed less ih =>
    obtain rfl : c = '\n' := beq_iff_eq.mp feed
    have moved : List.replicate n '\n' ++ '\n' :: squeezeBreaks (n + 1) r =
        List.replicate (n + 1) '\n' ++ squeezeBreaks (n + 1) r := by
      simp [List.replicate_succ']
    rw [moved]
    exact ih less
  | case3 n c r feed many ih => exact ih few
  | case4 n c r other ih =>
    rw [tripleBreak_infix_iff few (by simpa using other)]
    exact ih (by decide)

theorem squeezeBreaks_eq_self (few : n ≤ 2)
    (h : ¬tripleBreak <:+: List.replicate n '\n' ++ s) : squeezeBreaks n s = s := by
  fun_induction squeezeBreaks n s with
  | case1 => rfl
  | case2 n c r feed less ih =>
    obtain rfl : c = '\n' := beq_iff_eq.mp feed
    rw [ih less]
    simpa [List.replicate_succ'] using h
  | case3 n c r feed many ih =>
    obtain rfl : n = 2 := by omega
    obtain rfl : c = '\n' := beq_iff_eq.mp feed
    exact absurd (List.prefix_append tripleBreak r).isInfix h
  | case4 n c r other ih =>
    rw [tripleBreak_infix_iff few (by simpa using other)] at h
    rw [ih (by decide) h]

end Breaks

section NormalForms

/-- Lines of words between single spaces, without control characters. -/
structure IsCleanLine (s : List Char) : Prop where
  plain : ∀ c ∈ s, isControl c = false
  trimmed : IsTrimmed s
  spaces : ∀ c ∈ s, isBlank c = true → c = ' '
  single : s.IsChain fun a b => isBlank a = true → isBlank b = false

/-- Trimmed lines between line feeds, at most two of them in a row, without other control
characters. -/
structure IsCleanText (s : List Char) : Prop where
  plain : ∀ c ∈ s, c = '\n' ∨ isControl c = false
  trimmed : IsTrimmed s
  lines : ∀ l ∈ splitAt '\n' s, IsTrimmed l
  spaced : ¬tripleBreak <:+: s

theorem mem_of_mem_fields (hw : w ∈ fields p s) (hc : c ∈ w) : c ∈ s :=
  (infix_of_mem_fields hw).subset hc

theorem mem_of_mem_words (hw : w ∈ words s) (hc : c ∈ w) : c ∈ s :=
  mem_of_mem_fields (List.mem_filter.mp hw).1 hc

theorem head?_unwords (h : ∀ w ∈ ws, IsWord w) : ∀ c, (unwords ws).head? = some c →
    isBlank c = false := by
  intro c hc
  cases ws with
  | nil => cases hc
  | cons w ws =>
    obtain ⟨any, solid⟩ := h w List.mem_cons_self
    obtain ⟨a, r, rfl⟩ := List.exists_cons_of_ne_nil any
    have first : (unwords ((a :: r) :: ws)).head? = some a := by
      cases ws with
      | nil => simp [unwords]
      | cons => simp [unwords_cons_cons]
    rw [first, Option.some.injEq] at hc
    exact hc ▸ solid a List.mem_cons_self

theorem getLast?_unwords (h : ∀ w ∈ ws, IsWord w) : ∀ c, (unwords ws).getLast? = some c →
    isBlank c = false := by
  induction ws with
  | nil =>
    intro c hc
    cases hc
  | cons w ws ih =>
    obtain ⟨⟨any, solid⟩, rest⟩ := List.forall_mem_cons.mp h
    intro c hc
    cases ws with
    | nil =>
      rw [unwords, List.intercalate_singleton] at hc
      exact solid c (List.mem_of_getLast? hc)
    | cons v ws =>
      have next : unwords (v :: ws) ≠ [] := by
        obtain ⟨a, r, rfl⟩ := List.exists_cons_of_ne_nil (rest v List.mem_cons_self).1
        cases ws with
        | nil => simp [unwords]
        | cons => simp [unwords_cons_cons]
      obtain ⟨d, hd⟩ : ∃ d, (unwords (v :: ws)).getLast? = some d :=
        ⟨_, List.getLast?_eq_some_getLast next⟩
      rw [unwords_cons_cons, List.getLast?_append, List.getLast?_cons, hd] at hc
      cases hc
      exact ih rest d hd

theorem isChain_unwords (h : ∀ w ∈ ws, IsWord w) :
    (unwords ws).IsChain fun a b => isBlank a = true → isBlank b = false := by
  have word {w : List Char} (solid : ∀ c ∈ w, isBlank c = false) :
      w.IsChain fun a b => isBlank a = true → isBlank b = false := by
    induction w with
    | nil => exact .nil
    | cons a w ih =>
      obtain ⟨first, rest⟩ := List.forall_mem_cons.mp solid
      refine List.isChain_cons.mpr ⟨fun b hb _ => rest b (List.mem_of_head? hb), ih rest⟩
  induction ws with
  | nil => exact .nil
  | cons w ws ih =>
    obtain ⟨⟨any, solid⟩, rest⟩ := List.forall_mem_cons.mp h
    cases ws with
    | nil =>
      rw [unwords, List.intercalate_singleton]
      exact word solid
    | cons v ws =>
      rw [unwords_cons_cons, List.isChain_append, List.isChain_cons]
      refine ⟨word solid, ⟨fun b hb _ => head?_unwords rest b hb, ih rest⟩, fun a ha b hb blank => ?_⟩
      rw [solid a (List.mem_of_getLast? ha)] at blank
      cases blank

theorem isCleanLine_cleanLine (s : List Char) : IsCleanLine (cleanLine s) := by
  unfold cleanLine
  generalize kept : (unifyBreaks s).filter (fun c => !isControl c) = t
  have plain : ∀ c ∈ t, isControl c = false := by
    intro c hc
    rw [← kept] at hc
    simpa using (List.mem_filter.mp hc).2
  have words : ∀ w ∈ words t, IsWord w := fun w => isWord_of_mem_words
  refine ⟨fun c hc => ?_, ?_, fun c hc blank => ?_, isChain_unwords words⟩
  · obtain rfl | ⟨w, hw, hc⟩ := mem_unwords hc
    · decide
    · exact plain c (mem_of_mem_words hw hc)
  · exact trimBy_eq_self_iff.mpr ⟨head?_unwords words, getLast?_unwords words⟩
  · obtain rfl | ⟨w, hw, hc⟩ := mem_unwords hc
    · rfl
    · rw [(words w hw).2 c hc] at blank
      cases blank

theorem IsCleanLine.isLine (h : IsCleanLine s) : IsLine s := by
  intro c hc
  by_contra boundary
  have blank := isBlank_of_isLineBoundary (eq_true_of_ne_false boundary)
  rw [h.spaces c hc blank] at boundary
  exact boundary (by decide)

theorem fields_congr {q : Char → Bool} (h : ∀ c ∈ s, p c = q c) : fields p s = fields q s := by
  induction s with
  | nil => rfl
  | cons c r ih =>
    obtain ⟨first, rest⟩ := List.forall_mem_cons.mp h
    rw [fields, fields, first, ih rest]

/-- Single separators leave no empty field, at the beginning of the text apart. -/
theorem ne_nil_of_mem_tail_fields (last : ∀ c, s.getLast? = some c → p c = false)
    (single : s.IsChain fun a b => p a = true → p b = false) :
    ∀ w ∈ (fields p s).tail, w ≠ [] := by
  induction s with
  | nil =>
    intro w hw
    cases hw
  | cons c r ih =>
    obtain ⟨next, rest⟩ := List.isChain_cons.mp single
    have others := ih (fun d hd => last d (by
      cases r with
      | nil => cases hd
      | cons => rwa [List.getLast?_cons_cons])) rest
    obtain ⟨w, ws, cut⟩ := List.exists_cons_of_ne_nil (fields_ne_nil p r)
    rw [cut] at others
    cases sep : p c with
    | false => simpa [fields, sep, cut] using others
    | true =>
      have first : w ≠ [] := by
        rintro rfl
        cases r with
        | nil =>
          rw [last c rfl] at sep
          cases sep
        | cons d r =>
          have solid : p d = false := next d rfl sep
          simp only [fields, solid, Bool.false_eq_true, if_false] at cut
          split at cut <;> cases cut
      simp only [fields, sep, if_true, List.tail_cons, cut, List.forall_mem_cons]
      exact ⟨first, others⟩

theorem unwords_words (trimmed : IsTrimmed s) (spaces : ∀ c ∈ s, isBlank c = true → c = ' ')
    (single : s.IsChain fun a b => isBlank a = true → isBlank b = false) :
    unwords (words s) = s := by
  obtain ⟨front, back⟩ := trimBy_eq_self_iff.mp trimmed
  have cut : fields isBlank s = splitAt ' ' s := by
    apply fields_congr
    intro c hc
    by_cases space : c = ' '
    · subst space
      rfl
    · have solid : isBlank c = false := by
        by_contra blank
        exact space (spaces c hc (by simpa using blank))
      simp [solid, space]
  cases s with
  | nil => rfl
  | cons c r =>
    have all : ∀ w ∈ fields isBlank (c :: r), w ≠ [] := by
      have others := ne_nil_of_mem_tail_fields back single
      have solid : isBlank c = false := front c rfl
      obtain ⟨w, ws, cut⟩ := List.exists_cons_of_ne_nil (fields_ne_nil isBlank r)
      simp only [fields, solid, Bool.false_eq_true, if_false, cut, List.tail_cons] at others ⊢
      exact List.forall_mem_cons.mpr ⟨List.cons_ne_nil _ _, others⟩
    rw [words, List.filter_eq_self.mpr (by simpa using all), cut]
    exact intercalate_splitAt ' ' (c :: r)

theorem not_mem_of_plain (plain : ∀ c ∈ s, c = '\n' ∨ isControl c = false) : '\r' ∉ s := by
  intro h
  obtain feed | printed := plain '\r' h
  · cases feed
  · cases printed

theorem cleanLine_eq_self_iff : cleanLine s = s ↔ IsCleanLine s := by
  constructor
  · exact fun same => same ▸ isCleanLine_cleanLine s
  · intro h
    have kept : s.filter (fun c => !isControl c) = s :=
      List.filter_eq_self.mpr fun c hc => by simp [h.plain c hc]
    rw [cleanLine, unifyBreaks_eq_self (not_mem_of_plain fun c hc => .inr (h.plain c hc)), kept,
      unwords_words h.trimmed h.spaces h.single]

/-- The trimmed lines of a text are the lines of what they are joined to. -/
theorem splitAt_joinLines_trim (s : List Char) :
    splitAt '\n' (joinLines ((splitAt '\n' s).map trim)) = (splitAt '\n' s).map trim := by
  apply fields_intercalate (by decide)
  · rw [ne_eq, List.map_eq_nil_iff]
    exact fields_ne_nil _ _
  · intro l hl c hc
    obtain ⟨l, cut, rfl⟩ := List.mem_map.mp hl
    exact not_of_mem_fields (p := (· == '\n')) cut (mem_of_mem_trimBy hc)

theorem mem_joinLines_trim (h : c ∈ joinLines ((splitAt '\n' s).map trim)) : c = '\n' ∨ c ∈ s := by
  obtain feed | ⟨l, hl, hc⟩ := mem_intercalate h
  · exact .inl feed
  · obtain ⟨l, cut, rfl⟩ := List.mem_map.mp hl
    exact .inr (mem_of_mem_fields cut (mem_of_mem_trimBy hc))

theorem isCleanText_cleanText (s : List Char) : IsCleanText (cleanText s) := by
  unfold cleanText
  dsimp only
  generalize kept : (unifyBreaks s).filter (fun c => c == '\n' || !isControl c) = t
  have plain : ∀ c ∈ t, c = '\n' ∨ isControl c = false := by
    intro c hc
    rw [← kept] at hc
    simpa using (List.mem_filter.mp hc).2
  refine ⟨fun c hc => ?_, ?_, fun l hl => ?_, not_tripleBreak_squeezeBreaks (Nat.zero_le 2) _⟩
  · obtain feed | hc := mem_joinLines_trim ((squeezeBreaks_sublist 0 _).subset hc)
    · exact .inl feed
    · exact plain c (mem_of_mem_trimBy hc)
  · exact isTrimmed_squeezeBreaks (isTrimmed_joinLines (trimBy_trimBy isBlank t)) Nat.two_pos
  · have hl := (splitAt_squeezeBreaks 0 _).1 hl
    rw [splitAt_joinLines_trim] at hl
    obtain ⟨l, -, rfl⟩ := List.mem_map.mp hl
    exact trimBy_trimBy isBlank l

theorem cleanText_eq_self_iff : cleanText s = s ↔ IsCleanText s := by
  constructor
  · exact fun same => same ▸ isCleanText_cleanText s
  · intro h
    have kept : s.filter (fun c => c == '\n' || !isControl c) = s :=
      List.filter_eq_self.mpr fun c hc => by
        obtain rfl | plain := h.plain c hc
        · rfl
        · simp [plain]
    have lines : (splitAt '\n' s).map trim = splitAt '\n' s :=
      (List.map_congr_left h.lines).trans (List.map_id _)
    have trimmed : trim s = s := h.trimmed
    have joined : joinLines (splitAt '\n' s) = s := intercalate_splitAt '\n' s
    rw [cleanText, unifyBreaks_eq_self (not_mem_of_plain h.plain)]
    simp only [kept, trimmed, lines, joined]
    exact squeezeBreaks_eq_self (n := 0) (by decide) h.spaced

end NormalForms

section Names

variable {names : List (List Char)}

/-- Names that are clean, and of which no two fold alike. -/
structure AreCleanNames (names : List (List Char)) : Prop where
  clean : ∀ w ∈ names, w ≠ [] ∧ IsCleanLine w
  apart : names.Pairwise fun a b => fold a ≠ fold b

theorem areCleanNames_cleanNames (names : List (List Char)) :
    AreCleanNames (cleanNames names) where
  clean := by
    intro w hw
    rw [cleanNames_eq] at hw
    obtain ⟨hw, any⟩ := List.mem_filter.mp ((firstsBy_sublist fold _).subset hw)
    obtain ⟨raw, -, rfl⟩ := List.mem_map.mp hw
    exact ⟨by simpa using any, isCleanLine_cleanLine raw⟩
  apart := by
    rw [cleanNames_eq]
    exact firstsBy_apart fold _

theorem cleanNames_eq_self (h : AreCleanNames names) : cleanNames names = names := by
  have clean : names.map cleanLine = names :=
    (List.map_congr_left fun w hw => cleanLine_eq_self_iff.mpr (h.clean w hw).2).trans
      (List.map_id _)
  have any : names.filter (fun w => !w.isEmpty) = names :=
    List.filter_eq_self.mpr fun w hw => by simpa using (h.clean w hw).1
  rw [cleanNames_eq, clean, any, firstsBy_eq_self h.apart]

end Names

end TicketKeeper.Text
