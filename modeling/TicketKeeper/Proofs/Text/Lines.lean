import Mathlib.Data.List.DropRight
import TicketKeeper.Text.Split

/-! Trimmed texts and their lines. A text is trimmed when neither end of it is blank; a line feed
behind such a text ends its last line and begins no line of its own. Lines are cut at every
boundary, where CR LF is one. -/
namespace TicketKeeper.Text

variable {p : Char → Bool} {s t : List Char}

theorem dropEndWhile_eq (p : Char → Bool) (s : List Char) : dropEndWhile p s = s.rdropWhile p := rfl

theorem trimBy_eq_self_iff : trimBy p s = s ↔
    (∀ c, s.head? = some c → p c = false) ∧ (∀ c, s.getLast? = some c → p c = false) := by
  rw [trimBy, dropEndWhile_eq]
  constructor
  · intro h
    have pre : s.dropWhile p = s := by
      apply (List.dropWhile_suffix p).eq_of_length_le
      rw [← h]
      exact h.symm ▸ (List.rdropWhile_prefix p _).length_le
    rw [pre] at h
    refine ⟨fun c hc => ?_, fun c hc => ?_⟩
    · have := List.head?_dropWhile_not p s
      rw [pre, hc] at this
      exact this
    · have hne : s ≠ [] := by
        rintro rfl
        contradiction
      have last := List.rdropWhile_eq_self_iff.mp h hne
      rw [List.getLast_of_getLast?_eq_some hc] at last
      exact eq_false_of_ne_true last
  · rintro ⟨front, back⟩
    have pre : s.dropWhile p = s := by
      cases s with
      | nil => rfl
      | cons c r => exact List.dropWhile_cons_of_neg (by simp [front c rfl])
    rw [pre, List.rdropWhile_eq_self_iff]
    intro hne
    simp [back _ (List.getLast?_eq_some_getLast hne)]

theorem trimBy_eq_self (h : ∀ c ∈ s, p c = false) : trimBy p s = s :=
  trimBy_eq_self_iff.mpr
    ⟨fun c hc => h c (List.mem_of_head? hc), fun c hc => h c (List.mem_of_getLast? hc)⟩

theorem mem_of_mem_trimBy {c : Char} (h : c ∈ trimBy p s) : c ∈ s :=
  (List.dropWhile_suffix p).subset ((List.rdropWhile_prefix p _).subset h)

theorem trimBy_eq_nil (h : trimBy p s = []) : ∀ c ∈ s, p c = true := by
  rw [trimBy, dropEndWhile_eq, List.rdropWhile_eq_nil_iff] at h
  intro c hc
  rw [← List.takeWhile_append_dropWhile (p := p) (l := s), List.mem_append] at hc
  exact hc.elim List.mem_takeWhile_imp (h c)

theorem trimBy_trimBy (p : Char → Bool) (s : List Char) : trimBy p (trimBy p s) = trimBy p s := by
  refine trimBy_eq_self_iff.mpr ⟨fun c hc => ?_, fun c hc => ?_⟩
  · have first := List.head?_dropWhile_not p s
    obtain ⟨r, hr⟩ := List.rdropWhile_prefix p (s.dropWhile p)
    rw [← hr, List.head?_append, show (s.dropWhile p).rdropWhile p = trimBy p s from rfl, hc] at first
    exact first
  · have hne : trimBy p s ≠ [] := by
      intro hnil
      rw [hnil] at hc
      contradiction
    rw [← List.getLast_of_getLast?_eq_some hc]
    exact eq_false_of_ne_true (List.rdropWhile_last_not p (s.dropWhile p) hne)

def IsTrimmed (s : List Char) : Prop := trim s = s

def IsLine (s : List Char) : Prop := ∀ c ∈ s, isLineBoundary c = false

instance (s : List Char) : Decidable (IsLine s) :=
  List.decidableBAll (fun c => isLineBoundary c = false) s

theorem IsTrimmed.getLast (h : IsTrimmed s) (hne : s ≠ []) :
    isLineBoundary (s.getLast hne) = false := by
  have last := (trimBy_eq_self_iff.mp h).2 _ (List.getLast?_eq_some_getLast hne)
  by_contra hb
  rw [isBlank_of_isLineBoundary (by simpa using hb)] at last
  contradiction

theorem isLine_append : IsLine (s ++ t) ↔ IsLine s ∧ IsLine t := List.forall_mem_append

theorem isLine_of_not_isBlank (h : ∀ c ∈ s, isBlank c = false) : IsLine s := by
  intro c hc
  by_contra boundary
  have blank := isBlank_of_isLineBoundary (by simpa using boundary)
  rw [h c hc] at blank
  contradiction

theorem isTrimmed_append (first : s.head?.map isBlank = some false)
    (last : t.getLast?.map isBlank = some false) (middle : List Char) :
    IsTrimmed (s ++ middle ++ t) := by
  obtain ⟨a, ha, first⟩ := Option.map_eq_some_iff.mp first
  obtain ⟨z, hz, last⟩ := Option.map_eq_some_iff.mp last
  refine trimBy_eq_self_iff.mpr ⟨fun c hc => ?_, fun c hc => ?_⟩
  · rw [List.append_assoc, List.head?_append, ha] at hc
    cases hc
    exact first
  · rw [List.getLast?_append, hz] at hc
    cases hc
    exact last

theorem isTrimmed_trimEnd (first : s.head?.map isBlank = some false) : IsTrimmed (trimEnd s) := by
  cases s with
  | nil => rfl
  | cons c r =>
    have same : trim (c :: r) = trimEnd (c :: r) := by
      rw [trim, trimBy, List.dropWhile_cons_of_neg (by simpa using first)]
      rfl
    rw [← same]
    exact trimBy_trimBy isBlank _

theorem trimEnd_append (last : s.getLast?.map isBlank = some false) (t : List Char) :
    trimEnd (s ++ t) = s ++ trimEnd t := by
  simp only [trimEnd, dropEndWhile_eq]
  induction t using List.reverseRecOn with
  | nil =>
    rw [List.append_nil, List.rdropWhile_nil, List.append_nil, List.rdropWhile_eq_self_iff]
    intro hne
    simpa [List.getLast?_eq_some_getLast hne] using last
  | append_singleton t c ih =>
    rw [← List.append_assoc]
    by_cases h : isBlank c
    · rw [List.rdropWhile_concat_pos _ _ _ h, List.rdropWhile_concat_pos _ _ _ h, ih]
    · rw [List.rdropWhile_concat_neg _ _ _ h, List.rdropWhile_concat_neg _ _ _ h,
        List.append_assoc]

theorem joinLines_cons_cons (p q : List Char) (ps : List (List Char)) :
    joinLines (p :: q :: ps) = p ++ '\n' :: joinLines (q :: ps) := by
  simp [joinLines, List.intercalate_cons_cons]

theorem lines_eq_nil (h : lines s = []) : s = [] := by
  fun_cases lines s <;> simp_all [lines]

theorem lines_cons {c : Char} {r : List Char} (h : ∀ t, c = '\r' → r = '\n' :: t → False) :
    lines (c :: r) = if isLineBoundary c then [] :: lines r
      else match lines r with
        | [] => [[c]]
        | l :: ls => (c :: l) :: ls :=
  lines.eq_3 c r h

theorem lines_newline (r : List Char) : lines ('\n' :: r) = [] :: lines r := by
  rw [lines_cons (by simp), if_pos (by decide)]

theorem lines_append_newline (hne : s ≠ []) (last : isLineBoundary (s.getLast hne) = false)
    (rest : List Char) : lines (s ++ '\n' :: rest) = lines s ++ lines rest := by
  fun_induction lines s with
  | case1 => contradiction
  | case2 r ih =>
    have hr : r ≠ [] := by
      rintro rfl
      simp [isLineBoundary] at last
    rw [List.getLast_cons (List.cons_ne_nil _ _), List.getLast_cons hr] at last
    simp only [List.cons_append, lines, ih hr last]
  | case3 c r pair hb ih =>
    have hr : r ≠ [] := by
      rintro rfl
      simp [hb] at last
    rw [List.getLast_cons hr] at last
    obtain ⟨d, r, rfl⟩ := List.exists_cons_of_ne_nil hr
    rw [List.cons_append, lines_cons (by simpa using pair), if_pos hb, ih hr last]
    rfl
  | case4 c r pair hb hr ih =>
    obtain rfl := lines_eq_nil hr
    rw [List.singleton_append, lines_cons, if_neg hb, lines_newline]
    · rfl
    · rintro t rfl -
      exact hb (by decide)
  | case5 c r pair hb l ls hr ih =>
    have hne : r ≠ [] := by
      rintro rfl
      contradiction
    rw [List.getLast_cons hne] at last
    have rest_lines := ih hne last
    obtain ⟨d, r, rfl⟩ := List.exists_cons_of_ne_nil hne
    rw [List.cons_append, lines_cons (by simpa using pair), if_neg hb, rest_lines, hr]
    rfl

theorem lines_of_isLine (hne : s ≠ []) (h : IsLine s) : lines s = [s] := by
  induction s with
  | nil => contradiction
  | cons c r ih =>
    have hc : isLineBoundary c = false := h c (by simp)
    rw [lines_cons, if_neg (by simp [hc])]
    · cases r with
      | nil => rfl
      | cons d r => rw [ih (by simp) fun e he => h e (List.mem_cons_of_mem c he)]
    · rintro t rfl -
      contradiction

theorem lines_head {c : Char} (hc : isLineBoundary c = false) (r : List Char) :
    ∃ l ls, lines (c :: r) = (c :: l) :: ls := by
  rw [lines_cons, if_neg (by simp [hc])]
  · cases lines r with
    | nil => exact ⟨[], [], rfl⟩
    | cons l ls => exact ⟨l, ls, rfl⟩
  · rintro t rfl -
    contradiction

theorem isLine_of_mem_lines {l : List Char} (h : l ∈ lines s) : IsLine l := by
  fun_induction lines s generalizing l with
  | case1 => contradiction
  | case2 r ih =>
    rcases List.mem_cons.mp h with rfl | h
    · simp [IsLine]
    · exact ih h
  | case3 c r pair hb ih =>
    rcases List.mem_cons.mp h with rfl | h
    · simp [IsLine]
    · exact ih h
  | case4 c r pair hb hr ih =>
    obtain rfl := List.mem_singleton.mp h
    simpa [IsLine] using hb
  | case5 c r pair hb l' ls hr ih =>
    rcases List.mem_cons.mp h with rfl | h
    · have tail : IsLine l' := ih (hr ▸ List.mem_cons_self)
      simpa [IsLine] using ⟨eq_false_of_ne_true hb, tail⟩
    · exact ih (hr ▸ List.mem_cons_of_mem _ h)

/-- What ends a line in front of a text: CR LF, or one boundary that is not the first half of it. -/
inductive LineEnd : List Char → List Char → Prop
  | pair (r : List Char) : LineEnd ['\r', '\n'] r
  | single {c : Char} {r : List Char} (boundary : isLineBoundary c = true)
      (alone : c = '\r' → r.head? ≠ some '\n') : LineEnd [c] r

/-- The lines of a text, each ended in front of the next one; no empty line follows the last. -/
inductive HasLines : List Char → List (List Char) → Prop
  | none : HasLines [] []
  | last {l : List Char} (any : l ≠ []) (line : IsLine l) : HasLines l [l]
  | ended {l e r : List Char} {ls : List (List Char)} (line : IsLine l) (ends : LineEnd e r)
      (rest : HasLines r ls) : HasLines (l ++ (e ++ r)) (l :: ls)

section Cut

variable {l e r : List Char} {ls : List (List Char)} {c : Char}

theorem isLine_cons : IsLine (c :: l) ↔ isLineBoundary c = false ∧ IsLine l := List.forall_mem_cons

theorem lines_append_end (line : IsLine l) (ends : LineEnd e r) :
    lines (l ++ (e ++ r)) = l :: lines r := by
  induction l with
  | nil =>
    cases ends with
    | pair => rfl
    | single boundary alone =>
      rw [List.nil_append, List.singleton_append, lines_cons, if_pos boundary]
      rintro t rfl rfl
      exact alone rfl rfl
  | cons c l ih =>
    obtain ⟨first, rest⟩ := isLine_cons.mp line
    rw [List.cons_append, lines_cons, if_neg (by simp [first]), ih rest]
    rintro t rfl -
    contradiction

theorem HasLines.lines_eq (h : HasLines s ls) : lines s = ls := by
  induction h with
  | none => rfl
  | last any line => exact lines_of_isLine any line
  | ended line ends _ ih => rw [lines_append_end line ends, ih]

theorem HasLines.cons (inside : isLineBoundary c = false) (h : HasLines s (l :: ls)) :
    HasLines (c :: s) ((c :: l) :: ls) := by
  cases h with
  | last any line => exact .last (List.cons_ne_nil _ _) (isLine_cons.mpr ⟨inside, line⟩)
  | ended line ends rest => exact .ended (isLine_cons.mpr ⟨inside, line⟩) ends rest

theorem hasLines_lines (s : List Char) : HasLines s (lines s) := by
  fun_induction lines s with
  | case1 => exact .none
  | case2 r ih => exact .ended (l := []) nofun (.pair r) ih
  | case3 c r pair boundary ih =>
    refine .ended (l := []) nofun (.single boundary fun same begins => ?_) ih
    obtain ⟨t, rest⟩ := List.head?_eq_some_iff.mp begins
    exact pair t same rest
  | case4 c r pair inside none ih =>
    obtain rfl := lines_eq_nil none
    exact .last (List.cons_ne_nil _ _) (isLine_cons.mpr ⟨by simpa using inside, nofun⟩)
  | case5 c r pair inside l ls cut ih =>
    rw [cut] at ih
    exact ih.cons (by simpa using inside)

/-- A text has one list of lines only. -/
theorem hasLines_iff : HasLines s ls ↔ ls = lines s :=
  ⟨fun h => h.lines_eq.symm, fun h => h ▸ hasLines_lines s⟩

end Cut

end TicketKeeper.Text
