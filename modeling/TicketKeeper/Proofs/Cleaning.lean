import TicketKeeper.Proofs.Text.Clean

/-! What cleaning leaves of a text. The characters that are neither blank nor control characters
stay in their order, and a second cleaning changes nothing. The words of a text stay apart in its
clean line unless nothing but control characters stands between them. -/
namespace TicketKeeper.Text

variable {p sep : Char → Bool} {s w : List Char} {ws : List (List Char)} {c : Char}

def isVisible (c : Char) : Bool := !isBlank c && !isControl c

theorem isVisible_iff : isVisible c = true ↔ isBlank c = false ∧ isControl c = false := by
  simp [isVisible]

section Kept

theorem filter_unifyBreaks (cr : p '\r' = false) (lf : p '\n' = false) (s : List Char) :
    (unifyBreaks s).filter p = s.filter p := by
  fun_induction unifyBreaks s with
  | case1 => rfl
  | case2 r ih => simp [cr, lf, ih]
  | case3 r _ ih => simp [cr, lf, ih]
  | case4 c r _ _ ih => rw [List.filter_cons, List.filter_cons, ih]

theorem filter_squeezeBreaks (lf : p '\n' = false) (n : Nat) (s : List Char) :
    (squeezeBreaks n s).filter p = s.filter p := by
  fun_induction squeezeBreaks n s with
  | case1 => rfl
  | case2 n c r feed few ih => rw [List.filter_cons, List.filter_cons, ih]
  | case3 n c r feed many ih =>
    obtain rfl : c = '\n' := beq_iff_eq.mp feed
    simp [lf, ih]
  | case4 n c r other ih => rw [List.filter_cons, List.filter_cons, ih]

theorem flatten_filter_fields (apart : ∀ c, sep c = true → p c = false) (s : List Char) :
    ((fields sep s).map (List.filter p)).flatten = s.filter p := by
  fun_induction fields sep s with
  | case1 => rfl
  | case2 c r cut ih => simp [apart c cut, ih]
  | case3 c r kept none ih => exact absurd none (fields_ne_nil sep r)
  | case4 c r kept w ws cut ih =>
    rw [cut] at ih
    rw [List.map_cons, List.flatten_cons] at ih ⊢
    rw [List.filter_cons, List.filter_cons, ← ih]
    split <;> rfl

theorem filter_intercalate (apart : p c = false) (ws : List (List Char)) :
    ([c].intercalate ws).filter p = (ws.map (List.filter p)).flatten := by
  induction ws with
  | nil => rfl
  | cons w ws ih =>
    cases ws with
    | nil => simp
    | cons v ws =>
      rw [List.intercalate_cons_cons, List.filter_append, List.filter_append, ih]
      simp [apart]

theorem filter_trimBy (apart : ∀ c, sep c = true → p c = false) (s : List Char) :
    (trimBy sep s).filter p = s.filter p := by
  have front (s : List Char) : (s.dropWhile sep).filter p = s.filter p := by
    induction s with
    | nil => rfl
    | cons c r ih =>
      cases cut : sep c with
      | true => rw [List.dropWhile_cons_of_pos cut, ih, List.filter_cons, apart c cut]; rfl
      | false => rw [List.dropWhile_cons_of_neg (by simp [cut])]
  rw [trimBy, dropEndWhile, List.filter_reverse, front, ← List.filter_reverse, List.reverse_reverse,
    front]

theorem isVisible_of_isBlank (h : isBlank c = true) : isVisible c = false := by
  simp [isVisible, h]

theorem flatten_filter_words (s : List Char) :
    ((words s).map (List.filter isVisible)).flatten = s.filter isVisible := by
  have dropped (ws : List (List Char)) :
      ((ws.filter fun w => !w.isEmpty).map (List.filter isVisible)).flatten =
        (ws.map (List.filter isVisible)).flatten := by
    induction ws with
    | nil => rfl
    | cons w ws ih => cases w <;> simp [ih]
  rw [words, dropped, flatten_filter_fields fun c => isVisible_of_isBlank]

theorem filter_plain {keep : Char → Bool} (h : ∀ c, isControl c = false → keep c = true)
    (s : List Char) : (s.filter keep).filter isVisible = s.filter isVisible := by
  rw [List.filter_filter]
  refine List.filter_congr fun c _ => ?_
  cases shown : isVisible c with
  | false => rfl
  | true => simp [h c (isVisible_iff.mp shown).2]

theorem filter_cleanLine (s : List Char) : (cleanLine s).filter isVisible = s.filter isVisible := by
  rw [cleanLine, unwords, filter_intercalate (by decide), flatten_filter_words,
    filter_plain fun c plain => by simp [plain], filter_unifyBreaks (by decide) (by decide)]

theorem filter_cleanText (s : List Char) : (cleanText s).filter isVisible = s.filter isVisible := by
  have trimmed (s : List Char) : (trim s).filter isVisible = s.filter isVisible :=
    filter_trimBy (fun c => isVisible_of_isBlank) s
  have each : List.filter isVisible ∘ trim = List.filter isVisible := funext trimmed
  have lines (s : List Char) : (joinLines ((splitAt '\n' s).map trim)).filter isVisible =
      s.filter isVisible := by
    rw [joinLines, filter_intercalate (by decide), List.map_map, each, splitAt,
      flatten_filter_fields]
    intro c feed
    rw [beq_iff_eq.mp feed]
    decide
  unfold cleanText
  dsimp only
  rw [filter_squeezeBreaks (by decide), lines, trimmed,
    filter_plain fun c plain => by simp [plain], filter_unifyBreaks (by decide) (by decide)]

theorem words_cons_of_isBlank (h : isBlank c = true) (s : List Char) : words (c :: s) = words s := by
  simp [words, fields, h]

theorem words_concat_of_isBlank (h : isBlank c = true) (s : List Char) :
    words (s ++ [c]) = words s := by
  simp [words, fields_append_cons h, fields]

theorem words_filter_trim (keep : Char → Bool) (s : List Char) :
    words ((trim s).filter keep) = words (s.filter keep) := by
  have front (s : List Char) : words ((s.dropWhile isBlank).filter keep) = words (s.filter keep) := by
    induction s with
    | nil => rfl
    | cons c r ih =>
      cases blank : isBlank c with
      | false => rw [List.dropWhile_cons_of_neg (by simp [blank])]
      | true =>
        rw [List.dropWhile_cons_of_pos blank, ih]
        cases kept : keep c <;> simp [kept, words_cons_of_isBlank blank]
  have back (s : List Char) : words ((s.rdropWhile isBlank).filter keep) = words (s.filter keep) := by
    induction s using List.reverseRecOn with
    | nil => rfl
    | append_singleton r c ih =>
      cases blank : isBlank c with
      | false => rw [List.rdropWhile_concat_neg _ _ _ (by simp [blank])]
      | true =>
        rw [List.rdropWhile_concat_pos _ _ _ blank, ih, List.filter_append]
        cases kept : keep c <;> simp [kept, words_concat_of_isBlank blank]
  rw [trim, trimBy, dropEndWhile_eq, back, front]

theorem cleanLine_trim (s : List Char) : cleanLine (trim s) = cleanLine s := by
  simp only [cleanLine, filter_unifyBreaks (p := fun c => !isControl c) (by decide) (by decide),
    words_filter_trim]

/-- Cleaning gives a normal form, keeps what is in normal form and every visible character, and
changes nothing when it is repeated. -/
theorem cleaning_normal (s : List Char) :
    (IsCleanLine (cleanLine s) ∧ (cleanLine s = s ↔ IsCleanLine s) ∧
        (cleanLine s).filter isVisible = s.filter isVisible ∧
        cleanLine (cleanLine s) = cleanLine s) ∧
      IsCleanText (cleanText s) ∧ (cleanText s = s ↔ IsCleanText s) ∧
        (cleanText s).filter isVisible = s.filter isVisible ∧
        cleanText (cleanText s) = cleanText s := by
  have line := isCleanLine_cleanLine s
  have text := isCleanText_cleanText s
  exact ⟨⟨line, cleanLine_eq_self_iff, filter_cleanLine s, cleanLine_eq_self_iff.mpr line⟩,
    text, cleanText_eq_self_iff, filter_cleanText s, cleanText_eq_self_iff.mpr text⟩

end Kept

section Words

def printed (s : List Char) : List Char := s.filter fun c => !isControl c

def isPrintedBlank (c : Char) : Bool := isBlank c && !isControl c

/-- What is printed of the fields of a text, where there is something. -/
def printedFields (sep : Char → Bool) (s : List Char) : List (List Char) :=
  ((fields sep s).map printed).filter fun w => !w.isEmpty

/-- The words of a text without their control characters, where any are left. -/
def printedWords (s : List Char) : List (List Char) :=
  ((words s).map printed).filter fun w => !w.isEmpty

theorem printed_cons_of_control (h : isControl c = true) (s : List Char) :
    printed (c :: s) = printed s := by
  simp [printed, h]

theorem printed_cons_of_visible (h : isVisible c = true) (s : List Char) :
    printed (c :: s) = c :: printed s := by
  simp [printed, (isVisible_iff.mp h).2]

theorem fields_filter (keep : Char → Bool) (s : List Char) :
    fields sep (s.filter keep) = (fields (fun c => sep c && keep c) s).map (List.filter keep) := by
  induction s with
  | nil => rfl
  | cons c r ih =>
    obtain ⟨w, ws, cut⟩ := List.exists_cons_of_ne_nil (fields_ne_nil (fun c => sep c && keep c) r)
    rw [cut] at ih
    cases kept : keep c <;> cases ends : sep c <;> simp [fields, kept, ends, ih, cut]

/-- The words of the clean line are what is printed between the blanks that are. -/
theorem words_cleanLine_eq (s : List Char) :
    words (cleanLine s) = printedFields isPrintedBlank s := by
  rw [cleanLine, words_unwords fun w => isWord_of_mem_words,
    filter_unifyBreaks (by decide) (by decide), words, fields_filter]
  rfl

theorem printedFields_isBlank (s : List Char) : printedFields isBlank s = printedWords s := by
  unfold printedFields printedWords words
  induction fields isBlank s with
  | nil => rfl
  | cons w ws ih =>
    cases w with
    | nil => simpa [printed] using ih
    | cons c w =>
      simp only [List.map_cons, List.filter_cons, ih, List.isEmpty_cons, Bool.not_false, if_true]

/-- The characters in front of the first visible one. -/
def lead (s : List Char) : List Char := s.takeWhile fun c => !isVisible c

def Leads (sep : Char → Bool) (s : List Char) : Prop :=
  s.any isVisible = true ∧ ∀ c ∈ lead s, sep c = false

/-- Separators that are blanks, all the printed ones among them. -/
structure Parts (sep : Char → Bool) : Prop where
  blank : ∀ c, sep c = true → isBlank c = true
  every : ∀ c, isPrintedBlank c = true → sep c = true

theorem parts_isBlank : Parts isBlank where
  blank _ := id
  every c h := by simp_all [isPrintedBlank]

theorem parts_isPrintedBlank : Parts isPrintedBlank where
  blank c h := by simp_all [isPrintedBlank]
  every _ := id

namespace Parts

variable (parts : Parts sep)
include parts

theorem not_visible (h : sep c = true) : isVisible c = false :=
  isVisible_of_isBlank (parts.blank c h)

theorem control (shown : isVisible c = false) (h : sep c = false) : isControl c = true := by
  by_contra free
  have blank : isBlank c = true := by simpa [isVisible, free] using shown
  rw [parts.every c (by simpa [isPrintedBlank, blank] using free)] at h
  cases h

theorem printed_first (cut : fields sep s = w :: ws) : printed w ≠ [] ↔ Leads sep s := by
  induction s generalizing w ws with
  | nil =>
    cases cut
    simp [printed, Leads]
  | cons c r ih =>
    obtain ⟨v, vs, rest⟩ := List.exists_cons_of_ne_nil (fields_ne_nil sep r)
    cases ends : sep c with
    | true =>
      have hidden := parts.not_visible ends
      simp only [fields, ends, if_true, List.cons.injEq] at cut
      simp [← cut.1, printed, Leads, lead, hidden, ends]
    | false =>
      simp only [fields, ends, Bool.false_eq_true, if_false, rest, List.cons.injEq] at cut
      obtain ⟨rfl, rfl⟩ := cut
      cases shown : isVisible c with
      | true => simp [printed_cons_of_visible shown, Leads, lead, shown]
      | false =>
        rw [printed_cons_of_control (parts.control shown ends), ih rest]
        simp [Leads, lead, shown, ends]

theorem printedFields_hidden (hidden : isVisible c = false) (s : List Char) :
    printedFields sep (c :: s) = printedFields sep s := by
  obtain ⟨w, ws, cut⟩ := List.exists_cons_of_ne_nil (fields_ne_nil sep s)
  cases ends : sep c with
  | true => simp [printedFields, fields, ends, printed]
  | false =>
    simp [printedFields, fields, ends, cut, printed_cons_of_control (parts.control hidden ends)]

theorem printedFields_visible (shown : isVisible c = true) (s : List Char) :
    (Leads sep s ∧ ∃ w ws, w ≠ [] ∧ printedFields sep s = w :: ws ∧
        printedFields sep (c :: s) = (c :: w) :: ws) ∨
      ¬Leads sep s ∧ printedFields sep (c :: s) = [c] :: printedFields sep s := by
  obtain ⟨w, ws, cut⟩ := List.exists_cons_of_ne_nil (fields_ne_nil sep s)
  have inside : sep c = false := by
    by_contra ends
    rw [parts.not_visible (by simpa using ends)] at shown
    cases shown
  have begun : fields sep (c :: s) = (c :: w) :: ws := by simp [fields, inside, cut]
  by_cases leads : Leads sep s
  · have any := (parts.printed_first cut).mpr leads
    refine .inl ⟨leads, printed w, (ws.map printed).filter fun w => !w.isEmpty, any, ?_, ?_⟩
    · rw [printedFields, cut, List.map_cons, List.filter_cons_of_pos (by simpa using any)]
    · simp [printedFields, begun, printed_cons_of_visible shown]
  · have none : printed w = [] := not_not.mp fun any => leads ((parts.printed_first cut).mp any)
    exact .inr ⟨leads, by simp [printedFields, begun, cut, printed_cons_of_visible shown, none]⟩

end Parts

/-- Only control characters stand in front of the first visible one, a blank among them. -/
def OpensGap (s : List Char) : Prop :=
  ∃ gap y back, s = gap ++ y :: back ∧ isVisible y = true ∧
    (∀ c ∈ gap, isControl c = true) ∧ ∃ c ∈ gap, isBlank c = true

/-- Two visible characters have such a gap between them. -/
def HasControlGap (s : List Char) : Prop :=
  ∃ front x back, s = front ++ x :: back ∧ isVisible x = true ∧ OpensGap back

theorem opensGap_iff : OpensGap s ↔ Leads isPrintedBlank s ∧ ¬Leads isBlank s := by
  have hidden : ∀ c ∈ lead s, isVisible c = false := fun c hc => by
    simpa using List.mem_takeWhile_imp hc
  constructor
  · rintro ⟨gap, y, back, rfl, shown, controls, b, hb, blank⟩
    have front : lead (gap ++ y :: back) = gap := by
      have dark : ∀ c ∈ gap, (!isVisible c) = true := fun c hc => by
        simp [isVisible, controls c hc]
      rw [lead, List.takeWhile_append_of_pos dark, List.takeWhile_cons_of_neg (by simp [shown]),
        List.append_nil]
    refine ⟨⟨by simp [shown], fun c hc => ?_⟩, fun ⟨_, solid⟩ => ?_⟩
    · rw [front] at hc
      simp [isPrintedBlank, controls c hc]
    · rw [solid b (front.symm ▸ hb)] at blank
      cases blank
  · rintro ⟨⟨any, apart⟩, blank⟩
    have controls : ∀ c ∈ lead s, isControl c = true := fun c hc =>
      parts_isPrintedBlank.control (hidden c hc) (apart c hc)
    have blank : ∃ c ∈ lead s, isBlank c = true := by
      simpa [Leads, any] using blank
    have whole : lead s ++ s.dropWhile (fun c => !isVisible c) = s := List.takeWhile_append_dropWhile
    cases rest : s.dropWhile fun c => !isVisible c with
    | nil =>
      obtain ⟨c, hc, shown⟩ := List.any_eq_true.mp any
      have dark := List.dropWhile_eq_nil_iff.mp rest c hc
      simp [shown] at dark
    | cons y back =>
      have shown := List.head?_dropWhile_not (fun c => !isVisible c) s
      rw [rest] at whole shown
      exact ⟨lead s, y, back, whole.symm, by simpa using shown, controls, blank⟩

theorem hasControlGap_cons :
    HasControlGap (c :: s) ↔ (isVisible c = true ∧ OpensGap s) ∨ HasControlGap s := by
  constructor
  · rintro ⟨front, x, back, whole, shown, gap⟩
    cases front with
    | nil =>
      obtain ⟨rfl, rfl⟩ := List.cons.inj whole
      exact .inl ⟨shown, gap⟩
    | cons d front =>
      obtain ⟨rfl, rfl⟩ := List.cons.inj whole
      exact .inr ⟨front, x, back, rfl, shown, gap⟩
  · rintro (⟨shown, gap⟩ | ⟨front, x, back, rfl, shown, gap⟩)
    · exact ⟨[], c, s, rfl, shown, gap⟩
    · exact ⟨c :: front, x, back, rfl, shown, gap⟩

/-- Both ways to cut a text agree but for the gaps, which only the printed blanks do not see. -/
theorem printedFields_eq_iff (s : List Char) :
    printedFields isPrintedBlank s = printedFields isBlank s ↔ ¬HasControlGap s := by
  induction s with
  | nil => exact iff_of_true rfl fun ⟨_, _, _, whole, _⟩ => by simp at whole
  | cons c r ih =>
    rw [hasControlGap_cons, opensGap_iff, not_or, ← ih]
    cases shown : isVisible c with
    | false =>
      rw [parts_isPrintedBlank.printedFields_hidden shown, parts_isBlank.printedFields_hidden shown]
      simp
    | true =>
      rcases parts_isPrintedBlank.printedFields_visible shown r with
        ⟨leads, v, vs, hv, cut, begun⟩ | ⟨leads, begun⟩
      · rcases parts_isBlank.printedFields_visible shown r with
          ⟨leads', w, ws, -, cut', begun'⟩ | ⟨leads', begun'⟩
        · rw [begun, begun', cut, cut']
          simp [leads']
        -- A gap: for the printed blanks the field goes on behind it.
        · rw [begun, begun']
          simp [leads, leads', hv]
      · have leads' : ¬Leads isBlank r := fun ⟨any, solid⟩ =>
          leads ⟨any, fun c hc => by simp [isPrintedBlank, solid c hc]⟩
        have begun' := (parts_isBlank.printedFields_visible shown r).resolve_left (leads' ·.1)
        rw [begun, begun'.2]
        simp [leads]

/-- The words of a clean line are what is printed between the blanks that are no control characters.
So they are the printed words of the text unless it has a gap of control characters. -/
theorem words_cleanLine (s : List Char) :
    words (cleanLine s) = printedFields isPrintedBlank s ∧
      (words (cleanLine s) = printedWords s ↔ ¬HasControlGap s) := by
  rw [words_cleanLine_eq, ← printedFields_isBlank]
  exact ⟨rfl, printedFields_eq_iff s⟩

/-- A line break that joins two words. -/
theorem words_cleanLine_broken :
    let s := "a\nb".toList
    words (cleanLine s) = ["ab".toList] ∧ printedWords s = ["a".toList, "b".toList] := by
  decide

end Words

end TicketKeeper.Text
