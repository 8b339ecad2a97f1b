import TicketKeeper.Field
import TicketKeeper.Proofs.Text.Clean

/-! What is read of fields. Lines and texts are clean, and those that are clean are read as they
are. Of values that are listed, or stand between commas, a list of names keeps the clean texts that
fold like no earlier one; so only different names count for its limit, and what is kept is kept
again. -/
namespace TicketKeeper.Field

open TicketKeeper.Text

variable {limit : Option Int} {v : Json} {values : List Json} {s : String} {ns : List String}

section Lines

theorem line_str (clean : IsCleanLine s.toList) : line (.str s) = s := by
  change String.ofList (cleanLine s.toList) = s
  rw [cleanLine_eq_self_iff.mpr clean, String.ofList_toList]

theorem text_str (clean : IsCleanText s.toList) : text (.str s) = s := by
  change String.ofList (cleanText s.toList) = s
  rw [cleanText_eq_self_iff.mpr clean, String.ofList_toList]

theorem isCleanLine_line (v : Json) : IsCleanLine (line v).toList := by
  rw [line, String.toList_ofList]
  exact isCleanLine_cleanLine _

theorem isCleanText_text (v : Json) : IsCleanText (text v).toList := by
  rw [text, String.toList_ofList]
  exact isCleanText_cleanText _

theorem line_of_isPresent (h : isPresent v = true) :
    line v = String.ofList (cleanLine v.text.toList) := by
  cases v with
  | null => cases h
  | _ => rfl

end Lines

section Names

def cleanTexts (values : List Json) : List String :=
  ((values.filter isPresent).map line).filter (· ≠ "")

def folded (name : String) : List Char := fold name.toList

def variety (ns : List String) : Nat := (ns.map folded).toFinset.card

theorem isCleanLine_of_mem_cleanTexts (h : s ∈ cleanTexts values) :
    s ≠ "" ∧ IsCleanLine s.toList := by
  obtain ⟨hs, any⟩ := List.mem_filter.mp h
  obtain ⟨v, -, rfl⟩ := List.mem_map.mp hs
  exact ⟨by simpa using any, isCleanLine_line v⟩

theorem cleanTexts_str (h : ∀ s ∈ ns, s ≠ "" ∧ IsCleanLine s.toList) :
    cleanTexts (ns.map .str) = ns := by
  have present : (ns.map Json.str).filter isPresent = ns.map .str := by
    rw [List.filter_map, List.filter_eq_self.mpr]
    exact fun _ _ => rfl
  have lines : (ns.map Json.str).map line = ns := by
    rw [List.map_map]
    exact (List.map_congr_left fun s hs => line_str (h s hs).2).trans (List.map_id _)
  rw [cleanTexts, present, lines, List.filter_eq_self]
  intro s hs
  simpa using (h s hs).1

theorem cleanTexts_eq (values : List Json) : cleanTexts values =
    ((((values.filter isPresent).map fun v => v.text.toList).map cleanLine).filter
      fun w => !w.isEmpty).map String.ofList := by
  have lines : (values.filter isPresent).map line =
      (((values.filter isPresent).map fun v => v.text.toList).map cleanLine).map String.ofList := by
    rw [List.map_map, List.map_map]
    exact List.map_congr_left fun v hv => line_of_isPresent (List.mem_filter.mp hv).2
  rw [cleanTexts, lines, List.filter_map]
  congr 1
  refine List.filter_congr fun w _ => ?_
  cases w <;> simp

theorem cleanNames_texts (values : List Json) :
    (cleanNames ((values.filter isPresent).map fun v => v.text.toList)).map String.ofList =
      firstsBy folded (cleanTexts values) := by
  have folds : folded ∘ String.ofList = fold :=
    funext fun w => congrArg fold String.toList_ofList
  rw [cleanTexts_eq, firstsBy_map, folds, cleanNames_eq]

theorem names_eq (present : isPresent v = true) (limit : Option Int) :
    names limit v = (items v).bind fun values =>
      if !values.all Json.hasText then .error .badValue
      else if limit.any fun n => n < (variety (cleanTexts values) : Int) then .error .tooManyItems
      else .ok (firstsBy folded (cleanTexts values)) := by
  have counted (values : List Json) :
      (cleanNames ((values.filter isPresent).map fun v => v.text.toList)).length =
        variety (cleanTexts values) := by
    rw [variety, ← length_firstsBy, ← cleanNames_texts, List.length_map]
  unfold names
  split
  · cases present
  · simp only [← cleanNames_texts, ← counted]
    rfl

theorem names_arr (limit : Option Int) (values : List Json) :
    names limit (.arr values) =
      if !values.all Json.hasText then .error .badValue
      else if limit.any fun n => n < (variety (cleanTexts values) : Int) then .error .tooManyItems
      else .ok (firstsBy folded (cleanTexts values)) :=
  names_eq rfl limit

theorem names_eq_ok (h : names limit v = .ok ns) :
    ns = [] ∨ ∃ values, (¬limit.any fun n => n < (variety (cleanTexts values) : Int)) ∧
      ns = firstsBy folded (cleanTexts values) := by
  cases present : isPresent v with
  | false =>
    cases v with
    | null =>
      cases h
      exact .inl rfl
    | _ => cases present
  | true =>
    rw [names_eq present] at h
    cases listed : items v with
    | error => simp [listed, Except.bind] at h
    | ok values =>
      simp only [listed, Except.bind] at h
      split at h
      · cases h
      split at h
      · cases h
      · cases h
        exact .inr ⟨values, ‹_›, rfl⟩

theorem cleanTexts_firstsBy (values : List Json) :
    cleanTexts ((firstsBy folded (cleanTexts values)).map .str) =
      firstsBy folded (cleanTexts values) :=
  cleanTexts_str fun _ hs =>
    isCleanLine_of_mem_cleanTexts ((firstsBy_sublist folded (cleanTexts values)).subset hs)

theorem all_hasText_str (ns : List String) : (ns.map Json.str).all Json.hasText = true := by
  rw [List.all_map, List.all_eq_true]
  exact fun _ _ => rfl

/-- Of values that are listed, or are the texts between the commas of one, the clean texts are kept
that fold like no earlier one, unless there are more different ones than the limit. What is kept
comes in order, no two of it fold alike, every folded form is among it, and it is kept when it is
listed again. Where a value has no text there are no names. -/
theorem names_first_spellings (limit : Option Int) (values : List Json) (s : String) :
    let clean := cleanTexts values
    let kept := firstsBy folded clean
    let given : Except Defect (List String) :=
      if limit.any fun n => n < (variety clean : Int) then .error .tooManyItems else .ok kept
    (names limit (.arr values) =
        if values.all Json.hasText then given else .error .badValue) ∧
      kept.Sublist clean ∧ (kept.Pairwise fun a b => folded a ≠ folded b) ∧
      (kept.map folded).toFinset = (clean.map folded).toFinset ∧
      names limit (.arr (kept.map .str)) = given ∧
      ∃ parts, [','].intercalate parts = s.toList ∧ parts ≠ [] ∧ (∀ part ∈ parts, ',' ∉ part) ∧
        names limit (.str s) =
          names limit (.arr (parts.map fun part => .str (String.ofList part))) := by
  intro clean kept given
  refine ⟨?_, firstsBy_sublist folded clean, firstsBy_apart folded clean,
    toFinset_firstsBy folded clean, ?_, splitAt ',' s.toList,
    intercalate_splitAt ',' s.toList, fields_ne_nil _ _, fun part cut comma => ?_, rfl⟩
  · rw [names_arr]
    cases values.all Json.hasText <;> rfl
  · have again : firstsBy folded kept = kept := firstsBy_eq_self (firstsBy_apart folded clean)
    have many : variety kept = variety clean := by
      rw [variety, toFinset_firstsBy, variety]
    rw [names_arr, all_hasText_str, cleanTexts_firstsBy, again, many]
    rfl
  · have other := not_of_mem_fields cut comma
    simp at other

/-- A number of more than 4300 digits has no text. -/
example : (names none (.arr [.str "a", .int (10 ^ 5000)])).isOk = false := by
  decide +kernel

/-- Neither null nor blanks count, nor a second spelling. -/
example :
    let values : List Json := [.str " Stra\u00DFe", .null, .str "STRASSE", .int 7, .str "\t"]
    (names (some 2) (.arr values)).toOption = some ["Stra\u00DFe", "7"] := by
  decide +kernel

end Names

end TicketKeeper.Field
