import Mathlib.Data.List.Infix
import TicketKeeper.Build
import TicketKeeper.Jira.Document
import TicketKeeper.Proofs.Number.Numeral

/-! What a document keeps of a text. The lines of trimmed pieces that are joined are the lines of
the pieces, so those of a ticket's description are known one by one; of them the document keeps the
first ones, and of each the beginning. -/
namespace TicketKeeper

open TicketKeeper.Text

namespace Jira.Document

/-- A line that a document takes over as it is, but for its length. -/
structure Solid (l : List Char) : Prop where
  trimmed : IsTrimmed l
  line : IsLine l
  ne : l ≠ []

variable {s : List Char}

theorem Solid.contentLines_eq {l : List Char} (h : Solid l) : contentLines l = [l] := by
  have trimmed : trim l = l := h.trimmed
  simp [contentLines, lines_of_isLine h.ne h.line, trimmed, h.ne]

theorem flatMap_contentLines {ls : List (List Char)} (h : ∀ l ∈ ls, Solid l) :
    ls.flatMap contentLines = ls := by
  rw [List.flatMap_congr fun l hl => (h l hl).contentLines_eq]
  exact List.flatMap_singleton' ls

theorem contentLines_nil : contentLines [] = [] := rfl

theorem contentLines_newline (rest : List Char) :
    contentLines ('\n' :: rest) = contentLines rest := by
  rw [contentLines, lines_newline]
  rfl

theorem contentLines_append_newline (h : IsTrimmed s) (rest : List Char) :
    contentLines (s ++ '\n' :: rest) = contentLines s ++ contentLines rest := by
  cases s with
  | nil => exact contentLines_newline rest
  | cons c r =>
    have hne : c :: r ≠ [] := List.cons_ne_nil c r
    simp only [contentLines, lines_append_newline hne (h.getLast hne), List.map_append,
      List.filter_append]

theorem contentLines_joinLines {ps : List (List Char)} (h : ∀ p ∈ ps, IsTrimmed p) :
    contentLines (joinLines ps) = ps.flatMap contentLines := by
  induction ps with
  | nil => rfl
  | cons p ps ih =>
    cases ps with
    | nil => simp [joinLines]
    | cons q ps =>
      -- No trimmed piece ends a line, so the line feed behind it does.
      rw [joinLines_cons_cons, contentLines_append_newline (h p List.mem_cons_self),
        ih fun p' hp => h p' (List.mem_cons_of_mem p hp), ← List.flatMap_cons]

/-- The lines that a document takes over: those of the text, or one that says there are none. -/
def told (s : List Char) : List (List Char) :=
  if contentLines s = [] then [placeholder] else contentLines s

theorem told_of_any (any : contentLines s ≠ []) : told s = contentLines s := if_neg any

theorem paragraphs_ofText (s : List Char) :
    (ofText s).paragraphs = ((told s).take maxParagraphs).map (·.take maxParagraph) := by
  simp only [ofText, told, List.isEmpty_iff]

/-- Of lines that are cut off, one in the middle is kept if there are few before it. -/
theorem exists_mem_take_append {P : List Char → Prop} {l : List Char} (hl : P l)
    (before after : List (List Char)) (n : Nat) :
    (∃ l' ∈ (before ++ l :: after).take n, P l') ↔
      before.length < n ∨ ∃ l' ∈ before.take n, P l' := by
  rw [List.take_append]
  constructor
  · rintro ⟨l', kept, h⟩
    obtain kept | kept := List.mem_append.mp kept
    · exact .inr ⟨l', kept, h⟩
    · left
      by_contra full
      rw [Nat.sub_eq_zero_of_le (Nat.le_of_not_lt full)] at kept
      cases kept
  · rintro (room | ⟨l', kept, h⟩)
    · obtain ⟨k, hk⟩ : ∃ k, n - before.length = k + 1 := ⟨n - before.length - 1, by omega⟩
      rw [hk, List.take_succ_cons]
      exact ⟨l, by simp, hl⟩
    · exact ⟨l', List.mem_append_left _ kept, h⟩

/-- A document shows how a line begins only if the line is among those that it keeps. -/
theorem begins_iff {start : List Char} (short : start.length ≤ maxParagraph)
    (any : contentLines s ≠ []) :
    (∃ p ∈ (ofText s).paragraphs, start <+: p) ↔
      ∃ l ∈ (contentLines s).take maxParagraphs, start <+: l := by
  rw [paragraphs_ofText, told_of_any any]
  simp [List.prefix_take_iff, short, -List.map_take]

end Jira.Document

namespace Build

open Jira.Document

variable {b : Build}

def testText (testDescription : String) : List Char :=
  let text := trim testDescription.toList
  if text = [] then "No description is provided".toList else text

def testLines (testDescription : String) : List (List Char) :=
  contentLines (testText testDescription)

def opening (b : Build) : List Char := ("The test " ++ b.job ++ " has failed.").toList

def closing : List String :=
  ["If it is a false alarm please notify the CI tools team:",
    "1. Move the issue to the tools project.",
    "2. Set the component to the CI to Jira integration."]

def mark (label : String) (b : Build) : List Char :=
  "- ".toList ++ label.toList ++ " : #".toList ++ (toString b.number).toList

theorem solid_opening (job : IsLine b.job.toList) : Solid b.opening := by
  rw [opening, String.toList_append, String.toList_append]
  exact ⟨isTrimmed_append (by decide) (by decide) _,
    isLine_append.mpr ⟨isLine_append.mpr ⟨by decide, job⟩, by decide⟩, by simp⟩

theorem solid_closing : ∀ l ∈ closing.map String.toList, Solid l := by
  have solid (l : List Char) (h : trim l = l ∧ IsLine l ∧ l ≠ []) : Solid l := ⟨h.1, h.2.1, h.2.2⟩
  intro l hl
  apply solid
  revert l
  decide

theorem consoleUrl_eq (b : Build) :
    b.consoleUrl = "" ∨ b.consoleUrl = b.url ++ "console" ∨
      b.consoleUrl = b.url ++ "/" ++ "console" := by
  unfold consoleUrl
  split
  · exact .inl rfl
  · split
    · exact .inr (.inl rfl)
    · exact .inr (.inr rfl)

theorem last_mark (label : String) (b : Build) :
    (b.mark label).getLast?.map isBlank = some false := by
  have digits : (toString b.number).toList ≠ [] := by
    rw [Number.toList_toString]
    split
    · exact List.cons_ne_nil _ _
    · exact Nat.toDigits_ne_nil
  rw [mark, List.getLast?_append_of_ne_nil _ digits, List.getLast?_eq_some_getLast digits]
  exact congrArg some (Number.isBlank_toString b.number _ (List.getLast_mem digits))

def runTexts (label : String) (b : Build) : List (List Char) :=
  (b.mark label ++ trimEnd (' ' :: b.url.toList)) ::
    if b.consoleUrl = "" then [] else ["-- console log : ".toList ++ b.consoleUrl.toList]

theorem runLines_of_isWritable (writable : Number.isWritable b.number = true) (label : String) :
    ∃ ls, b.runLines label = .ok ls ∧ ls.map String.toList = b.runTexts label := by
  have run : s!"- {label} : #{b.number} {b.url}".toList = b.mark label ++ ' ' :: b.url.toList := by
    change ("- " ++ label ++ " : #" ++ toString b.number ++ " " ++ b.url).toList = _
    simp [mark]
  refine ⟨_, if_pos writable, ?_⟩
  rw [run, trimEnd_append (last_mark label b), runTexts]
  split <;> simp

theorem runLines_of_not_isWritable (large : Number.isWritable b.number = false) (label : String) :
    b.runLines label = .error .badValue :=
  if_neg (Bool.eq_false_iff.mp large)

theorem solid_run {label : String} (named : IsLine label.toList) (url : IsLine b.url.toList) :
    Solid (b.mark label ++ trimEnd (' ' :: b.url.toList)) := by
  have number := isLine_of_not_isBlank (Number.isBlank_toString b.number)
  have rest : IsLine (trimEnd (' ' :: b.url.toList)) := by
    intro c hc
    have : c ∈ ' ' :: b.url.toList := (List.rdropWhile_prefix isBlank _).subset hc
    obtain rfl | hc := List.mem_cons.mp this
    · decide
    · exact url c hc
  refine ⟨?_, ?_, by simp [mark]⟩
  · rw [← trimEnd_append (last_mark label b), mark]
    exact isTrimmed_trimEnd rfl
  · simp only [mark, isLine_append]
    exact ⟨⟨⟨⟨by decide, named⟩, by decide⟩, number⟩, rest⟩

theorem solid_console (url : IsLine b.url.toList) (shown : b.consoleUrl ≠ "") :
    Solid ("-- console log : ".toList ++ b.consoleUrl.toList) := by
  obtain ⟨base, line, ends⟩ : ∃ base, IsLine base ∧
      b.consoleUrl.toList = base ++ "console".toList := by
    obtain none | ends | ends := b.consoleUrl_eq
    · exact absurd none shown
    · exact ⟨b.url.toList, url, by rw [ends, String.toList_append]⟩
    · refine ⟨b.url.toList ++ "/".toList, isLine_append.mpr ⟨url, by decide⟩, ?_⟩
      rw [ends, String.toList_append, String.toList_append]
  rw [ends, ← List.append_assoc]
  exact ⟨isTrimmed_append (by decide) (by decide) base,
    isLine_append.mpr ⟨isLine_append.mpr ⟨by decide, line⟩, by decide⟩, by simp⟩

theorem solid_runTexts {label : String} (named : IsLine label.toList) (url : IsLine b.url.toList) :
    ∀ l ∈ b.runTexts label, Solid l := by
  refine List.forall_mem_cons.mpr ⟨solid_run named url, fun l hl => ?_⟩
  split at hl
  · cases hl
  · obtain rfl := List.mem_singleton.mp hl
    exact solid_console url ‹_›

theorem textAround_of_isWritable (writable : Number.isWritable b.number = true) (label : String)
    (before behind : List String) : ∃ text, b.textAround label before behind = .ok text ∧
      text.toList = joinLines (before.map String.toList ++ b.runTexts label ++
        behind.map String.toList) := by
  obtain ⟨ls, run, texts⟩ := runLines_of_isWritable writable label
  refine ⟨"\n".intercalate (before ++ ls ++ behind), by rw [textAround, run]; rfl, ?_⟩
  rw [String.toList_intercalate, List.map_append, List.map_append, texts]
  rfl

theorem textAround_of_not_isWritable (large : Number.isWritable b.number = false) (label : String)
    (before behind : List String) : b.textAround label before behind = .error .badValue := by
  rw [textAround, runLines_of_not_isWritable large]
  rfl

theorem toList_description (writable : Number.isWritable b.number = true)
    (testDescription : String) :
    (b.description testDescription).toList =
      joinLines ([b.opening, [], testText testDescription, []] ++
        b.runTexts "First failed run" ++ [] :: closing.map String.toList) := by
  obtain ⟨text, written, texts⟩ := textAround_of_isWritable writable "First failed run"
    ["The test " ++ b.job ++ " has failed.", "",
      if String.ofList (trim testDescription.toList) = "" then "No description is provided"
      else String.ofList (trim testDescription.toList), ""] ("" :: closing)
  have told : (if String.ofList (trim testDescription.toList) = "" then
      "No description is provided" else String.ofList (trim testDescription.toList)).toList =
      testText testDescription := by
    by_cases none : trim testDescription.toList = [] <;> simp [testText, none]
  have whole : b.descriptionText testDescription = .ok text := written
  rw [description, whole]
  simp only [List.map_cons, List.map_nil, told] at texts
  exact texts

theorem isTrimmed_testText (testDescription : String) : IsTrimmed (testText testDescription) := by
  unfold testText
  dsimp only
  split
  · show trim _ = _
    decide
  · exact trimBy_trimBy isBlank _

theorem contentLines_description (writable : Number.isWritable b.number = true)
    (job : IsLine b.job.toList) (url : IsLine b.url.toList) (testDescription : String) :
    contentLines (b.description testDescription).toList = b.opening ::
      (testLines testDescription ++ (b.runTexts "First failed run" ++
        closing.map String.toList)) := by
  have opening := solid_opening job
  have runs := solid_runTexts (by decide : IsLine "First failed run".toList) url
  have trimmed : ∀ p ∈ [b.opening, [], testText testDescription, []] ++
      b.runTexts "First failed run" ++ [] :: closing.map String.toList, IsTrimmed p := by
    simp only [List.forall_mem_append, List.forall_mem_cons]
    exact ⟨⟨⟨opening.trimmed, rfl, isTrimmed_testText _, rfl, by simp⟩,
      fun l hl => (runs l hl).trimmed⟩, rfl, fun l hl => (solid_closing l hl).trimmed⟩
  rw [toList_description writable, contentLines_joinLines trimmed]
  simp only [List.flatMap_append, List.flatMap_cons, flatMap_contentLines runs,
    flatMap_contentLines solid_closing, opening.contentLines_eq, contentLines_nil,
    List.nil_append, List.cons_append, testLines]

theorem length_mark (label : String) (b : Build) :
    (b.mark label).length = label.length + (toString b.number).length + 6 := by
  simp only [mark, List.length_append, String.length_toList]
  have least : "- ".length = 2 ∧ " : #".length = 4 := by decide
  omega

theorem isWritable_of_length_mark {label : String}
    (short : (b.mark label).length ≤ maxParagraph) : Number.isWritable b.number = true := by
  have digits : (Nat.toDigits 10 b.number.natAbs).length ≤ (toString b.number).length := by
    rw [← String.length_toList, Number.toList_toString]
    split <;> simp
  rw [length_mark] at short
  unfold maxParagraph at short
  exact decide_eq_true (show _ ≤ 4300 by omega)

/-- The document of a description names the build when what is said about the test leaves a line for
it, or happens to say it. -/
theorem document_names_iff (job : IsLine b.job.toList) (url : IsLine b.url.toList)
    (short : (b.mark "First failed run").length ≤ maxParagraph) (testDescription : String) :
    (∃ p ∈ (ofText (b.description testDescription).toList).paragraphs,
      b.mark "First failed run" <+: p) ↔
      (testLines testDescription).length + 1 < maxParagraphs ∨
        ∃ l ∈ (testLines testDescription).take (maxParagraphs - 1),
          b.mark "First failed run" <+: l := by
  have run := List.prefix_append (b.mark "First failed run") (trimEnd (' ' :: b.url.toList))
  have apart : ¬ b.mark "First failed run" <+: b.opening := by
    simp [mark, opening]
  -- What comes before the line of the build is the opening and what is said about the test.
  obtain ⟨after, content⟩ : ∃ after, contentLines (b.description testDescription).toList =
      (b.opening :: testLines testDescription) ++
        (b.mark "First failed run" ++ trimEnd (' ' :: b.url.toList)) :: after := by
    rw [contentLines_description (isWritable_of_length_mark short) job url]
    exact ⟨_, rfl⟩
  have kept : (b.opening :: testLines testDescription).take maxParagraphs =
      b.opening :: (testLines testDescription).take (maxParagraphs - 1) := rfl
  rw [begins_iff short (by simp [content]), content, exists_mem_take_append run, kept]
  simp only [List.length_cons, List.exists_mem_cons_iff, apart, false_or]

end Build

end TicketKeeper
