import Mathlib.Data.List.Forall2
import TicketKeeper.Proofs.Jira.Content

/-! The paragraphs of a document. Every text has some, however it is cut into lines: none of them is
empty, too long or more than a line, and there are not too many. They are all that the text says
when it stays within both limits, and only then. -/
namespace TicketKeeper.Jira

open TicketKeeper.Text

structure IsParagraphText (p : List Char) : Prop where
  short : p.length ≤ 1000
  line : IsLine p
  begins : ∃ c r, p = c :: r ∧ isBlank c = false

structure IsParagraph (v : Json) (text : String) : Prop where
  kind : v.get "type" = .str "paragraph"
  content : ∃ node, v.get "content" = .arr [node] ∧ node.get "type" = .str "text" ∧
    node.get "text" = .str text

structure IsDocument (v : Json) (texts : List String) : Prop where
  kind : v.get "type" = .str "doc"
  version : v.get "version" = .int 1
  content : ∃ paragraphs, v.get "content" = .arr paragraphs ∧
    List.Forall₂ IsParagraph paragraphs texts

namespace Document

variable {s l : List Char}

theorem isDocument_toJson (d : Document) :
    IsDocument d.toJson (d.paragraphs.map String.ofList) where
  kind := rfl
  version := rfl
  content := by
    refine ⟨d.paragraphs.map paragraphJson, rfl, ?_⟩
    rw [List.forall₂_map_left_iff, List.forall₂_map_right_iff, List.forall₂_same]
    exact fun p _ => ⟨rfl, _, rfl, rfl, rfl⟩

theorem solid_of_mem_contentLines (h : l ∈ contentLines s) : Solid l := by
  obtain ⟨hl, any⟩ := List.mem_filter.mp h
  obtain ⟨whole, cut, rfl⟩ := List.mem_map.mp hl
  exact ⟨trimBy_trimBy isBlank whole,
    fun c hc => isLine_of_mem_lines cut c (mem_of_mem_trimBy hc), by simpa using any⟩

theorem solid_placeholder : Solid placeholder where
  trimmed := by
    show trim placeholder = placeholder
    decide
  line := by decide
  ne := by decide

theorem Solid.isParagraphText (h : Solid l) : IsParagraphText (l.take maxParagraph) where
  short := List.length_take_le maxParagraph l
  line := fun c hc => h.line c (List.mem_of_mem_take hc)
  begins := by
    obtain ⟨c, r, rfl⟩ := List.exists_cons_of_ne_nil h.ne
    exact ⟨c, _, rfl, (trimBy_eq_self_iff.mp h.trimmed).1 c rfl⟩

theorem told_ne_nil (s : List Char) : told s ≠ [] := by
  unfold told
  split
  · exact List.cons_ne_nil _ _
  · assumption

theorem solid_of_mem_told (h : l ∈ told s) : Solid l := by
  unfold told at h
  split at h
  · obtain rfl := List.mem_singleton.mp h
    exact solid_placeholder
  · exact solid_of_mem_contentLines h

theorem length_paragraphs (s : List Char) :
    1 ≤ (ofText s).paragraphs.length ∧ (ofText s).paragraphs.length ≤ 40 := by
  have any := List.length_pos_iff.mpr (told_ne_nil s)
  rw [paragraphs_ofText, List.length_map, List.length_take, maxParagraphs]
  omega

theorem isParagraphText_of_mem (h : l ∈ (ofText s).paragraphs) : IsParagraphText l := by
  rw [paragraphs_ofText] at h
  obtain ⟨whole, kept, rfl⟩ := List.mem_map.mp h
  exact (solid_of_mem_told (List.mem_of_mem_take kept)).isParagraphText

theorem paragraphs_eq_contentLines_iff (s : List Char) :
    (ofText s).paragraphs = contentLines s ↔
      1 ≤ (contentLines s).length ∧ (contentLines s).length ≤ 40 ∧
        ∀ l ∈ contentLines s, l.length ≤ 1000 := by
  constructor
  -- The lines are within the limits because the paragraphs are.
  · intro same
    rw [← same]
    obtain ⟨least, most⟩ := length_paragraphs s
    exact ⟨least, most, fun l hl => (isParagraphText_of_mem hl).short⟩
  · rintro ⟨any, few, short⟩
    have all := told_of_any (List.length_pos_iff.mp any)
    have kept : (contentLines s).take maxParagraphs = contentLines s := List.take_of_length_le few
    rw [paragraphs_ofText, all, kept]
    exact (List.map_congr_left fun l hl => List.take_of_length_le (short l hl)).trans
      (List.map_id _)

end Document

/-- The document of a text has between one and forty paragraphs, each with one text that may stand
in it. They are the trimmed lines that are not blank exactly when these are neither none nor too
many nor too long, and a blank text is told as such. -/
theorem documentJson_paragraphs (text : String) :
    ∃ paragraphs, IsDocument (documentJson text) paragraphs ∧
      1 ≤ paragraphs.length ∧ paragraphs.length ≤ 40 ∧
      (∀ p ∈ paragraphs, IsParagraphText p.toList) ∧
      ∃ ls, (∀ ls', HasLines text.toList ls' ↔ ls' = ls) ∧
        let content := (ls.map trim).filter fun l => !l.isEmpty
        (content = [] → paragraphs = ["No details provided."]) ∧
        (paragraphs = content.map String.ofList ↔
          1 ≤ content.length ∧ content.length ≤ 40 ∧ ∀ l ∈ content, l.length ≤ 1000) := by
  obtain ⟨least, most⟩ := Document.length_paragraphs text.toList
  refine ⟨_, Document.isDocument_toJson _, ?_, ?_, ?_, lines text.toList, fun _ => hasLines_iff, ?_⟩
  · rwa [List.length_map]
  · rwa [List.length_map]
  · intro p hp
    obtain ⟨l, hl, rfl⟩ := List.mem_map.mp hp
    rw [String.toList_ofList]
    exact Document.isParagraphText_of_mem hl
  intro content
  have same : content = Document.contentLines text.toList := rfl
  refine ⟨fun blank => ?_, ?_⟩
  · have told : Document.told text.toList = [Document.placeholder] := if_pos (same.symm.trans blank)
    rw [Document.paragraphs_ofText, told]
    rfl
  · have apart : Function.Injective (List.map String.ofList) :=
      List.map_injective_iff.mpr fun _ _ => String.ofList_inj.mp
    rw [apart.eq_iff, same]
    exact Document.paragraphs_eq_contentLines_iff text.toList

/-- Lines that end in several ways, and a separator that ends none. -/
example : (Document.ofText " a\r\n\r\u2028b \u001Fc\u001E".toList).paragraphs =
    ["a".toList, "b \u001Fc".toList] := by
  decide

end TicketKeeper.Jira
