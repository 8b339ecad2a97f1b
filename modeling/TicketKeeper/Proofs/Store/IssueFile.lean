import TicketKeeper.Store.IssueFile
import TicketKeeper.Proofs.Number.Numeral

/-! What an issue file shows of the record that was written to it. The build is always kept; the key
is kept when no line ends in it, and else its first line stands for it. -/
namespace TicketKeeper

open TicketKeeper.Text

/-- Keys that are not empty and have no blanks at their ends. -/
structure Tidy (key : String) : Prop where
  ne_empty : key ≠ ""
  trimmed : IsTrimmed key.toList

instance (key : String) : Decidable (Tidy key) :=
  decidable_of_iff (key ≠ "" ∧ trim key.toList = key.toList)
    ⟨fun h => ⟨h.1, h.2⟩, fun h => ⟨h.ne_empty, h.trimmed⟩⟩

namespace Tidy

variable {key : String}

theorem toList_ne_nil (h : Tidy key) : key.toList ≠ [] :=
  fun hnil => h.ne_empty (String.toList_eq_nil_iff.mp hnil)

theorem exists_cons (h : Tidy key) : ∃ c r, key.toList = c :: r ∧ isBlank c = false := by
  obtain ⟨c, r, hkey⟩ := List.exists_cons_of_ne_nil h.toList_ne_nil
  exact ⟨c, r, hkey, (trimBy_eq_self_iff.mp h.trimmed).1 c (by rw [hkey]; rfl)⟩

end Tidy

namespace Store.IssueFile

def buildLine (n : Int) : List Char := buildLabel ++ (toString n).toList

theorem isBlank_buildLine (n : Int) : ∀ c ∈ buildLine n, isBlank c = false := by
  intro c hc
  rcases List.mem_append.mp hc with hc | hc
  · have label : buildLabel.all (isBlank · == false) = true := by decide
    exact eq_of_beq (List.all_eq_true.mp label c hc)
  · exact Number.isBlank_toString n c hc

theorem isLine_buildLine (n : Int) : IsLine (buildLine n) := by
  intro c hc
  by_contra h
  have := isBlank_of_isLineBoundary (eq_true_of_ne_false h)
  rw [isBlank_buildLine n c hc] at this
  contradiction

theorem buildLine_ne_nil (n : Int) : buildLine n ≠ [] := by simp [buildLine, buildLabel]

theorem build?_buildLine {n : Int} (h : Number.isWritable n = true) :
    build? (buildLine n) = some n := by
  have whole : trim (buildLine n) = buildLine n := trimBy_eq_self (isBlank_buildLine n)
  have label : buildLabel.isPrefixOf (buildLine n) = true :=
    List.isPrefixOf_iff_prefix.mpr (List.prefix_append _ _)
  rw [build?, whole, if_pos label, buildLine, List.drop_left, Number.numeral?_toString h]

theorem lines_encode {key : String} (tidy : Tidy key) (build : Option Int) :
    lines (encode key build) = lines key.toList ++ (build.map buildLine).toList := by
  have last := tidy.trimmed.getLast tidy.toList_ne_nil
  unfold encode
  rw [lines_append_newline tidy.toList_ne_nil last]
  congr 1
  cases build with
  | none => rfl
  | some n =>
    have last : isLineBoundary ((buildLine n).getLast (buildLine_ne_nil n)) = false :=
      isLine_buildLine n _ (List.getLast_mem _)
    have split := lines_append_newline (buildLine_ne_nil n) last []
    rw [lines_of_isLine (buildLine_ne_nil n) (isLine_buildLine n)] at split
    exact split

theorem tidy_of_decode {text : List Char} {r : Record} (h : decode text = some r) :
    Tidy r.key ∧ IsLine r.key.toList := by
  unfold decode at h
  split at h
  · contradiction
  · rename_i first rest hlines
    dsimp only at h
    split at h
    · contradiction
    · rename_i hne
      obtain rfl := Option.some.inj h
      have line : IsLine first := isLine_of_mem_lines (s := text) (by simp [hlines])
      refine ⟨⟨fun hempty => hne ?_, ?_⟩, ?_⟩
      · rw [List.isEmpty_iff, ← String.toList_ofList (l := trim first)]
        exact String.toList_eq_nil_iff.mpr hempty
      · rw [IsTrimmed, String.toList_ofList]
        exact trimBy_trimBy isBlank first
      · intro c hc
        rw [String.toList_ofList] at hc
        exact line c (mem_of_mem_trimBy hc)

theorem decode_encode {key : String} (tidy : Tidy key) (line : IsLine key.toList)
    {build : Option Int} (writable : build.all Number.isWritable = true) :
    decode (encode key build) = some ⟨key, build⟩ := by
  have hlines := lines_encode tidy build
  rw [lines_of_isLine tidy.toList_ne_nil line] at hlines
  have number : ((build.map buildLine).toList.filterMap build?).getLast? = build := by
    cases build with
    | none => rfl
    | some n =>
      have : build? (buildLine n) = some n := build?_buildLine (by simpa using writable)
      simp [this]
  rw [decode, hlines]
  dsimp only [List.singleton_append]
  rw [tidy.trimmed, if_neg (by simpa using tidy.toList_ne_nil), number, String.ofList_toList]

/-- A record whose key has line breaks is read with the first line of the key. -/
theorem decode_encode_build {key : String} (tidy : Tidy key) {n : Int}
    (writable : Number.isWritable n = true) :
    ∃ shown, decode (encode key (some n)) = some ⟨shown, some n⟩ := by
  obtain ⟨c, r, hkey, blank⟩ := tidy.exists_cons
  have boundary : isLineBoundary c = false := by
    by_contra h
    rw [isBlank_of_isLineBoundary (eq_true_of_ne_false h)] at blank
    contradiction
  obtain ⟨l, ls, hlines⟩ := lines_head boundary r
  have whole : lines (encode key (some n)) = (c :: l) :: (ls ++ [buildLine n]) := by
    rw [lines_encode tidy, hkey, hlines]
    rfl
  have shown : trim (c :: l) ≠ [] := by
    intro hnil
    have := trimBy_eq_nil hnil c List.mem_cons_self
    rw [blank] at this
    contradiction
  refine ⟨String.ofList (trim (c :: l)), ?_⟩
  rw [decode, whole]
  dsimp only
  rw [if_neg (by simpa using shown), List.filterMap_append]
  simp [build?_buildLine writable]

end Store.IssueFile

end TicketKeeper
