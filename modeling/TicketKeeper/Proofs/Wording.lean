import TicketKeeper.Proofs.Jira.Content
import TicketKeeper.Proofs.Reporting

/-! What comments and summaries say. Their shape does not depend on what is reported: a comment has
one paragraph for its headline, one for the run, and one for the console log if there is an address;
and a summary is one line. -/
namespace TicketKeeper

open TicketKeeper.Text
open Jira (Document)
open Jira.Document (Solid)

namespace Jira.Document

theorem paragraphs_joinLines {ls : List (List Char)} (solid : ∀ l ∈ ls, Solid l) (any : ls ≠ [])
    (few : ls.length ≤ maxParagraphs) :
    (ofText (joinLines ls)).paragraphs = ls.map (·.take maxParagraph) := by
  have content : contentLines (joinLines ls) = ls := by
    rw [contentLines_joinLines fun l hl => (solid l hl).trimmed, flatMap_contentLines solid]
  rw [paragraphs_ofText, told_of_any (content.symm ▸ any), content, List.take_of_length_le few]

end Jira.Document

namespace Build

variable {b : Build} {label : String}

def runLine (label : String) (b : Build) : List Char :=
  b.mark label ++ if b.url = "" then [] else ' ' :: b.url.toList

def consoleLine (b : Build) : List Char := "-- console log : ".toList ++ b.consoleUrl.toList

def commentParagraphs (headline label : String) (b : Build) : List (List Char) :=
  [headline.toList, (b.runLine label).take Document.maxParagraph] ++
    if b.url = "" then [] else [b.consoleLine.take Document.maxParagraph]

theorem consoleUrl_eq_empty_iff : b.consoleUrl = "" ↔ b.url = "" := by
  unfold consoleUrl
  split
  · simp [*]
  · split <;> simp [*]

/-- The address of a build is trimmed, so that nothing is dropped behind it. -/
theorem trimEnd_url (trimmed : IsTrimmed b.url.toList) :
    trimEnd (' ' :: b.url.toList) = if b.url = "" then [] else ' ' :: b.url.toList := by
  split
  · rename_i none
    rw [none]
    decide
  · rename_i any
    have last : (' ' :: b.url.toList).getLast?.map isBlank = some false := by
      obtain ⟨c, hc⟩ : ∃ c, b.url.toList.getLast? = some c :=
        ⟨_, List.getLast?_eq_some_getLast (by simpa using any)⟩
      rw [List.getLast?_cons, hc]
      exact congrArg some ((trimBy_eq_self_iff.mp trimmed).2 c hc)
    simpa [trimEnd, dropEndWhile] using trimEnd_append last []

theorem runTexts_of_isTrimmed (trimmed : IsTrimmed b.url.toList) (label : String) :
    b.runTexts label = b.runLine label :: if b.url = "" then [] else [b.consoleLine] := by
  rw [runTexts, trimEnd_url trimmed]
  simp only [consoleUrl_eq_empty_iff]
  rfl

def paragraphs (text : Except Defect String) : Except Defect (List (List Char)) :=
  text.map fun t => (Document.ofText t.toList).paragraphs

/-- What is said of a build if its number can be written. -/
def ifWritable {α : Type} (b : Build) (a : α) : Except Defect α :=
  if Number.isWritable b.number then .ok a else .error .badValue

theorem paragraphs_comment {headline : String} (solid : Solid headline.toList)
    (short : headline.length ≤ Document.maxParagraph) (named : IsLine label.toList)
    (url : IsCleanLine b.url.toList) (line : IsLine b.url.toList) :
    paragraphs (b.textAround label [headline] []) =
      b.ifWritable (b.commentParagraphs headline label) := by
  unfold ifWritable
  cases writable : Number.isWritable b.number with
  | false => rw [textAround_of_not_isWritable writable]; rfl
  | true =>
    obtain ⟨text, written, texts⟩ := textAround_of_isWritable writable label [headline] []
    have lines : text.toList = joinLines (headline.toList :: b.runTexts label) := by
      simpa using texts
    have all : ∀ l ∈ headline.toList :: b.runTexts label, Solid l :=
      List.forall_mem_cons.mpr ⟨solid, solid_runTexts named line⟩
    have whole : headline.toList.take Document.maxParagraph = headline.toList :=
      List.take_of_length_le short
    have few : (headline.toList :: b.runTexts label).length ≤ Document.maxParagraphs := by
      rw [runTexts_of_isTrimmed url.trimmed]
      split <;> simp [Document.maxParagraphs]
    have shown : (Document.ofText text.toList).paragraphs = b.commentParagraphs headline label := by
      rw [lines, Document.paragraphs_joinLines all (List.cons_ne_nil _ _) few, List.map_cons, whole,
        runTexts_of_isTrimmed url.trimmed, commentParagraphs]
      split <;> rfl
    rw [written, paragraphs]
    exact congrArg Except.ok shown

theorem solid_forgotten (job : IsLine b.job.toList) :
    Solid ("- Issue is closed; " ++ b.job ++ " stops tracking it.").toList := by
  rw [String.toList_append, String.toList_append]
  exact ⟨isTrimmed_append (by decide) (by decide) _,
    isLine_append.mpr ⟨isLine_append.mpr ⟨by decide, job⟩, by decide⟩, by simp⟩

theorem summary_spec (job : IsLine b.job.toList) (root : IsLine b.rootUrl.toList) :
    b.summary ≠ "" ∧ IsLine b.summary.toList ∧ b.summary.length ≤ maxSummary ∧
      ("Test " ++ b.job).toList.take maxSummary <+: b.summary.toList := by
  obtain ⟨rest, whole, line⟩ : ∃ rest, b.summary.toList =
      (("Test " ++ b.job).toList ++ rest).take maxSummary ∧ IsLine rest := by
    unfold summary
    dsimp only
    split
    · exact ⟨" failure".toList, by simp, by decide⟩
    · refine ⟨" failure - ".toList ++ b.rootUrl.toList, by simp, ?_⟩
      exact isLine_append.mpr ⟨by decide, root⟩
  have begun : ("Test " ++ b.job).toList = "Test ".toList ++ b.job.toList := String.toList_append
  refine ⟨?_, ?_, ?_, ?_⟩
  · intro none
    rw [none, begun] at whole
    simp [maxSummary] at whole
  · rw [whole]
    intro c hc
    have all : IsLine (("Test " ++ b.job).toList ++ rest) := by
      rw [begun]
      exact isLine_append.mpr ⟨isLine_append.mpr ⟨by decide, job⟩, line⟩
    exact all c (List.mem_of_mem_take hc)
  · rw [← String.length_toList, whole]
    exact List.length_take_le _ _
  · rw [whole, List.take_append]
    exact List.prefix_append _ _

end Build

/-- Comments on a report have two paragraphs, or three with an address, as long as its number can be
written. It can in every report that comes from outside. The summary is one line if the address of
the server is one. -/
theorem Report.texts_of_ofJson {v : Json} {r : Report} (h : Report.ofJson v = .ok r)
    (root : String) :
    let b : Build := ⟨r.job, r.number, r.url, root⟩
    Build.paragraphs b.stillFailingText =
        b.ifWritable (b.commentParagraphs "- Job is still failing." "Failed run") ∧
      Build.paragraphs b.nowPassingText = b.ifWritable (b.commentParagraphs
        "- Job is not failing but the issue is still open." "Passed run") ∧
      Build.paragraphs b.forgottenText = b.ifWritable (b.commentParagraphs
        ("- Issue is closed; " ++ r.job ++ " stops tracking it.") "Last observed run") ∧
      (r.Accepted → Number.isWritable r.number = true) ∧
      (r.rootUrl = some root ∨ IsCleanLine root.toList →
        b.summary ≠ "" ∧ IsLine b.summary.toList ∧ b.summary.length ≤ Build.maxSummary ∧
          ("Test " ++ r.job).toList.take Build.maxSummary <+: b.summary.toList) := by
  intro b
  obtain ⟨members, -, reads⟩ := Report.exists_reads_of_ofJson h
  have normal := reads.normal
  have url := normal.url.clean
  have job := normal.job.2
  have line : IsLine r.url.toList := url.isLine
  have solid (s : String) (h : trim s.toList = s.toList ∧ IsLine s.toList ∧ s.toList ≠ []) :
      Solid s.toList := ⟨h.1, h.2.1, h.2.2⟩
  refine ⟨?_, ?_, ?_, Accepted.isWritable, fun whole => ?_⟩
  · exact Build.paragraphs_comment (b := b) (solid _ (by decide)) (by decide) (by decide) url line
  · exact Build.paragraphs_comment (b := b) (solid _ (by decide)) (by decide) (by decide) url line
  · have short : ("- Issue is closed; " ++ r.job ++ " stops tracking it.").length ≤
        Document.maxParagraph := by
      have job := job.short
      have ends : "- Issue is closed; ".length = 19 ∧ " stops tracking it.".length = 19 := by decide
      rw [String.length_append, String.length_append]
      unfold maxJob at job
      unfold Document.maxParagraph
      omega
    exact Build.paragraphs_comment (b := b) (Build.solid_forgotten (b := b) job.clean.isLine) short
      (by decide) url line
  · have clean : IsCleanLine root.toList :=
      whole.elim (fun told => (normal.rootUrl root told).2.clean) id
    exact Build.summary_spec (b := b) job.clean.isLine clean.isLine

def brokenMembers : List (String × Json) := [
  ("job_name", .str "nightly\u2028- api\u000B"), ("build_number", .int 7),
  ("build_url", .str " https://ci/7/\u001C\n"), ("result", .str "FAILURE")]

theorem Report.texts_of_ofJson_broken :
    let r : Report := {
      job := "nightly - api"
      number := 7
      url := "https://ci/7/"
      outcome := .failure }
    let b : Build := ⟨r.job, r.number, r.url, "https://ci"⟩
    Report.ofJson (.obj brokenMembers) = .ok r ∧
      Build.paragraphs b.stillFailingText = .ok ["- Job is still failing.".toList,
        "- Failed run : #7 https://ci/7/".toList,
        "-- console log : https://ci/7/console".toList] ∧
      IsCleanLine "https://ci".toList ∧ IsLine b.summary.toList := by
  intro r b
  have read : Report.ofJson (.obj brokenMembers) = .ok r :=
    Report.ok_of_toOption (by decide +kernel)
  have texts := Report.texts_of_ofJson read "https://ci"
  have shown : b.ifWritable (b.commentParagraphs "- Job is still failing." "Failed run") =
      .ok ["- Job is still failing.".toList, "- Failed run : #7 https://ci/7/".toList,
        "-- console log : https://ci/7/console".toList] := by decide
  have clean : IsCleanLine "https://ci".toList := cleanLine_eq_self_iff.mp (by decide)
  exact ⟨read, texts.1.trans shown, clean, (texts.2.2.2.2 (.inr clean)).2.1⟩

end TicketKeeper
