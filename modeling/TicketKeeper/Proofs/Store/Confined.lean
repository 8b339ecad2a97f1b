import TicketKeeper.Proofs.Store.Sited
import TicketKeeper.Proofs.Text.Words

/-! Folders of jobs stay below the root, whatever the job is called. The name of a folder is one
short name of safe characters, and it tells jobs with different marks apart. -/
namespace TicketKeeper.Store

namespace Path

open TicketKeeper.Text

variable {raw : List Char} {c : Char}

/-- Short names of safe characters that begin with none of those that are stripped, and have
something readable in front of the mark. -/
structure IsFolderName (mark name : List Char) : Prop where
  short : name.length ≤ 93
  safe : ∀ c ∈ name, isSafe c = true
  visible : ∀ c, name.head? = some c → c ≠ '.' ∧ c ≠ '_'
  marked : ∃ front, front ≠ [] ∧ name = front ++ '-' :: mark

def digestDigits : List Char := "0123456789abcdef".toList

theorem mem_hexOfBytes {bs : Bytes} (h : c ∈ hexOfBytes bs) : c ∈ digestDigits := by
  obtain ⟨b, -, hc⟩ := List.mem_flatMap.mp h
  have below := b.toNat_lt
  have digits : ∀ n : Fin 16, Nat.digitChar n.val ∈ digestDigits := by decide
  rw [hexPadded_two ⟨b.toNat, below⟩] at hc
  simp only [List.mem_cons, List.not_mem_nil, or_false] at hc
  obtain rfl | rfl := hc
  · exact digits ⟨b.toNat / 16, by omega⟩
  · exact digits ⟨b.toNat % 16, by omega⟩

theorem mem_mark (h : c ∈ mark raw) : c ∈ digestDigits := mem_hexOfBytes (List.mem_of_mem_take h)

theorem isSafe_of_mem_digestDigits (h : c ∈ digestDigits) : isSafe c = true :=
  List.all_eq_true.mp (by decide : digestDigits.all isSafe = true) c h

/-- The readable part is never empty, and what is stripped from it does not come back at its
beginning when it is cut. -/
theorem head?_readable (line : List Char) :
    ∃ c, (readable line).head? = some c ∧ c ≠ '.' ∧ c ≠ '_' := by
  unfold readable
  generalize stripped : trimBy (fun c => c == '.' || c == '_') (replaceRuns false line) = t
  split
  · exact ⟨'j', rfl, by decide, by decide⟩
  · rename_i any
    obtain ⟨c, r, rfl⟩ := List.exists_cons_of_ne_nil (l := t) fun none => any (by rw [none]; rfl)
    have again := trimBy_trimBy (fun c => c == '.' || c == '_') (replaceRuns false line)
    rw [stripped] at again
    refine ⟨c, rfl, ?_⟩
    simpa using (trimBy_eq_self_iff.mp again).1 c rfl

theorem isFolderName_component (job : String) :
    IsFolderName (mark job.toList) (component job).toList := by
  rw [component, String.toList_ofList, componentOf]
  obtain ⟨first, head, visible⟩ := head?_readable (cleanLine job.toList)
  refine ⟨?_, fun c hc => ?_, fun c hc => ?_, readable (cleanLine job.toList), ?_, rfl⟩
  · have short := length_readable_le (cleanLine job.toList)
    rw [List.length_append, List.length_cons, length_mark]
    rw [maxReadable] at short
    omega
  · rcases List.mem_append.mp hc with hc | hc
    · exact isSafe_of_mem_readable hc
    · rcases List.mem_cons.mp hc with rfl | hc
      · decide
      · exact isSafe_of_mem_digestDigits (mem_mark hc)
  · rw [List.head?_append, head, Option.some_or, Option.some.injEq] at hc
    exact hc ▸ visible
  · rintro none
    rw [none] at head
    cases head

namespace IsFolderName

variable {mark name : List Char}

theorem not_slash (h : IsFolderName mark name) : '/' ∉ name := fun slash =>
  absurd (h.safe '/' slash) (by decide)

theorem ne_dots (h : IsFolderName mark name) : name ≠ [] ∧ name ≠ ['.'] ∧ name ≠ ['.', '.'] := by
  refine ⟨?_, ?_, ?_⟩ <;> rintro rfl
  · obtain ⟨front, -, none⟩ := h.marked
    simp at none
  · exact (h.visible '.' rfl).1 rfl
  · exact (h.visible '.' rfl).1 rfl

end IsFolderName

end Path

namespace Directory

open TicketKeeper.Text FileTree

/-- The path of a job leads to one folder in the root, and to the issue file in it. Jobs have the
same path only if the first digits of their digests are the same. -/
theorem place_confined (root : List String) (job : String) :
    let mark := (Sha256.hexDigest (encodeUtf8 job.toList)).take 12
    Path.IsFolderName mark (Path.component job).toList ∧
      mark.length = 12 ∧ (∀ c ∈ mark, c ∈ Path.digestDigits) ∧
      place root job = root ++ [Path.component job, "issue.txt"] ∧
      splitAt '/' (Path.component job ++ "/issue.txt").toList =
        [(Path.component job).toList, "issue.txt".toList] ∧
      Path.component job ∉ ["", ".", ".."] ∧
      (∀ t here, FileTree.locate t (place root job) = .ok here →
        here = destination [] root ++ [Path.component job, "issue.txt"]) ∧
      ∀ other, place root other = place root job →
        (Sha256.hexDigest (encodeUtf8 other.toList)).take 12 = mark := by
  intro mark
  have name := Path.isFolderName_component job
  have dots := name.ne_dots
  refine ⟨name, Path.length_mark _, fun c => Path.mem_mark, place_eq root job, ?_, ?_, ?_, ?_⟩
  · have cut : (Path.component job ++ "/issue.txt").toList =
        (Path.component job).toList ++ '/' :: "issue.txt".toList := String.toList_append
    have apart : ∀ c ∈ (Path.component job).toList, (c == '/') = false := fun c hc => by
      rw [beq_eq_false_iff_ne]
      rintro rfl
      exact name.not_slash hc
    rw [cut, splitAt, fields_append apart (by decide)]
    rfl
  · simp only [List.mem_cons, List.not_mem_nil, or_false, ← String.toList_inj]
    rintro (none | one | two)
    · exact dots.1 none
    · exact dots.2.1 one
    · exact dots.2.2 two
  · intro t here located
    have led := eq_destination_of_follow (locate_ok_iff.mp located).2
    rw [led, place_eq, destination_append_plain (plain_names job)]
    rfl
  · intro other same
    rw [place_eq, place_eq] at same
    have names := List.append_cancel_left same
    exact Path.mark_eq_of_component_eq (List.cons.inj names).1

/-- A name that climbs leads to a folder in the root. -/
theorem place_confined_climbing :
    let job := "../../etc"
    let t := FileTree.empty.put ["etc-74ccf3c5b4c1"] .directory
    Path.IsFolderName "74ccf3c5b4c1".toList "etc-74ccf3c5b4c1".toList ∧
      ∃ here, t.locate (place [] job) = .ok here ∧ here = ["etc-74ccf3c5b4c1", "issue.txt"] := by
  intro job t
  have name : Path.component job = "etc-74ccf3c5b4c1" := by decide +kernel
  have digits : (Sha256.hexDigest (encodeUtf8 job.toList)).take 12 = "74ccf3c5b4c1".toList := by
    decide +kernel
  obtain ⟨here, located⟩ : ∃ here, t.locate (place [] job) = .ok here := by
    cases led : t.locate (place [] job) with
    | ok here => exact ⟨here, rfl⟩
    | error e =>
      have leads : (t.locate (place [] job)).toOption.isSome = true := by decide +kernel
      rw [led] at leads
      cases leads
  obtain ⟨folder, -, -, -, -, -, leads, -⟩ := place_confined [] job
  rw [digits, name] at folder
  rw [name] at leads
  exact ⟨folder, here, located, leads t here located⟩

end Directory

end TicketKeeper.Store
