import TicketKeeper.CommandLine.Options
import TicketKeeper.Proofs.Text.Words

/-! Options that are given as assignments, by their full names and with an equals sign. They are
read as they stand, whatever is in their values, two dashes alone apart where these are dropped. -/
namespace TicketKeeper.CommandLine

open TicketKeeper.Text

abbrev Assignment := OptionName × String

namespace Assignment

def argument (a : Assignment) : String := a.1.flag ++ "=" ++ a.2

/-- Whether the value is taken: two dashes alone may be none, a build number is a numeral, and
stores have names of their own. -/
def IsTaken (dropsDashes : Bool) (a : Assignment) : Prop :=
  (dropsDashes = true → a.2 ≠ "--") ∧ (a.1 = .buildNumber → (Number.numeral? a.2.toList).isSome) ∧
    (a.1 = .store → a.2 = "database" ∨ a.2 = "file")

theorem toList_argument (a : Assignment) :
    a.argument.toList = a.1.flag.toList ++ '=' :: a.2.toList := by
  simp [argument]

end Assignment

theorem lookup_flags_of_mem {s : List Char} (h : '=' ∈ s) : flags.lookup s = none := by
  have plain : ∀ f ∈ flags, '=' ∉ f.1 := by decide
  rw [List.lookup_eq_none_iff]
  intro f hf
  rw [bne_iff_ne]
  rintro rfl
  exact plain f hf h

theorem lookup_flag (o : OptionName) : flags.lookup o.flag.toList = some (.value o) := by
  cases o <;> decide

theorem classify_argument (a : Assignment) :
    classify a.argument.toList = .ok (.flag (.value a.1) (some (.value a.2.toList))) := by
  have unsplit : '=' ∉ a.1.flag.toList := by cases a.1 <;> decide
  have dashes : ∃ r, a.1.flag.toList = '-' :: '-' :: r := by cases a.1 <;> exact ⟨_, rfl⟩
  obtain ⟨r, dashed⟩ := dashes
  have cut := cutAt_of_not_mem unsplit a.2.toList
  have unlisted : flags.lookup (a.1.flag.toList ++ '=' :: a.2.toList) = none :=
    lookup_flags_of_mem (by simp)
  have behind : Attached.behind a.1.flag.toList a.2.toList = .value a.2.toList := by
    simp [Attached.behind, dashed]
  rw [a.toList_argument, classify]
  simp only [unlisted, cut, lookup_flag, behind]
  rw [dashed]
  simp

theorem classifyAll_arguments (given : List Assignment) :
    classifyAll (given.map Assignment.argument) =
      .ok (given.map fun a => .flag (.value a.1) (some (.value a.2.toList))) := by
  induction given with
  | nil => rfl
  | cons a given ih =>
    have unlike : a.argument ≠ "--" := by
      intro same
      have := congrArg ('=' ∈ ·.toList) same
      simp [Assignment.toList_argument] at this
    rw [List.map_cons, classifyAll, if_neg unlike, classify_argument, ih]
    rfl

variable {dropsDashes : Bool}

theorem accept_of_isTaken {a : Assignment} (h : a.IsTaken dropsDashes) (values : Values) :
    accept dropsDashes a.1 a.2.toList values = .ok ((a.1, some a.2) :: values) := by
  obtain ⟨o, value⟩ := a
  obtain ⟨given, number, store⟩ := h
  have kept : ¬(dropsDashes && value.toList == "--".toList) = true := by
    simp only [Bool.and_eq_true, beq_iff_eq]
    exact fun ⟨drops, same⟩ => given drops (String.toList_inj.mp same)
  unfold accept
  rw [if_neg kept, String.ofList_toList]
  cases o with
  | buildNumber => simp [number rfl]
  | store =>
    obtain rfl | rfl : value = "database" ∨ value = "file" := store rfl <;> simp
  | _ => rfl

theorem take_arguments {given : List Assignment} (taken : ∀ a ∈ given, a.IsTaken dropsDashes)
    (values : Values) :
    take dropsDashes false values (given.map fun a => .flag (.value a.1) (some (.value a.2.toList))) =
      .ok ((given.reverse.map fun a => (a.1, some a.2)) ++ values) := by
  induction given generalizing values with
  | nil => rfl
  | cons a given ih =>
    obtain ⟨first, rest⟩ := List.forall_mem_cons.mp taken
    rw [List.map_cons, take, Attached.text, accept_of_isTaken first]
    change take dropsDashes false ((a.1, some a.2) :: values) _ = _
    rw [ih rest, List.reverse_cons, List.map_append, List.append_assoc]
    rfl

theorem lookup_map_some (given : List Assignment) (o : OptionName) :
    (given.map fun a => (a.1, some a.2)).lookup o = (given.lookup o).map some := by
  induction given with
  | nil => rfl
  | cons a given ih =>
    obtain ⟨o', value⟩ := a
    rw [List.map_cons, List.lookup_cons, List.lookup_cons, ih]
    cases o == o' <;> rfl

theorem parse_arguments {given : List Assignment} (taken : ∀ a ∈ given, a.IsTaken dropsDashes)
    (result : (given.reverse.lookup .result).isSome) :
    parse (given.map Assignment.argument) dropsDashes =
      .ok (given.reverse.map fun a => (a.1, some a.2)) := by
  have read := take_arguments taken []
  rw [List.append_nil] at read
  unfold parse
  rw [classifyAll_arguments]
  change (do
    let values ← take dropsDashes false [] _
    if (values.lookup OptionName.result).isNone then .error .usage else .ok values) = _
  rw [read]
  change (if (List.lookup OptionName.result _).isNone then _ else _) = _
  rw [lookup_map_some, if_neg (by simpa using result)]

end TicketKeeper.CommandLine
