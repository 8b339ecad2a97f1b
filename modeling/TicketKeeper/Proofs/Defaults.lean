import TicketKeeper.Proofs.Cleaning
import TicketKeeper.Proofs.Reporting

/-! Components between commas. The operator's default ones are trimmed and no more, while those of a
report are cleaned and named once each. For the same text both are the same exactly when the trimmed
names are clean already, each of its own folding. -/
namespace TicketKeeper

namespace Text

variable {names : List (List Char)}

theorem cleanNames_eq_self_iff : cleanNames names = names ↔ AreCleanNames names :=
  ⟨fun same => same ▸ areCleanNames_cleanNames names, cleanNames_eq_self⟩

theorem cleanNames_trim (names : List (List Char)) :
    cleanNames ((names.map trim).filter fun w => !w.isEmpty) = cleanNames names := by
  have kept (names : List (List Char)) :
      ((names.filter fun w => !w.isEmpty).map cleanLine).filter (fun w => !w.isEmpty) =
        (names.map cleanLine).filter fun w => !w.isEmpty := by
    induction names with
    | nil => rfl
    | cons w ws ih =>
      cases w with
      | nil => exact ih
      | cons c w =>
        simp only [List.filter_cons, List.map_cons, List.isEmpty_cons, Bool.not_false, if_true, ih]
  have trimmed : cleanLine ∘ trim = cleanLine := funext cleanLine_trim
  rw [cleanNames, kept, List.map_map, trimmed, cleanNames]

end Text

open TicketKeeper.Text

def namesBetween (s : String) : List (List Char) :=
  ((splitAt ',' s.toList).map trim).filter fun w => !w.isEmpty

namespace Report

variable {members : List (String × Json)} {r : Report} {s : String} {names : List String}

theorem names_str (h : Field.names (some maxComponents) (.str s) = .ok names) :
    names = (cleanNames (namesBetween s)).map String.ofList := by
  let parts := (splitAt ',' s.toList).map fun cs => Json.str (String.ofList cs)
  have listed : Field.names (some maxComponents) (.str s) =
      Field.names (some maxComponents) (.arr parts) := rfl
  have present : parts.filter Field.isPresent = parts := by
    rw [List.filter_eq_self]
    intro v hv
    obtain ⟨cs, -, rfl⟩ := List.mem_map.mp hv
    rfl
  have texts : parts.map (fun v => v.text.toList) = splitAt ',' s.toList := by
    rw [List.map_map]
    exact (List.map_congr_left fun cs _ => String.toList_ofList).trans (List.map_id _)
  rw [listed, Field.names_arr, ← Field.cleanNames_texts, present, texts] at h
  split at h
  · cases h
  split at h
  · cases h
  · cases h
    rw [namesBetween, cleanNames_trim]

/-- A report that names its components is accepted without them, too, and is the same otherwise. -/
theorem Reads.without_components {v : Json}
    (h : Reads (Json.setMember "components" v members) r)
    (silent : (Json.member? "components" members).getD .null = .null) :
    Reads members { r with components := none } := by
  have same {name : String} (other : name ≠ "components") :
      Json.member? name (Json.setMember "components" v members) = Json.member? name members :=
    Json.lookup_setMember_of_ne v other members
  have given {α : Type} {name : String} (other : name ≠ "components") (read : Json → Except Rule α) :
      required members name read = required (Json.setMember "components" v members) name read := by
    rw [required, required, same other]
  have perhaps {α : Type} {name : String} (other : name ≠ "components") (default : α)
      (read : Json → Except Rule α) : withDefault members name default read =
        withDefault (Json.setMember "components" v members) name default read := by
    rw [withDefault, withDefault, same other]
  refine ⟨?_, ?_, ?_, ?_, ?_, ?_, ?_, ?_, ?_, ?_⟩
  · exact (given (by decide) _).trans h.job
  · exact (given (by decide) _).trans h.number
  · exact (perhaps (by decide) _ _).trans h.url
  · exact (given (by decide) _).trans h.outcome
  · exact (perhaps (by decide) _ _).trans h.previous
  · exact (perhaps (by decide) _ _).trans h.rootUrl
  · exact (perhaps (by decide) _ _).trans h.projectKey
  · exact (perhaps (by decide) _ _).trans h.testDescription
  · exact (perhaps (by decide) _ _).trans h.assignee
  · rw [silent]
    rfl

theorem Reads.components_str (h : Reads (Json.setMember "components" (.str s) members) r) :
    r.components = some ((cleanNames (namesBetween s)).map String.ofList) := by
  have read := h.components
  rw [Json.member?, Json.lookup_setMember_self, Option.getD_some] at read
  simp only [componentNames] at read
  split at read
  · rename_i names listed
    simp only [Except.ok.injEq] at read
    rw [← read, names_str listed]
  all_goals cases read

end Report

/-- The default components are the names between the commas of the setting, and those of a report
are the clean ones of the names in its text. For the same text they are the same exactly when its
names are clean, each of its own folding. -/
theorem Profile.components_defaulted_iff (settings : Settings) {members : List (String × Json)}
    {s : String} {told : Report}
    (silent : (Json.member? "components" members).getD .null = .null)
    (accepted : Report.ofMembers (Json.setMember "components" (.str s) members) = .ok told) :
    ∃ untold, Report.ofMembers members = .ok untold ∧
      let default := (Profile.ofReport { settings with components := s } untold).components
      let explicit := (Profile.ofReport settings told).components
      default = (namesBetween s).map String.ofList ∧
        explicit = (cleanNames (namesBetween s)).map String.ofList ∧
        (default = explicit ↔ AreCleanNames (namesBetween s)) := by
  have reads := Report.ofMembers_eq_ok_iff.mp accepted
  refine ⟨_, Report.ofMembers_eq_ok_iff.mpr (reads.without_components silent), ?_⟩
  intro default explicit
  have given : default = (namesBetween s).map String.ofList := rfl
  have named : explicit = (cleanNames (namesBetween s)).map String.ofList := by
    simp only [explicit, Profile.ofReport, reads.components_str, Option.getD_some]
  have apart : Function.Injective (List.map String.ofList) :=
    List.map_injective_iff.mpr fun _ _ => String.ofList_inj.mp
  refine ⟨given, named, ?_⟩
  rw [given, named, apart.eq_iff, eq_comm, cleanNames_eq_self_iff]

def untoldMembers : List (String × Json) :=
  [("job_name", .str "J"), ("build_number", .int 7), ("result", .str "FAILURE")]

/-- Blanks around names and between commas make no difference. -/
theorem Profile.components_defaulted_iff_tidy :
    let s := " Backend,, Web UI"
    let untold : Report := { job := "J", number := 7, outcome := .failure }
    let told : Report := { untold with components := some ["Backend", "Web UI"] }
    Report.ofMembers untoldMembers = .ok untold ∧
      Report.ofMembers (Json.setMember "components" (.str s) untoldMembers) = .ok told ∧
      (Profile.ofReport { components := s } untold).components =
        (Profile.ofReport {} told).components := by
  intro s untold told
  have accepted : Report.ofMembers (Json.setMember "components" (.str s) untoldMembers) = .ok told :=
    Report.ok_of_toOption (by decide +kernel)
  have plain : Report.ofMembers untoldMembers = .ok untold :=
    Report.ok_of_toOption (by decide +kernel)
  obtain ⟨untold', read, -, -, same⟩ :=
    Profile.components_defaulted_iff {} (by rfl) accepted
  obtain rfl : untold = untold' := Except.ok.inj (plain.symm.trans read)
  refine ⟨plain, accepted, same.mpr (cleanNames_eq_self_iff.mp ?_)⟩
  decide +kernel

/-- A component in two spellings, which the default keeps both. -/
theorem Profile.components_defaulted_respelled :
    let s := "UI,ui"
    let untold : Report := { job := "J", number := 7, outcome := .failure }
    let told : Report := { untold with components := some ["UI"] }
    Report.ofMembers untoldMembers = .ok untold ∧
      Report.ofMembers (Json.setMember "components" (.str s) untoldMembers) = .ok told ∧
      (Profile.ofReport { components := s } untold).components = ["UI", "ui"] ∧
      (Profile.ofReport { components := s } told).components = ["UI"] := by
  intro s untold told
  exact ⟨Report.ok_of_toOption (by decide +kernel), Report.ok_of_toOption (by decide +kernel),
    by decide +kernel, rfl⟩

end TicketKeeper
