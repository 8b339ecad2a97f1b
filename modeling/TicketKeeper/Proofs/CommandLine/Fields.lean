import TicketKeeper.CommandLine.Run
import TicketKeeper.Proofs.CommandLine.Options

/-! The fields of a report, given as members of an object or as options. Both are read as the same
report: an optional field that is left out is read like the value that stands for it. -/
namespace TicketKeeper

namespace Report

def nullFields : List String :=
  ["previous_result", "root_url", "project_key", "test_description", "assignee", "components"]

theorem read_getD {α : Type} (read : Json → Except Rule α) {default : Json} {a : Except Rule α}
    (h : read default = a) (v : Option Json) : read (v.getD default) = (v.map read).getD a := by
  cases v with
  | none => exact h
  | some => rfl

/-- Reading looks at the fields of a report only, and at their defaults where they are left out. -/
theorem ofMembers_congr {members others : List (String × Json)}
    (required : ∀ name ∈ ["job_name", "build_number", "result"],
      Json.member? name others = Json.member? name members)
    (url : Json.member? "build_url" others =
      some ((Json.member? "build_url" members).getD (.str "")))
    (optional : ∀ name ∈ nullFields,
      Json.member? name others = some ((Json.member? name members).getD .null)) :
    ofMembers others = ofMembers members := by
  have line (most : Nat) (v : Option Json) :
      written (v.getD .null) (Report.optional most (Field.line (v.getD .null))) =
        (v.map fun v => written v (Report.optional most (Field.line v))).getD (.ok none) :=
    read_getD (fun v => written v (Report.optional most (Field.line v))) rfl v
  have text (most : Nat) (v : Option Json) :
      written (v.getD .null) (Report.optional most (Field.text (v.getD .null))) =
        (v.map fun v => written v (Report.optional most (Field.text v))).getD (.ok none) :=
    read_getD (fun v => written v (Report.optional most (Field.text v))) rfl v
  have shown (v : Option Json) :
      written (v.getD (.str "")) (bounded 0 maxUrl (Field.line (v.getD (.str "")))) =
        (v.map fun v => written v (bounded 0 maxUrl (Field.line v))).getD (.ok "") :=
    read_getD (fun v => written v (bounded 0 maxUrl (Field.line v))) rfl v
  have outcome (v : Option Json) :
      outcomeField (v.getD .null) = (v.map outcomeField).getD (.ok none) :=
    read_getD outcomeField rfl v
  simp only [nullFields, List.mem_cons, List.not_mem_nil, or_false, forall_eq_or_imp,
    forall_eq] at required optional
  obtain ⟨job, number, result⟩ := required
  obtain ⟨previous, rootUrl, projectKey, description, assignee, components⟩ := optional
  unfold ofMembers
  simp only [job, number, result, url, previous, rootUrl, projectKey, description, assignee,
    components, Option.map_some, Option.getD_some, line, text, shown, outcome]

end Report

namespace CommandLine

/-- The texts that a report must have, and those that it may leave out, by their options. -/
def requiredTexts : List (OptionName × String) := [(.job, "job_name"), (.result, "result")]

def optionalTexts : List (OptionName × String) := [
  (.buildUrl, "build_url"), (.rootUrl, "root_url"), (.previousResult, "previous_result"),
  (.projectKey, "project_key"), (.testDescription, "test_description"), (.assignee, "assignee"),
  (.components, "components")]

/-- An object and assignments that tell the same report, in which no optional text is empty. -/
structure SameFields (dropsDashes : Bool) (members : List (String × Json))
    (given : List Assignment) : Prop where
  taken : ∀ a ∈ given, a.IsTaken dropsDashes
  number : ∃ n text, Json.member? "build_number" members = some (.int n) ∧
    given.reverse.lookup .buildNumber = some text ∧ Number.numeral? text.toList = some n
  required : ∀ f ∈ requiredTexts, ∃ text, Json.member? f.2 members = some (.str text) ∧
    given.reverse.lookup f.1 = some text
  optional : ∀ f ∈ optionalTexts, given.reverse.lookup f.1 ≠ some "" ∧
    Json.member? f.2 members = (given.reverse.lookup f.1).map .str
  unstored : given.reverse.lookup .store = none ∧ given.reverse.lookup .storeDir = none

def values (given : List Assignment) : Values := given.reverse.map fun a => (a.1, some a.2)

def said (given : List Assignment) (o : OptionName) (default : String) : Json :=
  ((given.reverse.lookup o).map Json.str).getD (.str default)

section Reading

variable {dropsDashes : Bool} {members : List (String × Json)} {given : List Assignment}
  {settings : Settings} {env : List (String × String)}

theorem lookup_values (given : List Assignment) (o : OptionName) :
    (values given).lookup o = (given.reverse.lookup o).map some := lookup_map_some _ o

theorem said_eq (o : OptionName) (default : String) :
    (((values given).lookup o).map fun v => (v.map Json.str).getD (.arr [])).getD (.str default) =
      said given o default := by
  rw [lookup_values, Option.map_map]
  rfl

theorem getD_lookup_env (empty : ∀ e ∈ env, e.2 = "") (name : String) :
    (env.lookup name).getD "" = "" := by
  cases found : env.lookup name with
  | none => rfl
  | some v =>
    obtain ⟨before, behind, rfl, -⟩ := List.lookup_eq_some_iff.mp found
    exact empty (name, v) (List.mem_append_right before List.mem_cons_self)

theorem environmentNumber_eq (empty : ∀ e ∈ env, e.2 = "") : environmentNumber env = .ok 0 := by
  have unset := getD_lookup_env empty "BUILD_NUMBER"
  unfold environmentNumber
  cases found : env.lookup "BUILD_NUMBER" with
  | none => rfl
  | some v =>
    rw [found] at unset
    obtain rfl : v = "" := unset
    rfl

theorem ofValues_eq (empty : ∀ e ∈ env, e.2 = "") (n : Int) :
    Arguments.ofValues settings env n (values given) = {
      job := said given .job ""
      buildNumber := ((given.reverse.lookup .buildNumber).map fun s =>
        .ofInt? (Number.numeral? s.toList)).getD (.int n)
      buildUrl := said given .buildUrl ""
      rootUrl := said given .rootUrl ""
      result := said given .result ""
      previousResult := said given .previousResult ""
      projectKey := said given .projectKey ""
      testDescription := said given .testDescription ""
      assignee := said given .assignee ""
      components := said given .components ""
      store := said given .store settings.backend
      storeDir := said given .storeDir "" } := by
  simp only [Arguments.ofValues, getD_lookup_env empty, said_eq]
  rw [lookup_values, Option.map_map]
  rfl

theorem ite_said {o : OptionName} (worded : given.reverse.lookup o ≠ some "") :
    (if (said given o "").isTruthy then said given o "" else .null) =
      ((given.reverse.lookup o).map Json.str).getD .null := by
  unfold said
  cases found : given.reverse.lookup o with
  | none => rfl
  | some s =>
    rw [found] at worded
    exact if_pos (by simpa [Json.isTruthy] using worded)

namespace SameFields

theorem parse_eq (same : SameFields dropsDashes members given) :
    parse (given.map Assignment.argument) dropsDashes = .ok (values given) := by
  obtain ⟨text, -, result⟩ := same.required (.result, "result") (by decide)
  exact parse_arguments same.taken (by rw [result]; rfl)

theorem said_required (same : SameFields dropsDashes members given) {f : OptionName × String}
    (hf : f ∈ requiredTexts) : Json.member? f.2 members = some (said given f.1 "") := by
  obtain ⟨text, told, found⟩ := same.required f hf
  rw [told, said, found]
  rfl

/-- The options make a report that is read as the members are. -/
theorem ofJson_reportJson (same : SameFields dropsDashes members given) (empty : ∀ e ∈ env, e.2 = "")
    (n : Int) :
    Report.ofJson (Arguments.ofValues settings env n (values given)).reportJson =
      Report.ofMembers members := by
  obtain ⟨number, text, told, found, numeral⟩ := same.number
  have optional {f : OptionName × String} (hf : f ∈ optionalTexts) :
      (if (said given f.1 "").isTruthy then said given f.1 "" else .null) =
        (Json.member? f.2 members).getD .null := by
    rw [ite_said (same.optional f hf).1, (same.optional f hf).2]
  rw [ofValues_eq empty, Arguments.reportJson, found]
  simp only [Option.map_some, Option.getD_some, numeral, Report.ofJson]
  apply Report.ofMembers_congr
  · simp only [List.mem_cons, List.not_mem_nil, or_false, forall_eq_or_imp, forall_eq]
    refine ⟨?_, ?_, ?_⟩
    · exact (same.said_required (f := (.job, "job_name")) (by decide)).symm
    · exact told.symm
    · exact (same.said_required (f := (.result, "result")) (by decide)).symm
  · have url := (same.optional (.buildUrl, "build_url") (by decide)).2
    rw [url]
    rfl
  · simp only [Report.nullFields, List.mem_cons, List.not_mem_nil, or_false, forall_eq_or_imp,
      forall_eq]
    refine ⟨?_, ?_, ?_, ?_, ?_, ?_⟩
    · exact congrArg some (optional (f := (.previousResult, "previous_result")) (by decide))
    · exact congrArg some (optional (f := (.rootUrl, "root_url")) (by decide))
    · exact congrArg some (optional (f := (.projectKey, "project_key")) (by decide))
    · exact congrArg some (optional (f := (.testDescription, "test_description")) (by decide))
    · exact congrArg some (optional (f := (.assignee, "assignee")) (by decide))
    · exact congrArg some (optional (f := (.components, "components")) (by decide))

end SameFields

end Reading

end CommandLine

end TicketKeeper
