import TicketKeeper.Proofs.Field
import TicketKeeper.Proofs.Reading

/-! Reports in normal form. What is read of a report is clean and within its limits, however it was
spelled; and a report in normal form is read as itself when its own fields are reported again. -/
namespace TicketKeeper.Report

open TicketKeeper.Text

structure IsShortLine (most : Nat) (s : String) : Prop where
  clean : IsCleanLine s.toList
  short : s.length ≤ most

structure AreNames (most : Nat) (names : List String) : Prop where
  few : names.length ≤ most
  clean : ∀ s ∈ names, s ≠ "" ∧ IsCleanLine s.toList
  apart : names.Pairwise fun a b => fold a.toList ≠ fold b.toList

/-- Reports as they are read. Optional texts are absent or not empty. -/
structure Normal (r : Report) : Prop where
  job : r.job ≠ "" ∧ IsShortLine maxJob r.job
  number : 1 ≤ r.number
  url : IsShortLine maxUrl r.url
  rootUrl : ∀ s, r.rootUrl = some s → s ≠ "" ∧ IsShortLine maxUrl s
  projectKey : ∀ s, r.projectKey = some s → s ≠ "" ∧ IsShortLine maxProjectKey s
  testDescription : ∀ s, r.testDescription = some s →
    s ≠ "" ∧ IsCleanText s.toList ∧ s.length ≤ maxDescription
  assignee : ∀ s, r.assignee = some s → s ≠ "" ∧ IsShortLine maxAssignee s
  components : ∀ names, r.components = some names → AreNames maxComponents names

section Fields

variable {members : List (String × Json)} {r : Report}

def required {α : Type} (members : List (String × Json)) (name : String)
    (read : Json → Except Rule α) : Except Rule α :=
  match Json.member? name members with
  | some v => read v
  | none => .error .missing

theorem required_eq_ok_iff {α : Type} {name : String} {read : Json → Except Rule α} {a : α} :
    required members name read = .ok a ↔
      ∃ v, Json.member? name members = some v ∧ read v = .ok a := by
  unfold required
  cases Json.member? name members <;> simp

theorem required_of_member {α : Type} {name : String} {v : Json}
    (h : Json.member? name members = some v) (read : Json → Except Rule α) :
    required members name read = read v := by
  simp only [required, h]

def withDefault {α : Type} (members : List (String × Json)) (name : String) (default : α)
    (read : Json → Except Rule α) : Except Rule α :=
  ((Json.member? name members).map read).getD (.ok default)

theorem withDefault_of_member {α : Type} {name : String} {v : Json}
    (h : Json.member? name members = some v) (default : α) (read : Json → Except Rule α) :
    withDefault members name default read = read v := by
  simp only [withDefault, h, Option.map_some, Option.getD_some]

/-- Every field of a report is what is read of its member. -/
structure Reads (members : List (String × Json)) (r : Report) : Prop where
  job : required members "job_name" (fun v => written v (bounded 1 maxJob (Field.line v))) =
    .ok r.job
  number : required members "build_number" buildNumber = .ok r.number
  url : withDefault members "build_url" "" (fun v => written v (bounded 0 maxUrl (Field.line v))) =
    .ok r.url
  outcome : required members "result" requiredOutcome = .ok r.outcome
  previous : withDefault members "previous_result" none outcomeField = .ok r.previous
  rootUrl : withDefault members "root_url" none
    (fun v => written v (optional maxUrl (Field.line v))) = .ok r.rootUrl
  projectKey : withDefault members "project_key" none
    (fun v => written v (optional maxProjectKey (Field.line v))) = .ok r.projectKey
  testDescription : withDefault members "test_description" none
    (fun v => written v (optional maxDescription (Field.text v))) = .ok r.testDescription
  assignee : withDefault members "assignee" none
    (fun v => written v (optional maxAssignee (Field.line v))) = .ok r.assignee
  components : componentNames ((Json.member? "components" members).getD .null) =
    .ok (.ok r.components)

theorem ofMembers_eq_ok_iff : ofMembers members = .ok r ↔ Reads members r := by
  constructor
  · intro h
    unfold ofMembers at h
    dsimp only at h
    split at h
    · cases h
    rename_i names listed
    split at h
    · rename_i read
      cases h
      simp only [Option.pure_def, Option.bind_eq_bind, Option.bind_eq_some_iff] at read
      obtain ⟨job, hjob, n, hn, url, hurl, outcome, houtcome, previous, hprevious, root, hroot, key,
        hkey, description, hdescription, assignee, hassignee, components, hcomponents, ⟨⟩⟩ := read
      refine ⟨ok_of_toOption hjob, ok_of_toOption hn, ok_of_toOption hurl, ok_of_toOption houtcome,
        ok_of_toOption hprevious, ok_of_toOption hroot, ok_of_toOption hkey,
        ok_of_toOption hdescription, ok_of_toOption hassignee, ?_⟩
      rw [listed, ok_of_toOption hcomponents]
    · cases h
  · rintro ⟨job, number, url, outcome, previous, root, key, description, assignee, components⟩
    obtain ⟨v, hv, job⟩ := required_eq_ok_iff.mp job
    obtain ⟨w, hw, number⟩ := required_eq_ok_iff.mp number
    obtain ⟨u, hu, outcome⟩ := required_eq_ok_iff.mp outcome
    unfold withDefault at url previous root key description assignee
    unfold ofMembers
    simp only [hv, job, hw, number, url, hu, outcome, previous, root, key, description, assignee,
      components]
    rfl

theorem bounded_eq_ok_iff {least most : Nat} {s s' : String} :
    bounded least most s = .ok s' ↔ s' = s ∧ least ≤ s.length ∧ s.length ≤ most := by
  unfold bounded
  split
  · constructor
    · intro h
      cases h
    · omega
  split
  · constructor
    · intro h
      cases h
    · omega
  · constructor
    · intro h
      cases h
      exact ⟨rfl, by omega, by omega⟩
    · rintro ⟨rfl, -⟩
      rfl

theorem optional_eq_ok_iff {most : Nat} {s : String} {o : Option String} :
    optional most s = .ok o ↔ if s = "" then o = none else o = some s ∧ s.length ≤ most := by
  unfold optional
  split
  · rw [Except.ok.injEq, eq_comm]
  · constructor
    · intro h
      cases cut : bounded 0 most s with
      | error => simp [cut, Except.map] at h
      | ok s' =>
        obtain ⟨rfl, -, short⟩ := bounded_eq_ok_iff.mp cut
        simp only [cut, Except.map, Except.ok.injEq] at h
        exact ⟨h.symm, short⟩
    · rintro ⟨rfl, short⟩
      rw [bounded_eq_ok_iff.mpr ⟨rfl, Nat.zero_le _, short⟩]
      rfl

theorem buildNumber_int {n : Int} (h : 1 ≤ n) : buildNumber (.int n) = .ok n :=
  if_neg (by omega)

end Fields

section Lines

variable {most : Nat} {s : String} {o : Option String}

theorem isShortLine_of_bounded {least : Nat} {v : Json}
    (h : written v (bounded least most (Field.line v)) = .ok s) : IsShortLine most s := by
  obtain ⟨rfl, -, short⟩ := bounded_eq_ok_iff.mp (written_eq_ok.mp h).2
  exact ⟨Field.isCleanLine_line v, short⟩

theorem of_optional {v : Option Json} {read : Json → String}
    (h : (v.map fun v => written v (optional most (read v))).getD (.ok none) = .ok o) :
    ∀ s, o = some s → s ≠ "" ∧ s.length ≤ most ∧ ∃ v, read v = s := by
  rintro s rfl
  cases v with
  | none => cases h
  | some v =>
    have h := optional_eq_ok_iff.mp (written_eq_ok.mp h).2
    split at h
    · cases h
    · obtain ⟨⟨⟩, short⟩ := h
      exact ⟨‹_›, short, v, rfl⟩

theorem optional_ofString? {read : Json → String} (null : read .null = "")
    (h : ∀ s, o = some s → s ≠ "" ∧ s.length ≤ most ∧ read (.str s) = s) :
    written (.ofString? o) (optional most (read (.ofString? o))) = .ok o := by
  cases o with
  | none =>
    change optional most (read .null) = _
    rw [null]
    rfl
  | some s =>
    obtain ⟨any, short, same⟩ := h s rfl
    change optional most (read (.str s)) = _
    rw [same]
    exact optional_eq_ok_iff.mpr (if_neg any ▸ ⟨rfl, short⟩)

end Lines

section Names

variable {most : Nat} {v : Json} {names : List String}

theorem areNames_of_names (h : Field.names (some most) v = .ok names) : AreNames most names := by
  obtain rfl | ⟨values, few, rfl⟩ := Field.names_eq_ok h
  · exact ⟨Nat.zero_le most, nofun, .nil⟩
  · refine ⟨?_, fun s hs => ?_, firstsBy_apart Field.folded (Field.cleanTexts values)⟩
    · rw [length_firstsBy, ← Field.variety]
      simpa using few
    · exact Field.isCleanLine_of_mem_cleanTexts
        ((firstsBy_sublist Field.folded (Field.cleanTexts values)).subset hs)

theorem names_arr (h : AreNames most names) :
    Field.names (some most) (.arr (names.map .str)) = .ok names := by
  have kept : firstsBy Field.folded names = names := firstsBy_eq_self h.apart
  have few : Field.variety names ≤ most := by
    rw [Field.variety, ← length_firstsBy, kept]
    exact h.few
  rw [Field.names_arr, Field.all_hasText_str, Field.cleanTexts_str h.clean, kept,
    if_neg (by decide), if_neg (by simpa using few)]

theorem areNames_of_componentNames (h : componentNames v = .ok (.ok (some names))) :
    AreNames maxComponents names := by
  unfold componentNames at h
  split at h
  · cases h
  · split at h
    · cases h
      exact areNames_of_names ‹_›
    all_goals cases h

theorem componentNames_ofOption {components : Option (List String)}
    (h : ∀ names, components = some names → AreNames maxComponents names) :
    componentNames (.ofOption (fun names => .arr (names.map .str)) components) =
      .ok (.ok components) := by
  cases components with
  | none => rfl
  | some names =>
    simp only [Json.ofOption, componentNames, names_arr (h names rfl)]

end Names

section Normality

variable {members : List (String × Json)} {r : Report}

theorem Reads.normal (h : Reads members r) : r.Normal where
  job := by
    obtain ⟨v, -, read⟩ := required_eq_ok_iff.mp h.job
    obtain ⟨same, any, -⟩ := bounded_eq_ok_iff.mp (written_eq_ok.mp read).2
    refine ⟨?_, isShortLine_of_bounded read⟩
    intro none
    rw [← same, none] at any
    contradiction
  number := by
    obtain ⟨v, -, read⟩ := required_eq_ok_iff.mp h.number
    exact one_le_of_buildNumber read
  url := by
    have read := h.url
    unfold withDefault at read
    cases found : Json.member? "build_url" members with
    | none =>
      rw [found] at read
      rw [← Except.ok.inj read]
      exact ⟨cleanLine_eq_self_iff.mp rfl, Nat.zero_le _⟩
    | some v =>
      rw [found] at read
      exact isShortLine_of_bounded read
  rootUrl := by
    intro s hs
    obtain ⟨any, short, v, rfl⟩ := of_optional h.rootUrl s hs
    exact ⟨any, Field.isCleanLine_line v, short⟩
  projectKey := by
    intro s hs
    obtain ⟨any, short, v, rfl⟩ := of_optional h.projectKey s hs
    exact ⟨any, Field.isCleanLine_line v, short⟩
  testDescription := by
    intro s hs
    obtain ⟨any, short, v, rfl⟩ := of_optional h.testDescription s hs
    exact ⟨any, Field.isCleanText_text v, short⟩
  assignee := by
    intro s hs
    obtain ⟨any, short, v, rfl⟩ := of_optional h.assignee s hs
    exact ⟨any, Field.isCleanLine_line v, short⟩
  components := by
    intro names hnames
    exact areNames_of_componentNames (hnames ▸ h.components)

theorem exists_reads_of_ofJson {v : Json} (h : ofJson v = .ok r) :
    ∃ members, v = .obj members ∧ Reads members r := by
  unfold ofJson at h
  split at h
  · exact ⟨_, rfl, ofMembers_eq_ok_iff.mp h⟩
  · cases h

theorem requiredOutcome_name (o : Outcome) : requiredOutcome (.str o.name) = .ok o := by
  cases o <;> decide +kernel

theorem outcomeField_ofOption (o : Option Outcome) :
    outcomeField (.ofOption (fun o => .str o.name) o) = .ok o := by
  cases o with
  | none => rfl
  | some o => cases o <;> decide +kernel

/-- A report in normal form is read of its own fields. -/
theorem Normal.ofJson_toJson (h : r.Normal) : ofJson r.toJson = .ok r := by
  have line {most : Nat} {o : Option String}
      (lines : ∀ s, o = some s → s ≠ "" ∧ IsShortLine most s) :
      written (.ofString? o) (optional most (Field.line (.ofString? o))) = .ok o := by
    refine optional_ofString? rfl fun s hs => ?_
    obtain ⟨any, line⟩ := lines s hs
    exact ⟨any, line.short, Field.line_str line.clean⟩
  have text : written (.ofString? r.testDescription)
      (optional maxDescription (Field.text (.ofString? r.testDescription))) =
        .ok r.testDescription := by
    refine optional_ofString? rfl fun s hs => ?_
    obtain ⟨any, clean, short⟩ := h.testDescription s hs
    exact ⟨any, short, Field.text_str clean⟩
  have bounded {s : String} {least most : Nat} (any : least ≤ s.length) (line : IsShortLine most s) :
      written (.str s) (bounded least most (Field.line (.str s))) = .ok s := by
    rw [Field.line_str line.clean]
    exact bounded_eq_ok_iff.mpr ⟨rfl, any, line.short⟩
  have named : 1 ≤ r.job.length := by
    have any := h.job.1
    by_contra short
    exact any (String.length_eq_zero_iff.mp (by omega))
  unfold toJson ofJson
  refine ofMembers_eq_ok_iff.mpr ⟨?_, ?_, ?_, ?_, ?_, ?_, ?_, ?_, ?_, ?_⟩
  · exact (required_of_member rfl _).trans (bounded named h.job.2)
  · exact (required_of_member rfl _).trans (buildNumber_int h.number)
  · exact (withDefault_of_member rfl _ _).trans (bounded (Nat.zero_le _) h.url)
  · exact (required_of_member rfl _).trans (requiredOutcome_name _)
  · exact (withDefault_of_member rfl _ _).trans (outcomeField_ofOption _)
  · exact (withDefault_of_member rfl _ _).trans (line h.rootUrl)
  · exact (withDefault_of_member rfl _ _).trans (line h.projectKey)
  · exact (withDefault_of_member rfl _ _).trans text
  · exact (withDefault_of_member rfl _ _).trans (line h.assignee)
  · exact componentNames_ofOption h.components

/-- An accepted report is in normal form, and is read again as it is. -/
theorem normal_of_ofJson {v : Json} (h : ofJson v = .ok r) :
    r.Normal ∧ ofJson r.toJson = .ok r := by
  obtain ⟨members, -, reads⟩ := exists_reads_of_ofJson h
  exact ⟨reads.normal, reads.normal.ofJson_toJson⟩

def untidyMembers : List (String × Json) := [
  ("job_name", .str "\u2028 nightly\u0007 \u3000api "), ("build_number", .str " 0_7 "),
  ("result", .str " failure"), ("root_url", .str "\n"),
  ("test_description", .str " a \r\n\r\n\n\n\tb\u0085 "),
  ("components", .str "UI, ui,,Stra\u00DFe,STRASSE")]

theorem normal_of_ofJson_untidy :
    let r : Report := {
      job := "nightly api"
      number := 7
      outcome := .failure
      testDescription := some "a\n\nb"
      components := some ["UI", "Stra\u00DFe"] }
    ofJson (.obj untidyMembers) = .ok r ∧ r.Normal ∧ ofJson r.toJson = .ok r := by
  intro r
  have read : ofJson (.obj untidyMembers) = .ok r := ok_of_toOption (by decide +kernel)
  exact ⟨read, normal_of_ofJson read⟩

end Normality

end TicketKeeper.Report
