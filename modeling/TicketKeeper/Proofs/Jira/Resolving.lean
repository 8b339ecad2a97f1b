import TicketKeeper.Cycle
import TicketKeeper.Proofs.Jira.Posting
import TicketKeeper.Proofs.Naming
import TicketKeeper.Proofs.Reporting

/-! The components of an issue. Each name that a report gives is sent by the id of a listed
component that bears it, or else as it is. Names of a report differ in more than case, so their
entries stay apart as long as the ids do. -/
namespace TicketKeeper

theorem Report.AreNames.pairwise_foldName {most : Nat} {names : List String}
    (h : AreNames most names) :
    names.Pairwise fun a b => Jira.foldName a.toList ≠ Jira.foldName b.toList := by
  have own {name : String} (hname : name ∈ names) :
      Jira.foldName name.toList = Text.fold name.toList :=
    congrArg Text.fold (h.clean name hname).2.trimmed
  refine h.apart.imp_of_mem fun ha hb differ => ?_
  rwa [own ha, own hb]

namespace Jira

open TicketKeeper.Text

def isObject : Json → Bool
  | .obj _ => true
  | _ => false

def componentName (item : Json) : String := firstText (item.get "name") .null

def componentId (item : Json) : String := firstText (item.get "id") .null

/-- A listed component has that name, up to case and the blanks around it. -/
def Bears (item : Json) (name : String) : Prop :=
  foldName (componentName item).toList = foldName name.toList

instance (item : Json) (name : String) : Decidable (Bears item name) :=
  inferInstanceAs (Decidable (_ = _))

inductive Entry
  | byId (id : String)
  | byName (name : String)

namespace Entry

def toJson : Entry → Json
  | byId id => .obj [("id", .str id)]
  | byName name => .obj [("name", .str name)]

def isById : Entry → Bool
  | byId _ => true
  | byName _ => false

/-- What an entry for a name may be: the id of a listed component that bears it, or the name. -/
def Fits (listed : List Json) (name : String) : Entry → Prop
  | byId id => id ≠ "" ∧ ∃ item ∈ listed, Bears item name ∧ componentId item = id
  | byName n => n = name

theorem toJson_injective : Function.Injective toJson := by
  intro a b same
  cases a <;> cases b <;> simp [toJson] at same <;> rw [same]

variable {listed : List Json} {name other : String} {a b : Entry}

theorem Fits.mono {more : List Json} (h : Fits listed name a) (sub : listed ⊆ more) :
    Fits more name a := by
  cases a with
  | byName => exact h
  | byId =>
    obtain ⟨any, item, hitem, bears⟩ := h
    exact ⟨any, item, sub hitem, bears⟩

/-- Different names have different entries: an id tells the component, and so the name. -/
theorem Fits.ne (ids : (listed.map componentId).Nodup) (ha : Fits listed name a)
    (hb : Fits listed other b) (differ : foldName name.toList ≠ foldName other.toList) :
    a ≠ b := by
  rintro rfl
  cases a with
  | byName =>
    obtain rfl : name = other := Eq.trans (Eq.symm ha) hb
    exact differ rfl
  | byId =>
    obtain ⟨-, item, hitem, bears, rfl⟩ := ha
    obtain ⟨-, item', hitem', bears', same⟩ := hb
    obtain rfl := List.inj_on_of_nodup_map ids hitem' hitem same
    exact differ (bears.symm.trans bears')

end Entry

section Lookup

variable {listed : List Json} {item : Json} {name : String}

theorem toList_firstText (v : Json) :
    (firstText v .null).toList = if v.isTruthy then trim v.text.toList else [] := by
  unfold firstText
  cases truthy : v.isTruthy
  · rfl
  · simp only [if_true, truthy, String.toList_ofList]

/-- The component that counts for a name is the last one that bears it. -/
theorem componentId?_eq (listed : List Json) (name : String) :
    componentId? listed name =
      (listed.reverse.find? fun item => Bears item name).map componentId := by
  have named (item : Json) : (fold (if (item.get "name").isTruthy then
      trim (item.get "name").text.toList else []) == foldName name.toList) =
      decide (Bears item name) := by
    have own : foldName (componentName item).toList = fold (componentName item).toList :=
      congrArg fold (isTrimmed_firstText ..)
    rw [Bool.eq_iff_iff, beq_iff_eq, decide_eq_true_iff, Bears, own, ← toList_firstText,
      componentName]
  have ids (item : Json) : String.ofList (if (item.get "id").isTruthy then
      trim (item.get "id").text.toList else []) = componentId item := by
    rw [← toList_firstText, String.ofList_toList, componentId]
  simp only [← named, ← funext ids]
  rfl

def entryFor (listed : List Json) (name : String) : Entry :=
  match (componentId? listed name).filter (· != "") with
  | some id => .byId id
  | none => .byName name

theorem toJson_entryFor (listed : List Json) (name : String) :
    (entryFor listed name).toJson = componentJson listed name := by
  unfold entryFor componentJson
  generalize (componentId? listed name).filter (· != "") = known
  cases known <;> rfl

theorem fits_entryFor (listed : List Json) (name : String) :
    Entry.Fits listed name (entryFor listed name) := by
  unfold entryFor
  rw [componentId?_eq]
  split
  · rename_i id known
    obtain ⟨found, any⟩ := Option.filter_eq_some_iff.mp known
    obtain ⟨item, hitem, rfl⟩ := Option.map_eq_some_iff.mp found
    refine ⟨by simpa using any, item, ?_, by simpa using List.find?_some hitem, rfl⟩
    exact List.mem_reverse.mp (List.mem_of_find?_eq_some hitem)
  · rfl

theorem componentId?_of_mem
    (apart : (listed.map fun item => foldName (componentName item).toList).Nodup)
    (hitem : item ∈ listed) (bears : Bears item name) :
    componentId? listed name = some (componentId item) := by
  have found : (listed.reverse.find? fun item => Bears item name).isSome := by
    rw [List.find?_isSome]
    exact ⟨item, List.mem_reverse.mpr hitem, decide_eq_true bears⟩
  obtain ⟨other, hother⟩ := Option.isSome_iff_exists.mp found
  have bears' : Bears other name := by simpa using List.find?_some hother
  obtain rfl : other = item := by
    apply List.inj_on_of_nodup_map apart _ hitem (bears'.trans bears.symm)
    exact List.mem_reverse.mp (List.mem_of_find?_eq_some hother)
  rw [componentId?_eq, hother, Option.map_some]

theorem isById_entryFor_iff
    (apart : (listed.map fun item => foldName (componentName item).toList).Nodup) :
    (entryFor listed name).isById = true ↔
      ∃ item ∈ listed, Bears item name ∧ componentId item ≠ "" := by
  constructor
  · intro known
    have fits := fits_entryFor listed name
    generalize entryFor listed name = entry at known fits
    cases entry with
    | byName => cases known
    | byId =>
      obtain ⟨any, item, hitem, bears, rfl⟩ := fits
      exact ⟨item, hitem, bears, any⟩
  · rintro ⟨item, hitem, bears, any⟩
    have known : (some (componentId item)).filter (· != "") = some (componentId item) := by
      simp [any]
    rw [entryFor, componentId?_of_mem apart hitem bears, known]
    rfl

end Lookup

section Reply

variable {r : Reply} {depth : Nat} {items : List Json}

theorem readComponents_of_list (list : r.requiredJson depth = .ok (.arr items)) :
    readComponents depth r = .ok (if r.isError then [] else items.filter isObject) := by
  unfold readComponents
  rw [list]
  cases r.isError <;> rfl

end Reply

namespace Client

variable (c : Client) {form : IssueForm} {link : Link} {resolved : Option (List Json)}

theorem get_components (entries : List Json) :
    (c.fieldsJson form (some entries)).get "components" = .arr entries := by
  unfold fieldsJson
  cases form.assignee.filter (· != "") <;> rfl

theorem resolve_of_list {names : List String} (given : form.components = some names)
    (any : names ≠ []) {r : Reply} {items : List Json}
    (answered : (c.send (.components form.projectKey) none link).result = .ok r)
    (list : r.requiredJson c.host.jsonDepth = .ok (.arr items)) :
    let listed := if r.isError then [] else items.filter isObject
    (c.resolve form link).result =
      .ok (some ((names.map (entryFor listed)).map Entry.toJson)) := by
  intro listed
  have looked : (c.components form.projectKey link).result = .ok listed := by
    have made : c.components form.projectKey link = _ :=
      andThen_done (c.send (.components form.projectKey) none link) _
    rw [made, answered]
    exact readComponents_of_list list
  have asked : form.components.filter (fun names => !names.isEmpty) = some names := by
    rw [given]
    simp [any]
  unfold resolve
  rw [asked]
  dsimp only
  rw [andThen_done, looked, List.map_map]
  exact congrArg (fun f => Except.ok (some (names.map f)))
    (funext fun name => (toJson_entryFor listed name).symm)

/-- What is sent to create an issue: lookups, and then its fields once, if they have an address. -/
theorem create_requests (known : (c.resolve form link).result = .ok resolved) :
    (sent (c.create form link).wire).map (·.1) =
      (sent (c.resolve form link).wire).map (·.1) ++
        (c.request (.issue (c.fieldsJson form resolved))).toOption.toList := by
  have both : sent (c.create form link).wire = sent (c.resolve form link).wire ++
      sent (c.send (.issue (c.fieldsJson form resolved)) (some 1)
        (c.resolve form link).next).wire := by
    unfold create
    rw [andThen, known]
    dsimp only
    rw [andThen_done, sent_append]
    rfl
  rw [both, List.map_append, send_one_requests]

theorem eq_ok_of_mem {ε α : Type} {x : Except ε α} {a : α} (h : a ∈ x.toOption.toList) :
    x = .ok a := by
  cases x with
  | error => cases h
  | ok => rw [List.mem_singleton.mp h]

theorem create_posts (known : (c.resolve form link).result = .ok resolved) :
    (∀ x ∈ sent (c.create form link).wire, ∀ fields, x.1.fields? = some fields →
      fields = c.fieldsJson form resolved) ∧
      ∀ q, c.request (.issue (c.fieldsJson form resolved)) = .ok q →
        q ∈ (sent (c.create form link).wire).map (·.1) := by
  have requests := c.create_requests known
  constructor
  · intro x hx fields posts
    have hx : x.1 ∈ (sent (c.create form link).wire).map (·.1) := List.mem_map_of_mem hx
    rw [requests, List.mem_append] at hx
    have body := Request.body_of_fields? posts
    rcases hx with looks | creates
    · obtain ⟨y, hy, same⟩ := List.mem_map.mp looks
      rw [← same, request_body ((c.sends_resolve link form).2 y hy)] at body
      cases body
    · rw [request_body (eq_ok_of_mem creates)] at body
      cases body
      rfl
  · intro q addressed
    rw [requests, addressed]
    exact List.mem_append_right _ List.mem_cons_self

/-- The components of an issue for a report that gives any. An entry is sent for each name, in their
order: by the id of a listed component that bears the name, or by the name as the report gives it.
When no two listed components have the same name, a name is sent by id exactly when there is one for
it; and when no two have the same id, no two entries are equal. -/
theorem components_resolved (c : Client) (settings : Settings) (link : Link) {v : Json} {r : Report}
    (accepted : Report.ofJson v = .ok r) {names : List String}
    (given : r.components = some names) (any : names ≠ []) {reply : Reply} {items : List Json}
    (answered : (c.send (.components (Job.ofReport settings r).form.projectKey) none link).result =
      .ok reply)
    (list : reply.requiredJson c.host.jsonDepth = .ok (.arr items)) :
    let form := (Job.ofReport settings r).form
    let listed := items.filter isObject
    ∃ entries : List Entry,
      (∀ x ∈ sent (c.create form link).wire, ∀ fields, x.1.fields? = some fields →
        fields.get "components" = .arr (entries.map Entry.toJson)) ∧
      (∀ q, c.request (.issue (c.fieldsJson form (some (entries.map Entry.toJson)))) = .ok q →
        q ∈ (sent (c.create form link).wire).map (·.1)) ∧
      List.Forall₂ (Entry.Fits listed) names entries ∧
      (reply.isError = false →
        (listed.map fun item => foldName (componentName item).toList).Nodup →
        List.Forall₂ (fun name entry => entry.isById = true ↔
          ∃ item ∈ listed, Bears item name ∧ componentId item ≠ "") names entries) ∧
      ((listed.map componentId).Nodup → (entries.map Entry.toJson).Nodup) := by
  intro form listed
  have named : form.components = some names := by
    simp [form, Job.form, Draft.form, Situation.draft, Job.situation, Job.ofReport,
      Profile.ofReport, given, any]
  have areNames := (Report.normal_of_ofJson accepted).1.components names given
  let counted := if reply.isError then [] else listed
  have sub : counted ⊆ listed := by
    intro item hitem
    by_cases bad : reply.isError = true <;> simp_all [counted]
  have fits (name : String) : Entry.Fits listed name (entryFor counted name) :=
    (fits_entryFor counted name).mono sub
  have resolved := c.resolve_of_list named any answered list
  obtain ⟨posted, posts⟩ := c.create_posts resolved
  refine ⟨names.map (entryFor counted), fun x hx fields given => ?_, posts, ?_,
    fun fair apart => ?_, fun ids => ?_⟩
  · rw [posted x hx fields given, get_components]
  · exact List.forall₂_map_right_iff.mpr (List.forall₂_same.mpr fun name _ => fits name)
  · have all : counted = listed := if_neg (by rw [fair]; exact Bool.false_ne_true)
    rw [all]
    exact List.forall₂_map_right_iff.mpr
      (List.forall₂_same.mpr fun name _ => isById_entryFor_iff apart)
  · refine List.Nodup.map Entry.toJson_injective (List.pairwise_map.mpr ?_)
    exact areNames.pairwise_foldName.imp fun differ => (fits _).ne ids (fits _) differ

def shownList (result : Except Fault Reply) : Option (Bool × List (String × String)) :=
  match result with
  | .error _ => none
  | .ok r => match r.requiredJson with
    | .ok (.arr items) => some (r.isError,
      (items.filter isObject).map fun item => (componentName item, componentId item))
    | _ => none

/-- A number for an id, a component without an id, and a value that is no component. -/
theorem components_resolved_mixed :
    let r : Report := {
      job := "J"
      number := 7
      outcome := .failure
      previous := some .success
      projectKey := some "QA"
      components := some ["stra\u00DFe", "CI"] }
    let items : List Json := [.obj [("id", .int 10001), ("name", .str " STRASSE ")], .str "CI",
      .obj [("name", .str "ci")]]
    let link : Link := ⟨[.reply (.bearing 200 (.arr items))]⟩
    let form := (Job.ofReport {} r).form
    ∃ x ∈ sent (plain.create form link).wire, ∃ fields, x.1.fields? = some fields ∧
      ∃ entries : List Entry, fields.get "components" = .arr (entries.map Entry.toJson) ∧
        entries.map Entry.isById = [true, false] ∧ (entries.map Entry.toJson).Nodup := by
  intro r items link form
  have accepted : Report.ofJson r.toJson = .ok r := Report.ok_of_toOption (by decide +kernel)
  have shown : shownList (plain.send (.components form.projectKey) none link).result =
      some (false, [("STRASSE", "10001"), ("ci", "")]) := by decide +kernel
  obtain ⟨x, hx, fields, posts⟩ := exists_fields_of_any
    (show (sent (plain.create form link).wire).any (·.1.fields?.isSome) = true by decide +kernel)
  unfold shownList at shown
  split at shown
  · cases shown
  split at shown
  · rename_i reply answered _ items list
    simp only [Option.some.injEq, Prod.mk.injEq] at shown
    obtain ⟨fair, pairs⟩ := shown
    obtain ⟨entries, sent, -, -, known, once⟩ :=
      plain.components_resolved {} link accepted rfl (by decide) answered list
    have names : ((items.filter isObject).map fun item =>
        foldName (componentName item).toList).Nodup := by
      have named := congrArg (List.map fun p => foldName p.1.toList) pairs
      rw [List.map_map] at named
      exact named ▸ by decide
    have ids : ((items.filter isObject).map componentId).Nodup := by
      have told := congrArg (List.map Prod.snd) pairs
      rw [List.map_map] at told
      exact told ▸ by decide
    have borne (name : String) : (∃ item ∈ items.filter isObject, Bears item name ∧
        componentId item ≠ "") ↔ ∃ p ∈ [("STRASSE", "10001"), ("ci", "")],
          foldName p.1.toList = foldName name.toList ∧ p.2 ≠ "" := by
      rw [← pairs]
      simp only [List.mem_map, exists_exists_and_eq_and]
      rfl
    refine ⟨x, hx, fields, posts, entries, sent x hx fields posts, ?_, once ids⟩
    have byId := known fair names
    simp only [borne] at byId
    obtain _ | ⟨first, _ | ⟨second, ⟨⟩⟩⟩ := byId
    rw [List.map_cons, List.map_cons, List.map_nil, first.mpr (by decide),
      Bool.eq_false_iff.mpr fun byId => absurd (second.mp byId) (by decide)]
  · cases shown

end Client

end Jira

end TicketKeeper
