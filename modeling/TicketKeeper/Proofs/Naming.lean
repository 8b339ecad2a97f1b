import TicketKeeper.Proofs.Cycle.Deed
import TicketKeeper.Proofs.Jira.Content
import TicketKeeper.Proofs.Jira.Sending
import TicketKeeper.Proofs.Protocol
import TicketKeeper.Proofs.Reading
import TicketKeeper.Store.Depot

/-! What a ticket says about the build that failed. The description that a cycle posts is that of
its build, and a document keeps only the first lines of it: the line that names the build is among
them unless the test itself is described at length. -/
namespace TicketKeeper

def Request.fields? (r : Request) : Option Json :=
  match r.body with
  | some (.obj [(name, fields)]) => if name = "fields" then some fields else none
  | _ => none

theorem Request.body_of_fields? {r : Request} {fields : Json} (h : r.fields? = some fields) :
    r.body = some (.obj [("fields", fields)]) := by
  unfold fields? at h
  split at h
  · rename_i body
    split at h
    · rename_i named
      cases h
      rw [body, named]
    · cases h
  · cases h

theorem exists_fields_of_any {xs : List Sent} (h : xs.any (·.1.fields?.isSome) = true) :
    ∃ x ∈ xs, ∃ fields, x.1.fields? = some fields := by
  obtain ⟨x, hx, posts⟩ := List.any_eq_true.mp h
  exact ⟨x, hx, Option.isSome_iff_exists.mp posts⟩

variable {job : String} {n : Int} {done : Applied}

theorem Step.Course.drafted {s : Step} {es r} (h : Step.Course job n done s es r) {form : IssueForm}
    {reply} (he : ⟨.create form, reply⟩ ∈ es) : ∃ draft, s = .create draft ∧ form = draft.form := by
  have called : CallKind.create ∈ s.kinds := h.kinds.subset (List.mem_map_of_mem he)
  cases s with
  | comment | forget => simp [Step.kinds] at called
  | create draft =>
    refine ⟨draft, rfl, ?_⟩
    cases h with
    | uncreated | unsaved | created =>
      simp at he
      exact he.1

theorem Situation.Leads.draft_eq {s : Situation} {action : Action} (h : s.Leads action)
    {draft : Draft} (creates : .create draft ∈ action.steps) : draft = s.draft := by
  cases h with
  | idle | comment | forget => simp [Action.steps] at creates
  | create | replace => simpa [Action.steps] using creates

theorem Job.Course.formed {j : Job} {es r} (h : j.Course es r) {form : IssueForm} {reply}
    (he : ⟨.create form, reply⟩ ∈ es) : form = j.form := by
  -- Reading the record and the status posts nothing; what follows are the steps of an action.
  have unread {es r} (choice : j.Choice es r) : ⟨.create form, reply⟩ ∉ es := fun he => by
    have := choice.kinds.subset (List.mem_map_of_mem he)
    simp [Call.kind] at this
  cases h with
  | unsettled choice => exact absurd he (unread choice)
  | stopped choice courses | applied choice courses =>
    have he := (List.mem_append.mp he).resolve_left (unread choice)
    obtain ⟨step, hstep, _, _, _, course, he⟩ := courses.course_of_mem he
    obtain ⟨draft, rfl, rfl⟩ := course.drafted he
    cases choice with
    | chosen course _ =>
      obtain rfl := (Situation.leads_of_course course).draft_eq hstep
      rfl

namespace Jira.Client

theorem get_description (c : Client) (form : IssueForm) (resolved : Option (List Json)) :
    (c.fieldsJson form resolved).get "description" = documentJson form.description := rfl

theorem description_of_posted {σ : Type} (c : Client) (s : Store σ) (j : Job) (link : Link) (st : σ)
    {x : Sent} (hx : x ∈ requests ((Parties.mk c.tracker s).reconcile j ⟨link, st, []⟩).2.log)
    {fields : Json} (posts : x.1.body = some (.obj [("fields", fields)])) :
    fields.get "description" = documentJson (j.build.description j.profile.testDescription) := by
  let p := Parties.mk c.tracker s
  obtain ⟨es, path, -, -, logged⟩ := p.carry_spec j.plan ⟨link, st, []⟩
  obtain ⟨es', xs, called, sends, parted⟩ :=
    Parties.carry_parted (p := p) c.tracker_sends j.plan ⟨link, st, []⟩
  obtain rfl : es = es' := by simpa using logged.symm.trans called
  have hx : x ∈ xs := by
    rw [Parties.reconcile, sends] at hx
    simpa using hx
  obtain ⟨e, he, part, sent, hx⟩ := parted.exists_part hx
  obtain ⟨form, reply, resolved, rfl, rfl⟩ := sent.creates hx posts
  rw [get_description, (Job.course path).formed he]
  rfl

end Jira.Client

theorem Build.mark_short {b : Build} (pos : 1 ≤ b.number) (short : b.number < 10 ^ 18) :
    (b.mark "First failed run").length ≤ Jira.Document.maxParagraph := by
  have unsigned : decide (b.number < 0) = false := decide_eq_false (by omega)
  have digits : (toString b.number).length ≤ 18 := by
    rw [← String.length_toList, Number.toList_toString, unsigned, if_neg Bool.false_ne_true]
    exact Nat.toDigits_length 10 _ 18 (by decide) (by omega)
  have label : "First failed run".length = 16 := by decide
  rw [length_mark, label, Jira.Document.maxParagraph]
  omega

/-- The issue that a cycle posts names the build exactly when the test is described in few lines, or
in lines that name the build themselves: a document keeps forty lines, and the first of them says
which test has failed. -/
theorem reconcile_issue_names_build_iff {σ : Type} (c : Jira.Client) (s : Store σ) (j : Job)
    {v : Json} (read : Report.ofJson v = .ok j.report) (short : j.report.number < 10 ^ 18)
    (link : Jira.Link) (st : σ) :
    let out := (Parties.mk c.tracker s).reconcile j ⟨link, st, []⟩
    let told := Build.testLines j.profile.testDescription
    let mark := "- First failed run : #".toList ++ (toString j.report.number).toList
    ∀ x ∈ requests out.2.log, ∀ fields, x.1.fields? = some fields →
      ∃ d : Jira.Document, fields.get "description" = d.toJson ∧
        ((∃ p ∈ d.paragraphs, mark <+: p) ↔
          told.length + 1 < Jira.Document.maxParagraphs ∨
            ∃ l ∈ told.take (Jira.Document.maxParagraphs - 1), mark <+: l) := by
  intro out told mark x hx fields posts
  unfold Report.ofJson at read
  split at read
  case h_2 => cases read
  obtain ⟨job, url⟩ := Report.isLine_of_ofMembers read
  obtain ⟨_, -, number⟩ := Report.buildNumber_of_ofMembers read
  have pos := Report.one_le_of_buildNumber number
  refine ⟨_, c.description_of_posted s j link st hx (Request.body_of_fields? posts), ?_⟩
  exact Build.document_names_iff (b := j.build) job url (Build.mark_short pos short) _

def Job.described (testDescription : String) : Job :=
  .ofReport {} {
    job := "J"
    number := 7
    outcome := .failure
    previous := some .success
    projectKey := some "T"
    testDescription := some testDescription }

/-- A test that is described in two lines. -/
theorem reconcile_issue_names_build_iff_brief :
    let j := Job.described "Nightly suite\nOwned by the tools team"
    let p := Parties.mk Jira.Client.plain.tracker Store.Backend.table.store
    let out := p.reconcile j ⟨{}, {}, []⟩
    ∃ x ∈ requests out.2.log, ∃ fields, x.1.fields? = some fields ∧
      ∃ d : Jira.Document, fields.get "description" = d.toJson ∧
        ∃ q ∈ d.paragraphs, "- First failed run : #7".toList <+: q := by
  intro j p out
  have accepted : (Report.ofJson j.report.toJson).toOption = some j.report := by decide +kernel
  have read : Report.ofJson j.report.toJson = .ok j.report := by
    cases parsed : Report.ofJson j.report.toJson <;> simp_all [Except.toOption]
  obtain ⟨x, hx, fields, posts⟩ : ∃ x ∈ requests out.2.log, ∃ fields, x.1.fields? = some fields :=
    exists_fields_of_any (by decide +kernel)
  have told : (Build.testLines j.profile.testDescription).length + 1 <
      Jira.Document.maxParagraphs := by decide +kernel
  have name : "- First failed run : #".toList ++ (toString j.report.number).toList =
      "- First failed run : #7".toList := by decide
  obtain ⟨d, same, names⟩ := reconcile_issue_names_build_iff Jira.Client.plain
    Store.Backend.table.store j read (by decide) {} {} x hx fields posts
  rw [name] at names
  exact ⟨x, hx, fields, posts, d, same, names.mpr (.inl told)⟩

/-- A test that is described in thirty-nine lines: none is left for the build. -/
theorem reconcile_issue_unnamed :
    let j := Job.described (String.ofList (Text.joinLines (List.replicate 39 ['x'])))
    let p := Parties.mk Jira.Client.plain.tracker Store.Backend.table.store
    let out := p.reconcile j ⟨{}, {}, []⟩
    (Report.ofJson j.report.toJson).toOption = some j.report ∧
      ∃ x ∈ requests out.2.log, ∃ fields, x.1.fields? = some fields ∧
        ∃ d : Jira.Document, fields.get "description" = d.toJson ∧
          ∀ q ∈ d.paragraphs, ¬ "- First failed run : #7".toList <+: q := by
  intro j p out
  have accepted : (Report.ofJson j.report.toJson).toOption = some j.report := by decide +kernel
  obtain ⟨x, hx, fields, posts⟩ : ∃ x ∈ requests out.2.log, ∃ fields, x.1.fields? = some fields :=
    exists_fields_of_any (by decide +kernel)
  have told : Build.testLines j.profile.testDescription = List.replicate 39 ['x'] := by
    decide +kernel
  have name : j.build.mark "First failed run" = "- First failed run : #7".toList := by decide
  have names := Build.document_names_iff (b := j.build) (by decide) (by decide)
    (Build.mark_short (by decide) (by decide)) j.profile.testDescription
  rw [name, told] at names
  refine ⟨accepted, x, hx, fields, posts, _, Jira.Client.plain.description_of_posted
    Store.Backend.table.store j {} {} hx (Request.body_of_fields? posts), fun q hq begins => ?_⟩
  exact absurd (names.mp ⟨q, hq, begins⟩) (by decide)

end TicketKeeper
