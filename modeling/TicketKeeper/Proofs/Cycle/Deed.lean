import TicketKeeper.Proofs.Cycle.Course
import TicketKeeper.Proofs.Store.Keeping

/-! What a cycle has done in the end: the tickets that it opened, the comments that it posted, and
the writes that it made on the store. -/
namespace TicketKeeper

open Store (Write)

structure Written where
  job : String
  write : Write
  ok : Bool
deriving DecidableEq

namespace Exchange

def opened? : Exchange → Option (IssueForm × Issue)
  | ⟨.create form, .ok issue⟩ => some (form, issue)
  | _ => none

def said? : Exchange → Option (String × String)
  | ⟨.comment key text, .ok ()⟩ => some (key, text)
  | _ => none

def written? : Exchange → Option Written
  | ⟨.save job key n, reply⟩ => some ⟨job, .save (some key) (some n), reply.isOk⟩
  | ⟨.markBuild job n, reply⟩ => some ⟨job, .markBuild (some n), reply.isOk⟩
  | ⟨.clear job, reply⟩ => some ⟨job, .clear, reply.isOk⟩
  | _ => none

def ticket? : Exchange → Option String
  | ⟨.status key, _⟩ => some key
  | ⟨.comment key _, _⟩ => some key
  | _ => none

end Exchange

def openings (es : List Exchange) : List (IssueForm × Issue) := es.filterMap Exchange.opened?

def comments (es : List Exchange) : List (String × String) := es.filterMap Exchange.said?

def writes (es : List Exchange) : List Written := es.filterMap Exchange.written?

@[simp] theorem openings_nil : openings [] = [] := rfl

@[simp] theorem comments_nil : comments [] = [] := rfl

@[simp] theorem writes_nil : writes [] = [] := rfl

@[simp] theorem openings_cons (e : Exchange) (es : List Exchange) :
    openings (e :: es) = e.opened?.toList ++ openings es := by
  cases h : e.opened? <;> simp [openings, h]

@[simp] theorem comments_cons (e : Exchange) (es : List Exchange) :
    comments (e :: es) = e.said?.toList ++ comments es := by
  cases h : e.said? <;> simp [comments, h]

@[simp] theorem writes_cons (e : Exchange) (es : List Exchange) :
    writes (e :: es) = e.written?.toList ++ writes es := by
  cases h : e.written? <;> simp [writes, h]

@[simp] theorem openings_append (es more : List Exchange) :
    openings (es ++ more) = openings es ++ openings more := List.filterMap_append

@[simp] theorem comments_append (es more : List Exchange) :
    comments (es ++ more) = comments es ++ comments more := List.filterMap_append

@[simp] theorem writes_append (es more : List Exchange) :
    writes (es ++ more) = writes es ++ writes more := List.filterMap_append

structure Tally where
  opened : List (IssueForm × Issue)
  said : List (String × String)
  written : List Written

def tally (es : List Exchange) : Tally := ⟨openings es, comments es, writes es⟩

/-- What a cycle does after it has loaded a record. -/
inductive Job.Deed (j : Job) (record : Option Record) : Tally → Prop
  | quiet : Deed j record ⟨[], [], []⟩
  | created {form issue ok} : (∀ r, record = some r → r.key = "") →
    Deed j record ⟨[(form, issue)], [],
      [⟨j.report.job, .save (some issue.key) (some j.report.number), ok⟩]⟩
  | commented {r text ok} : record = some r → r.key ≠ "" → r.build ≠ some j.report.number →
    Deed j record ⟨[], [(r.key, text)],
      [⟨j.report.job, .markBuild (some j.report.number), ok⟩]⟩
  | forgot {r last ok} : record = some r → r.key ≠ "" → r.build ≠ some j.report.number →
    last.length ≤ 1 → Deed j record ⟨[], last, [⟨j.report.job, .clear, ok⟩]⟩
  | replaced {r last form issue ok} : record = some r → r.key ≠ "" →
    r.build ≠ some j.report.number → last.length ≤ 1 →
    Deed j record ⟨[(form, issue)], last, [⟨j.report.job, .clear, true⟩,
      ⟨j.report.job, .save (some issue.key) (some j.report.number), ok⟩]⟩

theorem Job.Deed.job_eq {j : Job} {record : Option Record} {es : List Exchange}
    (h : j.Deed record (tally es)) {w : Written} (hw : w ∈ writes es) : w.job = j.report.job := by
  have written : (tally es).written = writes es := rfl
  rw [← written] at hw
  generalize tally es = t at h hw
  cases h <;> simp_all
  rcases hw with rfl | rfl <;> rfl

namespace Farewell

variable {key : String} {text : Option String} {es : List Exchange}

theorem said_once {r} (h : Farewell key text es r) : (comments es).length ≤ 1 := by
  cases h <;> simp [Exchange.said?]

theorem tally_broken {fault} (h : Farewell key text es (.error fault)) : tally es = ⟨[], [], []⟩ := by
  cases h
  rfl

theorem tally_append {r} (h : Farewell key text es r) {more : List Exchange}
    (silent : comments more = []) :
    tally (es ++ more) = ⟨openings more, comments es, writes more⟩ := by
  cases h <;> simp [tally, silent, Exchange.opened?, Exchange.said?, Exchange.written?]

theorem ticket {r} (h : Farewell key text es r) {e : Exchange} (he : e ∈ es) {other : String}
    (about : e.ticket? = some other) : other = key := by
  cases h <;> simp_all [Exchange.ticket?]

theorem worded {r} (h : Farewell key text es r) {e : Exchange} (he : e ∈ es) {c : String × String}
    (said : e.said? = some c) : (text.map fun text => (key, text)) = some c := by
  cases h <;> simp_all [Exchange.said?]

end Farewell

namespace Decision.Course

variable {extra : Status.Extra} {d : Decision} {es : List Exchange} {r : Except Fault Action}

theorem tally_append (h : d.Course extra es r) (more : List Exchange) :
    tally (es ++ more) = tally more := by
  cases h <;> rfl

theorem tally_eq (h : d.Course extra es r) : tally es = ⟨[], [], []⟩ := by
  cases h <;> rfl

end Decision.Course

namespace Step

variable {job : String} {n : Int} {done : Applied} {e : Exchange} {key : String}

def ticket? : Step → Option String
  | create _ => none
  | comment key _ => some key
  | forget key _ => some key

theorem Course.ticket {s : Step} {es r} (h : Course job n done s es r) (he : e ∈ es)
    (about : e.ticket? = some key) : s.ticket? = some key := by
  cases h with
  | uncreated | unsaved | created | unsaid | unmarked | commented =>
    simp only [List.mem_cons, List.not_mem_nil, or_false] at he
    grind [Exchange.ticket?, Step.ticket?]
  | kept farewell => rw [farewell.ticket he about]; rfl
  | uncleared farewell | forgotten farewell =>
    obtain he | he := List.mem_append.mp he
    · rw [farewell.ticket he about]; rfl
    · obtain rfl := List.mem_singleton.mp he
      cases about

def said? : Step → Option (String × String)
  | create _ => none
  | comment key text => some (key, text)
  | forget key text => text.map fun text => (key, text)

theorem Course.said {s : Step} {es r} (h : Course job n done s es r) (he : e ∈ es)
    {c : String × String} (said : e.said? = some c) : s.said? = some c := by
  cases h with
  | uncreated | unsaved | created | unsaid | unmarked | commented =>
    simp only [List.mem_cons, List.not_mem_nil, or_false] at he
    rcases he with rfl | rfl <;> cases said <;> rfl
  | kept farewell => exact farewell.worded he said
  | uncleared farewell | forgotten farewell =>
    obtain he | he := List.mem_append.mp he
    · exact farewell.worded he said
    · obtain rfl := List.mem_singleton.mp he
      cases said

theorem Course.cleared {s : Step} {es r} (h : Course job n done s es r) (he : e ∈ es) {w : Written}
    (written : e.written? = some w) (clears : w.write = .clear) :
    ∃ key text, s = .forget key text := by
  cases h with
  | kept | uncleared | forgotten => exact ⟨_, _, rfl⟩
  | uncreated | unsaved | created | unsaid | unmarked | commented =>
    simp only [List.mem_cons, List.not_mem_nil, or_false] at he
    grind [Exchange.written?]

theorem Course.mute {draft : Draft} {es r} (h : Course job n done (.create draft) es r) :
    comments es = [] := by
  cases h <;> rfl

theorem Course.tally_forgotten {text : Option String} {es done'}
    (h : Course job n done (.forget key text) es (.ok done')) :
    ∃ last, last.length ≤ 1 ∧ ∀ more, comments more = [] →
      tally (es ++ more) = ⟨openings more, last, ⟨job, .clear, true⟩ :: writes more⟩ := by
  cases h with
  | @forgotten _ _ said _ farewell =>
    refine ⟨comments said, farewell.said_once, fun more silent => ?_⟩
    rw [List.append_assoc, farewell.tally_append (by simp [Exchange.said?, silent])]
    simp [Exchange.opened?, Exchange.written?, Except.isOk, Except.toBool]

theorem Courses.course_of_mem {steps : List Step} {es r} (h : Courses job n done steps es r)
    (he : e ∈ es) : ∃ s ∈ steps, ∃ done es r, Course job n done s es r ∧ e ∈ es := by
  induction h with
  | done => cases he
  | stopped step => exact ⟨_, List.mem_cons_self, _, _, _, step, he⟩
  | next step _ ih =>
    obtain he | he := List.mem_append.mp he
    · exact ⟨_, List.mem_cons_self, _, _, _, step, he⟩
    · obtain ⟨s, hs, made⟩ := ih he
      exact ⟨s, List.mem_cons_of_mem _ hs, made⟩

end Step

theorem Situation.Leads.ticket {s : Situation} {action : Action} (h : s.Leads action) {step : Step}
    (hstep : step ∈ action.steps) {key : String} (about : step.ticket? = some key) :
    s.tracked? = some key := by
  cases h <;> simp only [Action.steps, List.mem_cons, List.not_mem_nil, or_false] at hstep <;>
    grind [Step.ticket?]

theorem Situation.Leads.said {s : Situation} {action : Action} (h : s.Leads action) {key : String}
    {text : Option String} (forgets : .forget key text ∈ action.steps) {step : Step}
    (hstep : step ∈ action.steps) {c : String × String} (said : step.said? = some c) :
    s.tracked? = some c.1 ∧ c.2 = s.build.forgotten := by
  cases h <;> simp only [Action.steps, List.mem_cons, List.not_mem_nil, or_false] at forgets hstep <;>
    grind [Step.said?, Situation.lastWord]

namespace Job

variable {j : Job} {record : Option Record}

theorem tracked?_situation (j : Job) (record : Option Record) :
    (j.situation record).tracked? = (record.filter (·.key ≠ "")).map (·.key) := by
  cases record with
  | none => rfl
  | some r =>
    by_cases named : r.key = "" <;> simp [Situation.tracked?, situation, Option.filter, named]

theorem tracked?_eq {key : String} (h : (j.situation record).tracked? = some key) :
    ∃ r, record = some r ∧ r.key = key ∧ key ≠ "" := by
  rw [tracked?_situation, Option.map_eq_some_iff] at h
  obtain ⟨r, hr, rfl⟩ := h
  obtain ⟨rfl, named⟩ := Option.filter_eq_some_iff.mp hr
  exact ⟨r, rfl, rfl, by simpa using named⟩

theorem untracked (h : (j.situation record).tracked? = none) {r : Record} (hr : record = some r) :
    r.key = "" := by
  simpa [Situation.tracked?, situation, hr] using h

theorem fresh {key : String} {r : Record} (tracked : (j.situation record).tracked? = some key)
    (h : (j.situation record).alreadyApplied = false) (hr : record = some r) :
    r.build ≠ some j.report.number := by
  simp only [Situation.alreadyApplied, tracked] at h
  simpa [situation, build, hr] using h

theorem deed_of_forget {r : Record} {text es r'} (hr : record = some r) (named : r.key ≠ "")
    (unapplied : r.build ≠ some j.report.number)
    (h : Step.Course j.report.job j.report.number {} (.forget r.key text) es r') :
    j.Deed record (tally es) := by
  cases h with
  | kept farewell =>
    rw [farewell.tally_broken]
    exact .quiet
  | uncleared farewell | forgotten farewell =>
    rw [farewell.tally_append rfl]
    exact .forgot hr named unapplied farewell.said_once

theorem deed_of_courses {action : Action} {es r} (leads : (j.situation record).Leads action)
    (h : Step.Courses j.report.job j.report.number {} action.steps es r) :
    j.Deed record (tally es) := by
  cases leads with
  | idle reason =>
    cases h
    exact .quiet
  | create _ _ vacant =>
    have blank := fun r (hr : record = some r) => untracked vacant hr
    cases h.singleton with
    | uncreated => exact .quiet
    | unsaved | created => exact .created blank
  | comment text tracked new =>
    obtain ⟨r, hr, rfl, named⟩ := tracked?_eq tracked
    cases h.singleton with
    | unsaid => exact .quiet
    | unmarked | commented => exact .commented hr named (fresh tracked new hr)
  | forget _ tracked new =>
    obtain ⟨r, hr, rfl, named⟩ := tracked?_eq tracked
    exact deed_of_forget hr named (fresh tracked new hr) h.singleton
  | replace _ _ tracked new =>
    obtain ⟨r, hr, rfl, named⟩ := tracked?_eq tracked
    have unapplied := fresh tracked new hr
    cases h with
    | stopped step => exact deed_of_forget hr named unapplied step
    | next step rest =>
      obtain ⟨last, short, told⟩ := step.tally_forgotten
      cases rest.singleton with
      | uncreated =>
        rw [told _ rfl]
        exact .forgot hr named unapplied short
      | unsaved | created =>
        rw [told _ rfl]
        exact .replaced hr named unapplied short

theorem ticket_of_course {es r} (h : (j.situation record).decide.Course j.extra es r) {e : Exchange}
    (he : e ∈ es) {key : String} (about : e.ticket? = some key) :
    ∃ r, record = some r ∧ r.key = key ∧ key ≠ "" := by
  obtain ⟨_, _, rfl, tracked⟩ := Situation.asked_of_course h e he
  cases about
  exact tracked?_eq tracked

theorem deed_of_choice {action : Action} {es es' r}
    (choice : j.Choice es (.ok (record, action)))
    (h : Step.Courses j.report.job j.report.number {} action.steps es' r) :
    ∃ rest, es ++ es' = ⟨.load j.report.job, .ok record⟩ :: rest ∧ j.Deed record (tally rest) ∧
      ∀ e ∈ rest, ∀ key, e.ticket? = some key → ∃ r, record = some r ∧ r.key = key ∧ key ≠ "" := by
  cases choice with
  | chosen course =>
    have leads := Situation.leads_of_course course
    refine ⟨_, List.cons_append, ?_, ?_⟩
    · rw [course.tally_append]
      exact deed_of_courses leads h
    · intro e he key about
      obtain he | he := List.mem_append.mp he
      · exact ticket_of_course course he about
      · obtain ⟨step, hstep, _, _, _, made, he⟩ := h.course_of_mem he
        exact tracked?_eq (leads.ticket hstep (made.ticket he about))

/-- What a cycle has done, all in all. Only the ticket of the record is asked about or commented
on. -/
theorem Course.deed {es r} (h : j.Course es r) :
    (∃ fault, es = [⟨.load j.report.job, .error fault⟩]) ∨
      ∃ record rest, es = ⟨.load j.report.job, .ok record⟩ :: rest ∧ j.Deed record (tally rest) ∧
        ∀ e ∈ rest, ∀ key, e.ticket? = some key → ∃ r, record = some r ∧ r.key = key ∧ key ≠ "" := by
  cases h with
  | unsettled choice =>
    cases choice with
    | unread => exact .inl ⟨_, rfl⟩
    | undecided course | barred course =>
      refine .inr ⟨_, _, rfl, ?_, fun e he key about => ticket_of_course course he about⟩
      rw [course.tally_eq]
      exact .quiet
  | stopped choice courses | applied choice courses =>
    obtain ⟨rest, same, deed⟩ := deed_of_choice choice courses
    exact .inr ⟨_, rest, same, deed⟩

theorem last_said_of_courses {action : Action} {es r} (leads : (j.situation record).Leads action)
    (h : Step.Courses j.report.job j.report.number {} action.steps es r) {w : Written}
    (hw : w ∈ writes es) (clears : w.write = .clear) :
    ∃ r, record = some r ∧ ∀ c ∈ comments es, c = (r.key, j.build.forgotten) := by
  obtain ⟨e, he, written⟩ := List.mem_filterMap.mp hw
  obtain ⟨step, forgets, _, _, _, made, he⟩ := h.course_of_mem he
  obtain ⟨key, text, rfl⟩ := made.cleared he written clears
  obtain ⟨r, rfl, rfl, -⟩ := tracked?_eq (leads.ticket forgets rfl)
  refine ⟨r, rfl, fun c hc => ?_⟩
  obtain ⟨e, he, said⟩ := List.mem_filterMap.mp hc
  obtain ⟨step, hstep, _, _, _, made, he⟩ := h.course_of_mem he
  obtain ⟨tracked, text⟩ := leads.said forgets hstep (made.said he said)
  obtain ⟨_, ⟨⟩, key, -⟩ := tracked?_eq tracked
  exact Prod.ext key.symm text

theorem Course.last_said {es r} (h : j.Course es r) {w : Written} (hw : w ∈ writes es)
    (clears : w.write = .clear) :
    ∃ r rest, es = ⟨.load j.report.job, .ok (some r)⟩ :: rest ∧
      ∀ c ∈ comments es, c = (r.key, j.build.forgotten) := by
  cases h with
  | unsettled choice =>
    cases choice with
    | unread => cases hw
    | undecided course | barred course =>
      rw [writes_cons, show writes _ = [] from congrArg Tally.written course.tally_eq] at hw
      cases hw
  | stopped choice courses | applied choice courses =>
    cases choice with
    | chosen course =>
      have same := course.tally_append
      rw [List.cons_append] at hw ⊢
      rw [writes_cons, show writes _ = _ from congrArg Tally.written (same _)] at hw
      rw [comments_cons, show comments _ = _ from congrArg Tally.said (same _)]
      obtain ⟨r, rfl, last⟩ :=
        last_said_of_courses (Situation.leads_of_course course) courses hw clears
      exact ⟨r, _, rfl, last⟩

end Job

end TicketKeeper
