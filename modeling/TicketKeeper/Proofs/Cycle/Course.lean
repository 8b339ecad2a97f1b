import TicketKeeper.Proofs.Cycle.Path

/-! The courses that a cycle can take, each with all its calls and with what the cycle gives. They
are the paths through the plan of a cycle, step by step. -/
namespace TicketKeeper

variable {job : String} {n : Int}

/-- What a situation can lead to once the tracker has answered. -/
inductive Situation.Leads (s : Situation) : Action → Prop
  | idle (reason : IdleReason) : Leads s (.idle reason)
  | create : s.previous ≠ none → s.outcome = .failure → s.tracked? = none → Leads s (.create s.draft)
  | comment {key} (text : String) : s.tracked? = some key → s.alreadyApplied = false →
    Leads s (.comment key text)
  | forget {key} : s.outcome = .success → s.tracked? = some key → s.alreadyApplied = false →
    Leads s (.forget key s.lastWord)
  | replace {key} : s.previous ≠ none → s.outcome = .failure → s.tracked? = some key →
    s.alreadyApplied = false → Leads s (.replace key s.lastWord s.draft)

namespace Decision

inductive Course (extra : Status.Extra) : Decision → List Exchange → Except Fault Action → Prop
  | settled (action : Action) : Course extra (.settled action) [] (.ok action)
  | unanswered {key answer} (fault : Fault) :
    Course extra (.asks key answer) [⟨.status key, .error fault⟩] (.error fault)
  | unknown {key answer raw f} : Status.project (.str raw) extra = .error f →
    Course extra (.asks key answer) [⟨.status key, .ok raw⟩] (.error (.failure f))
  | answered {key answer raw status} : Status.project (.str raw) extra = .ok status →
    Course extra (.asks key answer) [⟨.status key, .ok raw⟩] (.ok (answer status))

theorem course {extra : Status.Extra} {d : Decision} {es r} (h : (d.plan extra).Path es r) :
    Course extra d es r := by
  cases d with
  | settled action =>
    obtain ⟨rfl, rfl⟩ := Plan.path_pure.mp h
    exact .settled action
  | asks key answer =>
    obtain ⟨fault, rfl, rfl⟩ | ⟨raw, rest, rfl, told⟩ := Plan.path_ask_bind.mp h
    · exact .unanswered fault
    cases known : Status.project (.str raw) extra with
    | ok status =>
      rw [known] at told
      obtain ⟨rfl, rfl⟩ := Plan.path_pure.mp told
      exact .answered known
    | error f =>
      rw [known] at told
      obtain ⟨rfl, rfl⟩ := Plan.path_fail.mp told
      exact .unknown known

end Decision

namespace Situation

variable {s : Situation}

theorem tracked?_of_asks {key answer} (h : s.decide = .asks key answer) :
    s.tracked? = some key := by
  simp only [decide, onFailure, onSuccess] at h
  grind

theorem leads_of_settled {action} (h : s.decide = .settled action) : s.Leads action := by
  simp only [decide, onFailure, onSuccess] at h
  split at h
  · cases h
    exact .idle _
  split at h
  · cases h
    exact .idle _
  split at h
  · cases h
    exact .idle _
  split at h
  · split at h <;> cases h
    exact .create ‹_› ‹_› ‹_›
  · split at h <;> cases h
    exact .idle _

theorem leads_of_asks {key answer} (h : s.decide = .asks key answer) (status : Status) :
    s.Leads (answer status) := by
  have tracked := tracked?_of_asks h
  simp only [decide, onFailure, onSuccess, tracked] at h
  split at h
  · cases h
  split at h
  · cases h
  rename_i built
  split at h
  · cases h
  rename_i fresh
  simp only [Bool.not_eq_true] at fresh
  split at h
  · cases h
    dsimp only
    split
    · exact .comment _ tracked fresh
    · exact .replace built ‹_› tracked fresh
  · cases h
    dsimp only
    split
    · exact .comment _ tracked fresh
    · refine .forget ?_ tracked fresh
      cases made : s.outcome <;> simp_all

theorem leads_of_course {extra : Status.Extra} {es action}
    (h : s.decide.Course extra es (.ok action)) : s.Leads action := by
  generalize made : s.decide = d at h
  cases h with
  | settled => exact leads_of_settled made
  | answered => exact leads_of_asks made _

theorem asked_of_course {extra : Status.Extra} {es r} (h : s.decide.Course extra es r) :
    ∀ e ∈ es, ∃ key reply, e = ⟨.status key, reply⟩ ∧ s.tracked? = some key := by
  generalize made : s.decide = d at h
  cases h with
  | settled => simp
  | unanswered | unknown | answered => simp [tracked?_of_asks made]

end Situation

inductive Farewell (key : String) :
    Option String → List Exchange → Except Fault (List String) → Prop
  | none : Farewell key none [] (.ok [])
  | empty : Farewell key (some "") [] (.ok [])
  | said {text} : text ≠ "" → Farewell key (some text) [⟨.comment key text, .ok ()⟩] (.ok [])
  | refused {text fault f} : text ≠ "" → fault.trackerFailure? = some f →
    Farewell key (some text) [⟨.comment key text, .error fault⟩]
      (.ok ["final_comment_failed: " ++ f.message.text])
  | broken {text fault} : text ≠ "" → fault.trackerFailure? = Option.none →
    Farewell key (some text) [⟨.comment key text, .error fault⟩] (.error fault)

theorem farewell {key : String} {text es r} (h : (Plan.lastComment key text).Path es r) :
    Farewell key text es r := by
  unfold Plan.lastComment at h
  split at h
  · obtain ⟨rfl, rfl⟩ := Plan.path_pure.mp h
    exact .none
  · obtain ⟨rfl, rfl⟩ := Plan.path_pure.mp h
    exact .empty
  · rename_i text worded
    have worded : text ≠ "" := worded
    obtain ⟨reply, rest, rfl, told⟩ := Plan.path_call.mp h
    cases reply with
    | ok =>
      obtain ⟨rfl, rfl⟩ := Plan.path_pure.mp told
      exact .said worded
    | error fault =>
      cases refused : fault.trackerFailure? with
      | some f =>
        simp only [refused, Plan.path_pure] at told
        obtain ⟨rfl, rfl⟩ := told
        exact .refused worded refused
      | none =>
        simp only [refused, Plan.path_fail] at told
        obtain ⟨rfl, rfl⟩ := told
        exact .broken worded refused

namespace Step

inductive Course (job : String) (n : Int) (done : Applied) :
    Step → List Exchange → Except Fault Applied → Prop
  | uncreated {draft fault} :
    Course job n done (.create draft) [⟨.create draft.form, .error fault⟩] (.error fault)
  | unsaved {draft issue fault} :
    Course job n done (.create draft)
      [⟨.create draft.form, .ok issue⟩, ⟨.save job issue.key n, .error fault⟩] (.error fault)
  | created {draft issue} :
    Course job n done (.create draft)
      [⟨.create draft.form, .ok issue⟩, ⟨.save job issue.key n, .ok ()⟩]
      (.ok { done with created := some issue.key })
  | unsaid {key text fault} :
    Course job n done (.comment key text) [⟨.comment key text, .error fault⟩] (.error fault)
  | unmarked {key text fault} :
    Course job n done (.comment key text)
      [⟨.comment key text, .ok ()⟩, ⟨.markBuild job n, .error fault⟩] (.error fault)
  | commented {key text} :
    Course job n done (.comment key text)
      [⟨.comment key text, .ok ()⟩, ⟨.markBuild job n, .ok ()⟩]
      (.ok { done with commented := some key })
  | kept {key text es fault} : Farewell key text es (.error fault) →
    Course job n done (.forget key text) es (.error fault)
  | uncleared {key text es warnings fault} : Farewell key text es (.ok warnings) →
    Course job n done (.forget key text) (es ++ [⟨.clear job, .error fault⟩]) (.error fault)
  | forgotten {key text es warnings} : Farewell key text es (.ok warnings) →
    Course job n done (.forget key text) (es ++ [⟨.clear job, .ok ()⟩])
      (.ok { done with forgotten := some key, warnings := done.warnings ++ warnings })

theorem course {done : Applied} {s : Step} {es r} (h : (s.plan job n done).Path es r) :
    Course job n done s es r := by
  cases s with
  | create draft =>
    obtain ⟨fault, rfl, rfl⟩ | ⟨issue, rest, rfl, created⟩ := Plan.path_ask_bind.mp h
    · exact .uncreated
    obtain ⟨fault, rfl, rfl⟩ | ⟨⟨⟩, rest, rfl, saved⟩ := Plan.path_ask_bind.mp created
    · exact .unsaved
    obtain ⟨rfl, rfl⟩ := Plan.path_pure.mp saved
    exact .created
  | comment key text =>
    obtain ⟨fault, rfl, rfl⟩ | ⟨⟨⟩, rest, rfl, said⟩ := Plan.path_ask_bind.mp h
    · exact .unsaid
    obtain ⟨fault, rfl, rfl⟩ | ⟨⟨⟩, rest, rfl, marked⟩ := Plan.path_ask_bind.mp said
    · exact .unmarked
    obtain ⟨rfl, rfl⟩ := Plan.path_pure.mp marked
    exact .commented
  | forget key text =>
    obtain ⟨fault, rfl, said⟩ | ⟨warnings, es, rest, rfl, said, onward⟩ := Plan.path_bind.mp h
    · exact .kept (farewell said)
    obtain ⟨fault, rfl, rfl⟩ | ⟨⟨⟩, rest, rfl, cleared⟩ := Plan.path_ask_bind.mp onward
    · exact .uncleared (farewell said)
    obtain ⟨rfl, rfl⟩ := Plan.path_pure.mp cleared
    exact .forgotten (farewell said)

inductive Courses (job : String) (n : Int) :
    Applied → List Step → List Exchange → Except Fault Applied → Prop
  | done (done : Applied) : Courses job n done [] [] (.ok done)
  | stopped {done s rest es fault} : Course job n done s es (.error fault) →
    Courses job n done (s :: rest) es (.error fault)
  | next {done s rest es done' es' r} : Course job n done s es (.ok done') →
    Courses job n done' rest es' r → Courses job n done (s :: rest) (es ++ es') r

theorem Courses.singleton {done : Applied} {s : Step} {es r} (h : Courses job n done [s] es r) :
    Course job n done s es r := by
  cases h with
  | stopped step => exact step
  | next step rest =>
    cases rest
    rwa [List.append_nil]

theorem courses {done : Applied} {steps : List Step} {es r}
    (h : (planAll job n done steps).Path es r) : Courses job n done steps es r := by
  induction steps generalizing done es with
  | nil =>
    obtain ⟨rfl, rfl⟩ := Plan.path_pure.mp h
    exact .done done
  | cons s rest ih =>
    obtain ⟨fault, rfl, first⟩ | ⟨done', es, es', rfl, first, later⟩ := Plan.path_bind.mp h
    · exact .stopped (course first)
    · exact .next (course first) (ih later)

end Step

namespace Job

theorem check_eq (j : Job) (action : Action) : j.check action =
    if action.isWorded && !Number.isWritable j.report.number then .error (.defect .badValue)
    else if action.draft?.any (·.projectKey = "") then
      .error (.failure (.badRequest "project_key_required" [("job_name", .str j.report.job)]))
    else .ok () := by
  unfold check
  split
  · rfl
  · split <;> rfl

inductive Choice (j : Job) : List Exchange → Except Fault (Option Record × Action) → Prop
  | unread {fault} : Choice j [⟨.load j.report.job, .error fault⟩] (.error fault)
  | undecided {record es fault} :
    (j.situation record).decide.Course j.extra es (.error fault) →
    Choice j (⟨.load j.report.job, .ok record⟩ :: es) (.error fault)
  | barred {record es action fault} :
    (j.situation record).decide.Course j.extra es (.ok action) → j.check action = .error fault →
    Choice j (⟨.load j.report.job, .ok record⟩ :: es) (.error fault)
  | chosen {record es action} :
    (j.situation record).decide.Course j.extra es (.ok action) → j.check action = .ok () →
    Choice j (⟨.load j.report.job, .ok record⟩ :: es) (.ok (record, action))

theorem choice {j : Job} {es r} (h : j.choose.Path es r) : j.Choice es r := by
  obtain ⟨fault, rfl, rfl⟩ | ⟨record, rest, rfl, loaded⟩ := Plan.path_ask_bind.mp h
  · exact .unread
  obtain ⟨fault, rfl, settled⟩ | ⟨action, es, rest, rfl, settled, onward⟩ :=
    Plan.path_bind.mp loaded
  · exact .undecided (Decision.course settled)
  have settled := Decision.course settled
  obtain ⟨fault, bar, rfl, rfl⟩ | ⟨⟨⟩, free, given⟩ := Plan.path_orFail_bind.mp onward
  · rw [List.append_nil]
    exact .barred settled bar
  obtain ⟨rfl, rfl⟩ := Plan.path_pure.mp given
  rw [List.append_nil]
  exact .chosen settled free

theorem Choice.reads {j : Job} {es r} (h : j.Choice es r) :
    ∃ reply asked d r', es = ⟨.load j.report.job, reply⟩ :: asked ∧
      Decision.Course j.extra d asked r' := by
  cases h with
  | unread => exact ⟨_, [], _, _, rfl, .settled (.idle .untracked)⟩
  | undecided course | barred course | chosen course => exact ⟨_, _, _, _, rfl, course⟩

inductive Course (j : Job) : List Exchange → Except Fault CycleResult → Prop
  | unsettled {es fault} : j.Choice es (.error fault) → Course j es (.error fault)
  | stopped {es record action es' fault} : j.Choice es (.ok (record, action)) →
    Step.Courses j.report.job j.report.number {} action.steps es' (.error fault) →
    Course j (es ++ es') (.error fault)
  | applied {es record action es' applied} : j.Choice es (.ok (record, action)) →
    Step.Courses j.report.job j.report.number {} action.steps es' (.ok applied) →
    Course j (es ++ es') (.ok (j.result record action applied))

theorem course {j : Job} {es r} (h : j.plan.Path es r) : j.Course es r := by
  obtain ⟨fault, rfl, settled⟩ | ⟨⟨record, action⟩, es, rest, rfl, settled, onward⟩ :=
    Plan.path_bind.mp h
  · exact .unsettled (choice settled)
  have settled := choice settled
  obtain ⟨fault, rfl, taken⟩ | ⟨applied, es', rest, rfl, taken, given⟩ := Plan.path_bind.mp onward
  · exact .stopped settled (Step.courses taken)
  obtain ⟨rfl, rfl⟩ := Plan.path_pure.mp given
  rw [List.append_nil]
  exact .applied settled (Step.courses taken)

end Job

end TicketKeeper
