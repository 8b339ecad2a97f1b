import TicketKeeper.Proofs.Cycle.Script
import TicketKeeper.Proofs.Jira.Content
import TicketKeeper.Proofs.Reading

/-! Which calls a cycle makes, and in which order. The script of a cycle is told in full by the
report, the record and the status of its ticket; a cycle plays its script. -/
namespace TicketKeeper

namespace Job

variable (j : Job) (a : Replies)

def worded (rest : Script) : Script :=
  if Number.isWritable j.report.number then rest else .refuse (.defect .badValue)

def keyed (rest : Script) : Script :=
  if j.profile.projectKey = "" then
    .refuse (.failure (.badRequest "project_key_required" [("job_name", .str j.report.job)]))
  else rest

def form : IssueForm := (j.situation none).draft.form

def opening : Script :=
  .must (.create j.form) (.must (.save j.report.job a.issue.key j.report.number) .done)

def progress : String :=
  if j.report.outcome = .failure then j.build.stillFailing else j.build.nowPassing

def commenting (key : String) : Script :=
  j.worded (.must (.comment key j.progress) (.must (.markBuild j.report.job j.report.number) .done))

def leaving (key : String) (rest : Script) : Script :=
  let clearing := Script.must (.clear j.report.job) rest
  if j.commentOnForget then .may (.comment key j.build.forgotten) clearing else clearing

/-- A ticket that was closed is dropped, and after a failure another one is opened. -/
def dropping (key : String) : Script :=
  if j.report.outcome = .failure then j.worded (j.keyed (j.leaving key (j.opening a)))
  else if j.commentOnForget then j.worded (j.leaving key .done)
  else j.leaving key .done

def asking (key : String) : Script :=
  .must (.status key) <| match Status.project (.str a.raw) j.extra with
    | .error f => .refuse (.failure f)
    | .ok .opened | .ok .resolved => j.commenting key
    | .ok .closed => j.dropping a key

def script : Script :=
  .must (.load j.report.job) <|
    if j.report.outcome = .aborted ∨ j.report.previous = none then .done
    else match a.record.filter (·.key ≠ "") with
      | none => if j.report.outcome = .failure then j.worded (j.keyed (j.opening a)) else .done
      | some r => if r.build = some j.report.number then .done else j.asking a r.key

end Job

def Job.applying (j : Job) (a : Replies) (action : Action) : Script :=
  match j.check action with
  | .error fault => .refuse fault
  | .ok () => action.steps.foldr (Step.script a j.report.job j.report.number) .done

namespace Job

variable {j : Job} {a : Replies}

theorem applying_of_worded {action : Action} (words : action.isWorded = true)
    (undrafted : action.draft? = none) : j.applying a action =
      j.worded (action.steps.foldr (Step.script a j.report.job j.report.number) .done) := by
  rw [applying, check_eq, words, undrafted, worded]
  cases Number.isWritable j.report.number <;> rfl

theorem applying_of_draft {action : Action} {draft : Draft} (words : action.isWorded = true)
    (drafted : action.draft? = some draft) (project : draft.projectKey = j.profile.projectKey) :
    j.applying a action = j.worded (j.keyed
      (action.steps.foldr (Step.script a j.report.job j.report.number) .done)) := by
  rw [applying, check_eq, words, drafted, worded, keyed]
  cases Number.isWritable j.report.number with
  | false => rfl
  | true => by_cases missing : j.profile.projectKey = "" <;> simp [project, missing]

theorem worded_congr {rest rest' : Script}
    (same : Number.isWritable j.report.number = true → rest = rest') :
    j.worded rest = j.worded rest' := by
  unfold worded
  split
  · exact same ‹_›
  · rfl

theorem forgotten_ne_empty {b : Build} (writable : Number.isWritable b.number = true) :
    b.forgotten ≠ "" := by
  obtain ⟨text, written, texts⟩ := Build.textAround_of_isWritable writable "Last observed run"
    ["- Issue is closed; " ++ b.job ++ " stops tracking it."] []
  have whole : b.forgottenText = .ok text := written
  have same : b.forgotten = text := by rw [Build.forgotten, whole]; rfl
  rw [same]
  rintro rfl
  rw [Build.runTexts, List.map_nil, List.append_nil, List.map_singleton, List.singleton_append,
    Text.joinLines_cons_cons] at texts
  exact List.append_ne_nil_of_right_ne_nil _ (List.cons_ne_nil _ _) texts.symm

theorem script_lastWord (writable : Number.isWritable j.report.number = true)
    (record : Option Record) (key : String) (rest : Script) :
    (Step.forget key (j.situation record).lastWord).script a j.report.job j.report.number rest =
      j.leaving key rest := by
  unfold leaving Situation.lastWord
  by_cases said : j.commentOnForget = true
  · rw [if_pos (show (j.situation record).commentOnForget = true from said), if_pos said,
      Step.script_forget (forgotten_ne_empty writable)]
    rfl
  · rw [if_neg (show ¬(j.situation record).commentOnForget = true from said), if_neg said]
    rfl

theorem applying_create (record : Option Record) :
    j.applying a (.create (j.situation record).draft) = j.worded (j.keyed (j.opening a)) :=
  applying_of_draft rfl rfl rfl

theorem applying_replace (record : Option Record) (key : String) :
    j.applying a (.replace key (j.situation record).lastWord (j.situation record).draft) =
      j.worded (j.keyed (j.leaving key (j.opening a))) := by
  have last (writable : Number.isWritable j.report.number = true) :=
    script_lastWord (a := a) writable record key (j.opening a)
  rw [worded_congr fun writable => congrArg j.keyed (last writable).symm]
  exact applying_of_draft rfl rfl rfl

theorem applying_comment (key text : String) :
    j.applying a (.comment key text) = j.worded
      (.must (.comment key text) (.must (.markBuild j.report.job j.report.number) .done)) :=
  applying_of_worded rfl rfl

theorem applying_forget (record : Option Record) (key : String) :
    j.applying a (.forget key (j.situation record).lastWord) =
      if j.commentOnForget then j.worded (j.leaving key .done) else j.leaving key .done := by
  have steps (writable : Number.isWritable j.report.number = true) :
      j.leaving key .done = (Action.forget key (j.situation record).lastWord).steps.foldr
        (Step.script a j.report.job j.report.number) .done :=
    (script_lastWord writable record key .done).symm
  have last : (j.situation record).lastWord =
      if j.commentOnForget then some j.build.forgotten else none := rfl
  by_cases said : j.commentOnForget = true
  · rw [if_pos said, worded_congr steps, applying_of_worded _ rfl]
    rw [last, if_pos said]
    rfl
  · rw [if_neg said, leaving, if_neg said, applying, check_eq, last, if_neg said]
    rfl

theorem script_onFailure (a : Replies) {record : Option Record}
    (failed : j.report.outcome = .failure) :
    (j.situation record).onFailure.script j.extra a (j.applying a) =
      match (j.situation record).tracked? with
      | none => j.worded (j.keyed (j.opening a))
      | some key => j.asking a key := by
  unfold Situation.onFailure
  cases (j.situation record).tracked? with
  | none => exact applying_create record
  | some key =>
    simp only [Decision.script, asking]
    congr 1
    rcases Status.project (.str a.raw) j.extra with f | _ | _ | _
    case ok.closed => rw [dropping, if_pos failed, ← applying_replace record]; rfl
    case ok.opened | ok.resolved =>
      rw [commenting, progress, if_pos failed, ← applying_comment]
      rfl
    case error => rfl

theorem script_onSuccess (a : Replies) {record : Option Record}
    (passed : j.report.outcome ≠ .failure) :
    (j.situation record).onSuccess.script j.extra a (j.applying a) =
      match (j.situation record).tracked? with
      | none => .done
      | some key => j.asking a key := by
  unfold Situation.onSuccess
  cases (j.situation record).tracked? with
  | none => rfl
  | some key =>
    simp only [Decision.script, asking]
    congr 1
    rcases Status.project (.str a.raw) j.extra with f | _ | _ | _
    case ok.closed => rw [dropping, if_neg passed, ← applying_forget record]; rfl
    case ok.opened | ok.resolved =>
      rw [commenting, progress, if_neg passed, ← applying_comment]
      rfl
    case error => rfl

theorem script_eq (j : Job) (a : Replies) : j.script a =
    .must (.load j.report.job)
      ((j.situation a.record).decide.script j.extra a (j.applying a)) := by
  have outcome : (j.situation a.record).outcome = j.report.outcome := rfl
  have previous : (j.situation a.record).previous = j.report.previous := rfl
  have tracked := tracked?_situation j a.record
  rw [script, Situation.decide, outcome, previous]
  congr 1
  by_cases aborted : j.report.outcome = .aborted
  · rw [if_pos (.inl aborted), if_pos aborted]
    rfl
  by_cases first : j.report.previous = none
  · rw [if_pos (.inr first), if_neg aborted, if_pos first]
    rfl
  rw [if_neg (not_or.mpr ⟨aborted, first⟩), if_neg aborted, if_neg first]
  cases found : a.record.filter (·.key ≠ "") with
  | none =>
    rw [found] at tracked
    have unmarked : (j.situation a.record).alreadyApplied = false := by
      rw [Situation.alreadyApplied, tracked]
      rfl
    rw [unmarked, if_neg Bool.false_ne_true]
    dsimp only
    by_cases failed : j.report.outcome = .failure
    · rw [if_pos failed, if_pos failed, script_onFailure a failed, tracked]
      rfl
    · rw [if_neg failed, if_neg failed, script_onSuccess a failed, tracked]
      rfl
  | some r =>
    rw [found] at tracked
    have record : a.record = some r := Option.eq_some_of_filter_eq_some found
    have marked : (j.situation a.record).alreadyApplied = (r.build == some j.report.number) := by
      rw [Situation.alreadyApplied, tracked, record]
      rfl
    rw [marked]
    dsimp only
    by_cases applied : r.build = some j.report.number
    · rw [if_pos applied, if_pos (beq_iff_eq.mpr applied)]
      rfl
    rw [if_neg applied, if_neg (by rwa [beq_iff_eq])]
    by_cases failed : j.report.outcome = .failure
    · rw [if_pos failed, script_onFailure a failed, tracked]
      rfl
    · rw [if_neg failed, script_onSuccess a failed, tracked]
      rfl

theorem Choice.plays {es es' : List Exchange} {record : Option Record} {action : Action}
    {r : Except Fault (List String)} (h : j.Choice es (.ok (record, action)))
    (given : a.Gave (es ++ es'))
    (onward :
      (action.steps.foldr (Step.script a j.report.job j.report.number) .done).Plays a es' r) :
    (j.script a).Plays a (es ++ es') r := by
  cases h with
  | chosen course free =>
    have record : a.record = record := Replies.answer_ok given.head
    have applied : (j.applying a action).Plays a es' r := by
      rw [applying, free]
      exact onward
    rw [script_eq, record]
    exact .must given.head (course.plays given.tail.left applied)

theorem Choice.plays_error {es : List Exchange} {fault : Fault} (h : j.Choice es (.error fault))
    (given : a.Gave es) : (j.script a).Plays a es (.error fault) := by
  rw [script_eq]
  cases h with
  | unread => exact .must_error given.head
  | @undecided record _ _ course =>
    have record : a.record = record := Replies.answer_ok given.head
    rw [record]
    exact .must given.head (course.plays_error given.tail _)
  | @barred record es action _ course bar =>
    have record : a.record = record := Replies.answer_ok given.head
    have barred : (j.applying a action).Plays a [] (.error fault) := by
      rw [applying, bar]
      exact .refuse
    rw [record, ← List.append_nil es]
    exact .must given.head (course.plays given.tail barred)

theorem Course.plays {es : List Exchange} {r : Except Fault CycleResult} (h : j.Course es r)
    (given : a.Gave es) : (j.script a).Plays a es (r.map (·.applied.warnings)) := by
  cases h with
  | unsettled choice => exact choice.plays_error given
  | stopped choice courses =>
    obtain ⟨r', plays, same⟩ := courses.plays given.right
    rw [Script.map_nil_append] at same
    exact choice.plays given (same ▸ plays)
  | applied choice courses =>
    obtain ⟨r', plays, same⟩ := courses.plays given.right
    rw [Script.map_nil_append] at same
    exact choice.plays given (same ▸ plays)

end Job

/-- A cycle plays its script, whatever becomes of its calls. A report that was read has words for
its build. -/
theorem reconcile_plays_script {τ σ : Type} (p : Parties τ σ) (j : Job) (scene : Scene τ σ) :
    (∃ a : Replies,
      exchanges (p.reconcile j scene).2.log = exchanges scene.log ++ (j.script a).calls a ∧
      (p.reconcile j scene).1.map (·.applied.warnings) = (j.script a).ending a) ∧
    (j.report.Accepted → ∀ rest, j.worded rest = rest) := by
  constructor
  · obtain ⟨es, path, -, -, logged⟩ := p.carry_spec j.plan scene
    have course := Job.course path
    obtain ⟨a, given⟩ := Replies.exists_gave ⟨none, "", ⟨"", ""⟩, Faults.none⟩ course.nodup_kinds
    obtain ⟨calls, ending⟩ := course.plays given
    refine ⟨a, ?_, ending.symm⟩
    rw [calls]
    exact logged
  · intro accepted rest
    exact if_pos accepted.isWritable

end TicketKeeper
