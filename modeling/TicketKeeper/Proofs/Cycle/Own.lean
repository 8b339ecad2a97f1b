import TicketKeeper.Cycle

/-! The calls of a cycle are about its own job, and write no number but that of its build. -/
namespace TicketKeeper

namespace Plan

variable {α β : Type} {P : Call → Prop}

/-- A plan makes calls of one kind only, whatever is replied to them. -/
def Only (P : Call → Prop) : Plan α → Prop
  | .give _ | .fail _ => True
  | .call c next => P c ∧ ∀ reply, (next reply).Only P

theorem Only.bind {x : Plan α} (h : x.Only P) {f : α → Plan β} (h' : ∀ a, (f a).Only P) :
    (x >>= f).Only P := by
  induction x with
  | give a => exact h' a
  | fail fault => exact trivial
  | call c next ih => exact ⟨h.1, fun reply => ih reply (h.2 reply)⟩

theorem only_ask {c : Call} (h : P c) : (ask c).Only P := by
  refine ⟨h, fun reply => ?_⟩
  cases reply <;> exact trivial

theorem only_orFail (x : Except Fault α) : (orFail x).Only P := by
  cases x <;> exact trivial

end Plan

/-- A call on the tracker, or one about the record of a job that writes no number but one. -/
def Call.IsFor (job : String) (n : Int) : Call → Prop
  | .load other | .clear other => other = job
  | .save other _ build | .markBuild other build => other = job ∧ build = n
  | .create _ | .status _ | .comment .. => True

variable {job : String} {n : Int}

theorem Plan.only_lastComment (key : String) (text : Option String) :
    (Plan.lastComment key text).Only (Call.IsFor job n) := by
  unfold lastComment
  split
  · exact trivial
  · exact trivial
  · refine ⟨trivial, fun reply => ?_⟩
    cases reply with
    | ok => exact trivial
    | error fault =>
      dsimp only
      split <;> exact trivial

theorem Step.only_plan (done : Applied) (s : Step) :
    (s.plan job n done).Only (Call.IsFor job n) := by
  cases s with
  | create draft =>
    exact .bind (Plan.only_ask trivial) fun _ =>
      .bind (Plan.only_ask ⟨rfl, rfl⟩) fun _ => trivial
  | comment key text =>
    exact .bind (Plan.only_ask trivial) fun _ =>
      .bind (Plan.only_ask ⟨rfl, rfl⟩) fun _ => trivial
  | forget key text =>
    exact .bind (Plan.only_lastComment key text) fun _ =>
      .bind (Plan.only_ask (show Call.IsFor job n (.clear job) from rfl)) fun _ => trivial

theorem Step.only_planAll (done : Applied) (steps : List Step) :
    (planAll job n done steps).Only (Call.IsFor job n) := by
  induction steps generalizing done with
  | nil => exact trivial
  | cons s rest ih => exact .bind (s.only_plan done) ih

theorem Decision.only_plan (extra : Status.Extra) (d : Decision) :
    (d.plan extra).Only (Call.IsFor job n) := by
  cases d with
  | settled action => exact trivial
  | asks key answer =>
    exact .bind (Plan.only_ask trivial) fun _ => .bind (Plan.only_orFail _) fun _ => trivial

namespace Job

variable (j : Job)

def about (record : Option Record) : Plan CycleResult := do
  let action ← (j.situation record).decide.plan j.extra
  Plan.orFail (j.check action)
  let applied ← action.plan j.report.job j.report.number
  return j.result record action applied

theorem plan_eq : j.plan = Plan.ask (.load j.report.job) >>= j.about := by
  simp only [plan, choose, Plan.bind_assoc, Plan.pure_bind]
  rfl

theorem only_about (record : Option Record) :
    (j.about record).Only (Call.IsFor j.report.job j.report.number) :=
  .bind (Decision.only_plan j.extra _) fun _ =>
    .bind (Plan.only_orFail _) fun _ =>
      .bind (Step.only_planAll {} _) fun _ => trivial

theorem only_plan : j.plan.Only (Call.IsFor j.report.job j.report.number) := by
  rw [plan_eq]
  exact .bind (Plan.only_ask (show Call.IsFor _ _ (.load j.report.job) from rfl)) j.only_about

end Job

end TicketKeeper
