import TicketKeeper.Proofs.Cycle.Alike

/-! How the steps of a cycle are taken when the tracker is steady, and what it means for the scene
when one of them fails. -/
namespace TicketKeeper

theorem Step.planAll_singleton (job : String) (n : Int) (done : Applied) (step : Step) :
    planAll job n done [step] = step.plan job n done := Plan.bind_pure _

namespace Parties

variable {τ φ σ : Type} {p : Parties τ σ} {face : τ → φ} {j : Job} {s s' : Scene τ σ}

theorem carry_plan_ok {record : Option Record} {action : Action}
    (chosen : p.carry j.choose s = (.ok (record, action), s')) :
    (p.carry j.plan s).2 = (p.carry (action.plan j.report.job j.report.number) s').2 ∧
      (p.carry j.plan s).1.isOk =
        (p.carry (action.plan j.report.job j.report.number) s').1.isOk := by
  rw [Job.plan, carry_bind_ok chosen, carry_bind]
  rcases p.carry (action.plan j.report.job j.report.number) s' with ⟨_ | _, _⟩ <;> exact ⟨rfl, rfl⟩

theorem carry_create (job : String) (n : Int) (done done' : Applied) (draft : Draft) :
    (p.carry (Step.plan job n done (.create draft)) s).2 =
        (p.carry (Step.plan job n done' (.create draft)) s).2 ∧
      (p.carry (Step.plan job n done (.create draft)) s).1.isOk =
        (p.carry (Step.plan job n done' (.create draft)) s).1.isOk := by
  rw [Step.plan, Step.plan, carry_ask_bind, carry_ask_bind]
  rcases p.call (.create draft.form) s with ⟨_ | issue, s'⟩
  · exact ⟨rfl, rfl⟩
  dsimp only
  rw [carry_ask_bind, carry_ask_bind]
  rcases p.call (.save job issue.key n) s' with ⟨_ | _, _⟩ <;> exact ⟨rfl, rfl⟩

theorem carry_forget (job : String) (n : Int) (done : Applied) {key : String}
    {text : Option String} {warnings : List String}
    (said : p.carry (Plan.lastComment key text) s = (.ok warnings, s')) :
    p.carry (Step.plan job n done (.forget key text)) s = match p.call (.clear job) s' with
      | (.ok (), s) => (.ok { done with
          forgotten := some key
          warnings := done.warnings ++ warnings }, s)
      | (.error fault, s) => (.error fault, s) := by
  rw [Step.plan, carry_bind_ok said, carry_ask_bind]
  rcases p.call (.clear job) s' with ⟨_ | _, _⟩ <;> rfl

theorem carry_replace {job : String} {n : Int} {done : Applied} {key : String}
    {text : Option String} (draft : Draft)
    (forgot : p.carry (Step.plan job n {} (.forget key text)) s = (.ok done, s')) :
    p.carry ((Action.replace key text draft).plan job n) s =
      p.carry (Step.plan job n done (.create draft)) s' := by
  rw [Action.plan, Action.steps, Step.planAll, carry_bind_ok forgot, Step.planAll_singleton]

section Chosen

variable {record : Option Record} {action : Action}

theorem carry_choose_settled (loaded : (p.store.load j.report.job s.store).1 = .ok record)
    (decides : (j.situation record).decide = .settled action) (free : j.check action = .ok ()) :
    p.carry j.choose s = (.ok (record, action), (p.call (.load j.report.job) s).2) := by
  have load : p.call (.load j.report.job) s = (.ok record, (p.call (.load j.report.job) s).2) :=
    Prod.ext loaded rfl
  rw [Job.choose, carry_ask_bind, load]
  dsimp only
  rw [decides, Decision.plan, Plan.pure_bind, free]
  rfl

theorem chosen_spec (chosen : p.carry j.choose s = (.ok (record, action), s')) :
    (j.situation record).Leads action ∧ j.check action = .ok () ∧
      (p.store.load j.report.job s.store).1 = .ok record := by
  obtain ⟨es, path, stored, -, -⟩ := p.carry_spec j.choose s
  rw [chosen] at path
  cases Job.choice path with
  | chosen course free =>
    obtain ⟨mid, loaded, -⟩ := stored
    exact ⟨Situation.leads_of_course course, free, congrArg Prod.fst loaded⟩

theorem reconcile_chosen (chosen : p.carry j.choose s = (.ok (record, action), s')) :
    ∃ es es' ended, j.Choice es (.ok (record, action)) ∧
      Step.Courses j.report.job j.report.number {} action.steps es' ended ∧
      (p.reconcile j s).1.isOk = ended.isOk ∧
      p.store.Replays es' s'.store (p.reconcile j s).2.store ∧
      exchanges (p.reconcile j s).2.log = exchanges s.log ++ es ++ es' := by
  obtain ⟨scene, ok⟩ := carry_plan_ok chosen
  obtain ⟨es, path, -, -, logged⟩ := p.carry_spec j.choose s
  obtain ⟨es', path', stored, -, logged'⟩ :=
    p.carry_spec (action.plan j.report.job j.report.number) s'
  rw [chosen] at path logged
  rw [logged, ← scene] at logged'
  rw [← scene] at stored
  exact ⟨es, es', _, Job.choice path, Step.courses path', ok, stored, logged'⟩

end Chosen

theorem lacks_load {job : String} (rests : (p.store.load job s.store).2 = s.store) :
    s.Lacks face [] (p.call (.load job) s).2 := by
  have told : (p.call (.load job) s).2.told = s.told := by
    simp [Scene.told, tally, call, Cycle.onStore, Exchange.opened?, Exchange.said?,
      Exchange.written?]
  exact ⟨⟨rests, rfl⟩, by rw [told], by rw [told], by rw [told, List.append_nil]⟩

section Steady

variable (steady : p.tracker.Steady face)

include steady

theorem lastComment_ok (key : String) (text : Option String) :
    ∃ warnings cs, (p.carry (Plan.lastComment key text) s).1 = .ok warnings ∧ cs.length ≤ 1 ∧
      (p.carry (Plan.lastComment key text) s).2.Lacks face cs s := by
  obtain ⟨es, path, stored, tracked, logged⟩ := p.carry_spec (Plan.lastComment key text) s
  generalize p.carry (Plan.lastComment key text) s = out at path stored tracked logged ⊢
  obtain ⟨r, s'⟩ := out
  dsimp only at path stored tracked logged ⊢
  have told := Scene.told_append logged
  have farewell := farewell path
  have once := farewell.said_once
  cases farewell with
  | none | empty =>
    exact ⟨[], [], rfl, Nat.zero_le 1, ⟨stored.symm, congrArg face tracked.symm⟩, by simp [told],
      by simp [told], by simp [told]⟩
  | said | refused =>
    obtain ⟨_, rfl, stored⟩ := stored
    obtain ⟨_, ⟨-, rfl⟩, next⟩ := tracked
    have next : s'.tracker = (p.tracker.comment key _ s.tracker).next := next
    exact ⟨_, _, rfl, once, ⟨stored.symm, by rw [next, steady.comment]⟩,
      by simp [told, Exchange.opened?], by simp [told, Exchange.written?], by simp [told]⟩
  | broken _ unforgiven =>
    obtain ⟨_, ⟨refused, -⟩, -⟩ := tracked
    obtain ⟨f, forgiven⟩ := steady.refuses refused
    rw [unforgiven] at forgiven
    cases forgiven

theorem face_of_asked {extra : Status.Extra} {d : Decision} {es r x x'}
    (h : d.Course extra es r) (replays : p.tracker.Replays es x x') : face x' = face x := by
  cases h with
  | settled => rw [show x' = x from replays]
  | unanswered | unknown | answered =>
    obtain ⟨_, ⟨-, rfl⟩, rfl⟩ := replays
    exact steady.status ..

theorem choose_lacks {j : Job} (rests : (p.store.load j.report.job s.store).2 = s.store) :
    s.Lacks face [] (p.carry j.choose s).2 := by
  obtain ⟨es, path, stored, tracked, logged⟩ := p.carry_spec j.choose s
  obtain ⟨reply, asked, d, r, rfl, course⟩ := (Job.choice path).reads
  obtain ⟨st, loaded, stored⟩ := stored
  obtain ⟨x, rfl, tracked⟩ := tracked
  have loaded : p.store.load j.report.job s.store = (reply, st) := loaded
  rw [loaded] at rests
  refine Scene.lacks_of_silent ((course.replays stored).trans rests) (face_of_asked steady course
    tracked) logged ?_
  exact course.tally_eq

theorem step_error {job : String} {n : Int} {done : Applied} {step : Step} {fault : Fault}
    (h : ∀ key text, step ≠ .forget key text)
    (failed : (p.carry (step.plan job n done) s).1 = .error fault)
    (written : ∀ w ∈ (p.carry (step.plan job n done) s).2.told.written, w.ok = true) :
    s.Lacks face [] (p.carry (step.plan job n done) s).2 := by
  obtain ⟨es, path, stored, tracked, logged⟩ := p.carry_spec (step.plan job n done) s
  generalize p.carry (step.plan job n done) s = out at *
  obtain ⟨r, s'⟩ := out
  obtain rfl : r = .error fault := failed
  dsimp only at path stored tracked logged written ⊢
  rw [Scene.told_append logged] at written
  cases Step.course path with
  | uncreated =>
    obtain ⟨_, rfl, stored⟩ := stored
    obtain ⟨_, ⟨failed, rfl⟩, next⟩ := tracked
    refine Scene.lacks_of_silent stored ?_ logged rfl
    rw [show s'.tracker = _ from next, steady.create_error failed]
  | unsaid =>
    obtain ⟨_, rfl, stored⟩ := stored
    obtain ⟨_, ⟨-, rfl⟩, next⟩ := tracked
    refine Scene.lacks_of_silent stored ?_ logged rfl
    rw [show s'.tracker = _ from next, steady.comment]
  | unsaved | unmarked => exact absurd (written _ (List.mem_append_right _ List.mem_cons_self)) nofun
  | kept | uncleared => exact absurd rfl (h _ _)

theorem forget_ok {job : String} {n : Int} {done : Applied} {key : String} {text : Option String}
    (written : ∀ w ∈ (p.carry (Step.plan job n done (.forget key text)) s).2.told.written,
      w.ok = true) :
    (p.carry (Step.plan job n done (.forget key text)) s).1.isOk = true ∧
      ⟨job, .clear, true⟩ ∈
        (p.carry (Step.plan job n done (.forget key text)) s).2.told.written ∧
      p.store.clear job s.store =
        (.ok (), (p.carry (Step.plan job n done (.forget key text)) s).2.store) := by
  obtain ⟨warnings, cs, ok, -, lacks⟩ := lastComment_ok (s := s) steady key text
  obtain ⟨s', said⟩ : ∃ s', p.carry (Plan.lastComment key text) s = (.ok warnings, s') :=
    ⟨_, Prod.ext ok rfl⟩
  rw [said] at lacks
  rw [carry_forget job n done said] at written ⊢
  obtain ⟨served, -, logged⟩ := p.call_spec (.clear job) s'
  have told := Scene.told_append logged
  generalize p.call (.clear job) s' = out at served told written ⊢
  obtain ⟨fault | _, s''⟩ := out
  · have failed : ⟨job, .clear, false⟩ ∈ s''.told.written := by
      rw [told]
      exact List.mem_append_right _ List.mem_cons_self
    exact absurd (written _ failed) nofun
  · refine ⟨rfl, ?_, ?_⟩
    · rw [told]
      exact List.mem_append_right _ List.mem_cons_self
    · rw [lacks.store]
      exact served

end Steady

end Parties

end TicketKeeper
