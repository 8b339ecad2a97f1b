import TicketKeeper.Proofs.Cycle.Steady

/-! Plans that are carried out with faults, beside the same plans without. A call that faults halts
the plan and does nothing else. -/
namespace TicketKeeper

def Call.kind : Call → CallKind
  | load _ => .load
  | save .. => .save
  | markBuild .. => .markBuild
  | clear _ => .clear
  | create _ => .create
  | status _ => .status
  | comment .. => .comment

def Call.isWrite : Call → Bool
  | save .. | markBuild .. | clear _ => true
  | load _ | create _ | status _ | comment .. => false

structure Faults.SparesWrites (faults : Faults) : Prop where
  save : faults .save = Option.none
  markBuild : faults .markBuild = Option.none
  clear : faults .clear = Option.none

section Faulty

variable {τ σ α β : Type}

def Scene.halted (s : Scene τ σ) (c : Call) (fault : Fault) : Scene τ σ :=
  { s with log := s.log ++ [.call c (.error fault)] }

namespace Parties

variable (p : Parties τ σ) (faults : Faults) (s : Scene τ σ)

theorem call_withFaults (c : Call) : (p.withFaults faults).call c s = p.call c s ∨
    ∃ fault, faults c.kind = some fault ∧
      (p.withFaults faults).call c s = (.error fault, s.halted c fault) := by
  cases h : faults c.kind with
  | none =>
    left
    cases c <;>
      simp_all [Call.kind, call, withFaults, Cycle.onStore, Cycle.onTracker, Store.withFaults,
        Tracker.withFaults, Faults.act, Faults.turn]
  | some fault =>
    right
    refine ⟨fault, rfl, ?_⟩
    cases c <;>
      simp_all [Call.kind, call, withFaults, Cycle.onStore, Cycle.onTracker, Store.withFaults,
        Tracker.withFaults, Faults.act, Faults.turn, Scene.halted]

variable {p faults s} {φ : Type} {face : τ → φ}

theorem lacks_halted {c : Call} (read : c.isWrite = false) (fault : Fault) :
    s.Lacks face [] (s.halted c fault) := by
  have told : (s.halted c fault).told = s.told := by
    cases c <;> simp_all [Call.isWrite, Scene.told, Scene.halted, tally, Exchange.opened?,
      Exchange.said?, Exchange.written?]
  exact ⟨⟨rfl, rfl⟩, by rw [told], by rw [told], by rw [told, List.append_nil]⟩

/-- The plan has come to a fault, and nothing counts of what has happened. -/
def Halts (face : τ → φ) (s : Scene τ σ) (out : Except Fault α × Scene τ σ) : Prop :=
  ∃ fault, out.1 = .error fault ∧ s.Lacks face [] out.2

theorem Halts.of_lacks {s' : Scene τ σ} {out : Except Fault α × Scene τ σ}
    (lacks : s.Lacks face [] s') (h : Halts face s' out) : Halts face s out := by
  obtain ⟨fault, failed, lacks'⟩ := h
  exact ⟨fault, failed, lacks.trans lacks'⟩

section Spared

variable (spares : faults.SparesWrites)

include spares

theorem call_write {c : Call} (write : c.isWrite = true) (s : Scene τ σ) :
    (p.withFaults faults).call c s = p.call c s := by
  obtain same | ⟨fault, faulty, -⟩ := p.call_withFaults faults s c
  · exact same
  · cases c with
    | save => rw [Call.kind, spares.save] at faulty; cases faulty
    | markBuild => rw [Call.kind, spares.markBuild] at faulty; cases faulty
    | clear => rw [Call.kind, spares.clear] at faulty; cases faulty
    | load | create | status | comment => cases write

theorem call_faulty (face : τ → φ) (c : Call) (s : Scene τ σ) :
    (p.withFaults faults).call c s = p.call c s ∨ ∃ fault,
      (p.withFaults faults).call c s = (.error fault, s.halted c fault) ∧
      s.Lacks face [] (s.halted c fault) := by
  cases write : c.isWrite with
  | true => exact .inl (call_write spares write s)
  | false =>
    obtain same | ⟨fault, -, halted⟩ := p.call_withFaults faults s c
    · exact .inl same
    · exact .inr ⟨fault, halted, lacks_halted write fault⟩

theorem carry_ask_faulty {c : Call} {f : c.Reply → Plan α}
    (onward : ∀ a, (p.withFaults faults).carry (f a) (p.call c s).2 =
        p.carry (f a) (p.call c s).2 ∨
      Halts face s ((p.withFaults faults).carry (f a) (p.call c s).2)) :
    (p.withFaults faults).carry (Plan.ask c >>= f) s = p.carry (Plan.ask c >>= f) s ∨
      Halts face s ((p.withFaults faults).carry (Plan.ask c >>= f) s) := by
  rw [carry_ask_bind, carry_ask_bind]
  obtain same | ⟨fault, halted, lacks⟩ := call_faulty (p := p) spares face c s
  · rw [same]
    generalize p.call c s = out at onward
    obtain ⟨fault | a, s'⟩ := out
    · exact .inl rfl
    · exact onward a
  · rw [halted]
    exact .inr ⟨fault, rfl, lacks⟩

theorem carry_write {c : Call} (write : c.isWrite = true) {f : c.Reply → Plan α}
    (onward : ∀ a s, (p.withFaults faults).carry (f a) s = p.carry (f a) s) (s : Scene τ σ) :
    (p.withFaults faults).carry (Plan.ask c >>= f) s = p.carry (Plan.ask c >>= f) s := by
  rw [carry_ask_bind, carry_ask_bind, call_write spares write]
  obtain ⟨fault | a, s'⟩ := p.call c s
  · rfl
  · exact onward a s'

/-- The tracker comes first in a step that creates or comments, so the step is taken as without
faults, or nothing has happened. -/
theorem step_faulty (face : τ → φ) (job : String) (n : Int) (done : Applied) {step : Step}
    (h : ∀ key text, step ≠ .forget key text) :
    (p.withFaults faults).carry (step.plan job n done) s = p.carry (step.plan job n done) s ∨
      Halts face s ((p.withFaults faults).carry (step.plan job n done) s) := by
  cases step with
  | create draft =>
    exact carry_ask_faulty spares fun issue => .inl (carry_write spares rfl (fun _ _ => rfl) _)
  | comment key text =>
    exact carry_ask_faulty spares fun _ => .inl (carry_write spares rfl (fun _ _ => rfl) _)
  | forget key text => exact absurd rfl (h key text)

theorem choose_faulty (face : τ → φ) {j : Job}
    (rests : (p.store.load j.report.job s.store).2 = s.store) :
    (p.withFaults faults).carry j.choose s = p.carry j.choose s ∨
      Halts face s ((p.withFaults faults).carry j.choose s) := by
  refine carry_ask_faulty spares fun record => ?_
  cases (j.situation record).decide with
  | settled action =>
    rw [Decision.plan, Plan.pure_bind]
    left
    cases j.check action <;> rfl
  | asks key answer =>
    rw [Decision.plan, Plan.bind_assoc]
    refine (carry_ask_faulty spares fun raw => .inl ?_).imp_right (.of_lacks (lacks_load rests))
    cases Status.project (.str raw) j.extra with
    | error => rfl
    | ok status =>
      rw [show Plan.orFail (Except.mapError Fault.failure (.ok status)) = .give status from rfl,
        Plan.give_bind, Plan.pure_bind]
      cases j.check (answer status) <;> rfl

theorem lastComment_faulty (face : τ → φ) (key : String) (text : Option String) :
    (p.withFaults faults).carry (Plan.lastComment key text) s =
        p.carry (Plan.lastComment key text) s ∨
      Halts face s ((p.withFaults faults).carry (Plan.lastComment key text) s) ∨
      ∃ warnings, ((p.withFaults faults).carry (Plan.lastComment key text) s).1 = .ok warnings ∧
        s.Lacks face [] ((p.withFaults faults).carry (Plan.lastComment key text) s).2 := by
  unfold Plan.lastComment
  split
  · exact .inl rfl
  · exact .inl rfl
  · rename_i text _
    rw [carry_call, carry_call]
    obtain same | ⟨fault, halted, lacks⟩ := call_faulty (p := p) spares face (.comment key text) s
    · rw [same]
      left
      rcases (p.call (.comment key text) s).1 with fault | _
      · dsimp only
        cases fault.trackerFailure? <;> rfl
      · rfl
    · rw [halted]
      right
      dsimp only
      cases fault.trackerFailure? with
      | none => exact .inl ⟨fault, rfl, lacks⟩
      | some f => exact .inr ⟨_, rfl, lacks⟩

/-- A ticket is dropped as without faults, except that its last comment may be missing; or nothing
has happened. -/
theorem forget_faulty (steady : p.tracker.Steady face) (job : String) (n : Int) (done : Applied)
    (key : String) (text : Option String) :
    Halts face s ((p.withFaults faults).carry (Step.plan job n done (.forget key text)) s) ∨
      ∃ cs, cs.length ≤ 1 ∧
        (p.carry (Step.plan job n done (.forget key text)) s).2.Lacks face cs
          ((p.withFaults faults).carry (Step.plan job n done (.forget key text)) s).2 ∧
        ((p.withFaults faults).carry (Step.plan job n done (.forget key text)) s).1.isOk =
          (p.carry (Step.plan job n done (.forget key text)) s).1.isOk := by
  obtain ⟨warnings, cs, said, short, lacks⟩ := lastComment_ok (s := s) steady key text
  have clean := carry_forget job n done (Prod.ext said rfl)
  obtain same | ⟨fault, failed, kept⟩ | ⟨warnings', given, missing⟩ :=
    lastComment_faulty (p := p) (s := s) spares face key text
  · right
    refine ⟨[], Nat.zero_le 1, ?_⟩
    rw [carry_forget job n done (same.trans (Prod.ext said rfl)), call_write spares rfl, ← clean]
    exact ⟨.refl face _, rfl⟩
  · left
    rw [Step.plan, carry_bind_error failed]
    exact ⟨fault, rfl, kept⟩
  · right
    refine ⟨cs, short, ?_⟩
    rw [carry_forget job n done (Prod.ext given rfl), clean, call_write spares rfl]
    have lacks := p.call_lacks (c := .clear job) steady (lacks.trans missing) fun _ => rfl
    generalize p.call (.clear job) _ = out at lacks ⊢
    generalize p.call (.clear job) _ = out' at lacks ⊢
    obtain ⟨r, _⟩ := out
    obtain ⟨r', _⟩ := out'
    obtain ⟨rfl, lacks⟩ := lacks
    cases r <;> exact ⟨lacks, rfl⟩

end Spared

end Parties

end Faulty

end TicketKeeper
