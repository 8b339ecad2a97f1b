import TicketKeeper.Proofs.Cycle.Own
import TicketKeeper.Proofs.Run
import TicketKeeper.Proofs.Store.Secluding

/-! Cycles of different jobs do not interfere. A cycle leaves the records of the other jobs alone,
and goes the same way whatever they are. -/
namespace TicketKeeper

open Store (Backend Depot)

structure Scene.Parallel {τ σ : Type} (s : Store σ) (sited : σ → Prop) (job : String)
    (a b : Scene τ σ) : Prop where
  tracker : a.tracker = b.tracker
  log : a.log = b.log
  sited : sited a.store ∧ sited b.store
  loaded : ∃ r, (s.load job a.store).1 = .ok r ∧ (s.load job b.store).1 = .ok r

namespace Parties

variable {τ σ α : Type} {p : Parties τ σ} {apart : String → String → Prop} {sited : σ → Prop}
  {holds : Int → Prop} {job other : String} {n : Int} {scene a b : Scene τ σ}

theorem call_store (p : Parties τ σ) {c : Call} (own : c.IsFor job n) (scene : Scene τ σ) :
    (p.call c scene).2.store = scene.store ∨
      (p.call c scene).2.store = (p.store.load job scene.store).2 ∨
      ∃ w : Store.Write, w.Within (· = n) ∧
        (p.call c scene).2.store = (p.store.write job w scene.store).2 := by
  cases c with
  | load job' =>
    obtain rfl := own
    exact .inr (.inl rfl)
  | save job' key n' =>
    obtain ⟨rfl, rfl⟩ := own
    exact .inr (.inr ⟨.save (some key) (some n'), fun _ h => (Option.some.inj h).symm, rfl⟩)
  | markBuild job' n' =>
    obtain ⟨rfl, rfl⟩ := own
    exact .inr (.inr ⟨.markBuild (some n'), fun _ h => (Option.some.inj h).symm, rfl⟩)
  | clear job' =>
    obtain rfl := own
    exact .inr (.inr ⟨.clear, trivial, rfl⟩)
  | create | status | comment => exact .inl rfl

section

variable (sec : Secluding p.store apart sited holds) (held : holds n)

include sec held

theorem call_apart {c : Call} (own : c.IsFor job n) (here : sited scene.store) :
    sited (p.call c scene).2.store ∧ ∀ other, apart job other →
      (p.store.load other (p.call c scene).2.store).1 = (p.store.load other scene.store).1 := by
  obtain same | same | ⟨w, within, same⟩ := p.call_store own scene
  · rw [same]
    exact ⟨here, fun _ _ => rfl⟩
  · rw [same, sec.load_sited here]
    exact ⟨here, fun _ _ => rfl⟩
  · have within : w.Within holds := within.mono fun _ => (· ▸ held)
    rw [same]
    exact ⟨sec.write_sited here within, fun _ separate => sec.write_apart here within separate⟩

theorem carry_apart {x : Plan α} (own : x.Only (Call.IsFor job n)) (here : sited scene.store) :
    sited (p.carry x scene).2.store ∧ ∀ other, apart job other →
      (p.store.load other (p.carry x scene).2.store).1 = (p.store.load other scene.store).1 := by
  induction x generalizing scene with
  | give a => exact ⟨here, fun _ _ => rfl⟩
  | fail fault => exact ⟨here, fun _ _ => rfl⟩
  | call c next ih =>
    obtain ⟨between, first⟩ := call_apart sec held own.1 here
    obtain ⟨there, rest⟩ := ih _ (own.2 _) between
    rw [carry_call]
    exact ⟨there, fun other separate => (rest other separate).trans (first other separate)⟩

theorem call_parallel {c : Call} (own : c.IsFor job n) (alike : a.Parallel p.store sited job b) :
    (p.call c a).1 = (p.call c b).1 ∧ (p.call c a).2.Parallel p.store sited job (p.call c b).2 := by
  obtain ⟨tracker, st, log⟩ := a
  obtain ⟨tracker', st', log'⟩ := b
  obtain ⟨rfl, rfl, ⟨here, here'⟩, r, loaded, loaded'⟩ := alike
  dsimp only at here here' loaded loaded'
  have written (w : Store.Write) (within : w.Within holds) :
      (p.store.write job w st).1 = (p.store.write job w st').1 ∧
        (sited (p.store.write job w st).2 ∧ sited (p.store.write job w st').2) ∧
        ∃ r, (p.store.load job (p.store.write job w st).2).1 = .ok r ∧
          (p.store.load job (p.store.write job w st').2).1 = .ok r := by
    obtain ⟨same, after⟩ := sec.write_alike here here' within loaded loaded'
    exact ⟨same, ⟨sec.write_sited here within, sec.write_sited here' within⟩, after⟩
  have fitting (n' : Int) (h : some n = some n') : holds n' := Option.some.inj h ▸ held
  have logged {c : Call} {reply reply' : Except Fault c.Reply} (same : reply = reply') :
      log ++ [Event.call c reply] = log ++ [Event.call c reply'] := by rw [same]
  cases c with
  | load job' =>
    obtain rfl := own
    have same := loaded.trans loaded'.symm
    have rest : (p.store.load job' st).2 = st := sec.load_sited here
    have rest' : (p.store.load job' st').2 = st' := sec.load_sited here'
    refine ⟨same, rfl, logged same, ?_, r, ?_, ?_⟩
    · change sited (p.store.load job' st).2 ∧ sited (p.store.load job' st').2
      rw [rest, rest']
      exact ⟨here, here'⟩
    · change (p.store.load job' (p.store.load job' st).2).1 = _
      rwa [rest]
    · change (p.store.load job' (p.store.load job' st').2).1 = _
      rwa [rest']
  | save job' key n' =>
    obtain ⟨rfl, rfl⟩ := own
    obtain ⟨same, after⟩ := written (.save (some key) (some n')) fitting
    exact ⟨same, rfl, logged same, after.1, after.2⟩
  | markBuild job' n' =>
    obtain ⟨rfl, rfl⟩ := own
    obtain ⟨same, after⟩ := written (.markBuild (some n')) fitting
    exact ⟨same, rfl, logged same, after.1, after.2⟩
  | clear job' =>
    obtain rfl := own
    obtain ⟨same, after⟩ := written .clear trivial
    exact ⟨same, rfl, logged same, after.1, after.2⟩
  | create | status | comment => exact ⟨rfl, rfl, rfl, ⟨here, here'⟩, r, loaded, loaded'⟩

theorem carry_parallel {x : Plan α} (own : x.Only (Call.IsFor job n))
    (alike : a.Parallel p.store sited job b) :
    (p.carry x a).1 = (p.carry x b).1 ∧
      (p.carry x a).2.Parallel p.store sited job (p.carry x b).2 := by
  induction x generalizing a b with
  | give => exact ⟨rfl, alike⟩
  | fail => exact ⟨rfl, alike⟩
  | call c next ih =>
    obtain ⟨same, alike⟩ := call_parallel sec held own.1 alike
    rw [carry_call, carry_call, ← same]
    exact ih _ (own.2 _) alike

end

/-- From stores that show the same of its job, be it a record or a fault, a cycle goes the same
way. -/
theorem reconcile_parallel (sec : Secluding p.store apart sited holds) {j : Job}
    (held : holds j.report.number) {x : τ} {log : List Event} {st st' : σ} (here : sited st)
    (here' : sited st')
    (loaded : (p.store.load j.report.job st).1 = (p.store.load j.report.job st').1) :
    let out := p.reconcile j ⟨x, st, log⟩
    let out' := p.reconcile j ⟨x, st', log⟩
    out.1 = out'.1 ∧ out.2.tracker = out'.2.tracker ∧ out.2.log = out'.2.log ∧
      (p.store.load j.report.job out.2.store).1 = (p.store.load j.report.job out'.2.store).1 := by
  intro out out'
  cases reply : (p.store.load j.report.job st).1 with
  | ok r =>
    have alike : Scene.Parallel p.store sited j.report.job ⟨x, st, log⟩ ⟨x, st', log⟩ :=
      ⟨rfl, rfl, ⟨here, here'⟩, r, reply, loaded.symm.trans reply⟩
    obtain ⟨same, after⟩ := carry_parallel sec held j.only_plan alike
    obtain ⟨r', loaded, loaded'⟩ := after.loaded
    exact ⟨same, after.tracker, after.log, loaded.trans loaded'.symm⟩
  | error fault =>
    -- Nothing is loaded, and the cycle is over.
    have ends {st : σ} (here : sited st) (failed : (p.store.load j.report.job st).1 = .error fault) :
        p.reconcile j ⟨x, st, log⟩ =
          (.error fault, ⟨x, st, log ++ [.call (.load j.report.job) (.error fault)]⟩) := by
      have failed : p.store.load j.report.job st = (.error fault, st) :=
        Prod.ext failed (sec.load_sited here)
      rw [reconcile, Job.plan_eq, carry_ask_bind]
      simp [call, Cycle.onStore, failed]
    have failed' := loaded.symm.trans reply
    rw [show out = _ from ends here reply, show out' = _ from ends here' failed']
    exact ⟨rfl, rfl, rfl, loaded⟩

end Parties

theorem reconcile_sited {τ : Type} (t : Tracker τ) (b : Backend) (j : Job) (x : τ) (d : Depot)
    (sited : b.Sited d) (held : b.Holds j.report.number) :
    b.Sited ((Parties.mk t b.store).reconcile j ⟨x, d, []⟩).2.store :=
  (Parties.carry_apart (p := ⟨t, b.store⟩) b.secluding held j.only_plan sited).1

/-- Cycles of different jobs do not interfere. However a cycle ends, what can be loaded for another
job is as it was. And from any two stores that show the same of its own job, whatever they hold for
the others, the cycle makes the same calls, ends in the same way and leaves the same for its job.
The root of a directory has to lead downwards for this. -/
theorem reconcile_apart {τ : Type} (t : Tracker τ) (b : Backend) (j : Job) (x : τ) (d : Depot)
    (sited : b.Sited d) (held : b.Holds j.report.number) :
    let out := (Parties.mk t b.store).reconcile j ⟨x, d, []⟩
    (∀ other, b.Separates j.report.job other →
      (b.store.load other out.2.store).1 = (b.store.load other d).1) ∧
    ∀ d', b.Sited d' → (b.store.load j.report.job d).1 = (b.store.load j.report.job d').1 →
      let out' := (Parties.mk t b.store).reconcile j ⟨x, d', []⟩
      out.1 = out'.1 ∧ out.2.tracker = out'.2.tracker ∧ out.2.log = out'.2.log ∧
        (b.store.load j.report.job out.2.store).1 =
          (b.store.load j.report.job out'.2.store).1 := by
  intro out
  have sec : Secluding (Parties.mk t b.store).store b.Separates b.Sited b.Holds := b.secluding
  refine ⟨(Parties.carry_apart sec held j.only_plan sited).2, fun d' sited' loaded => ?_⟩
  exact Parties.reconcile_parallel sec held sited sited' loaded

/-- Below a root that is made on the way, a ticket of one job makes no difference to another. -/
theorem reconcile_apart_files :
    let b := Backend.files ["tickets"]
    let j := Job.plain "J" 7 .failure
    ∃ d : Depot, (b.store.load "K" d).1.toOption = some (some ⟨"T-101", some 3⟩) ∧
      let out := (Parties.mk Board.tracker b.store).reconcile j ⟨{}, {}, []⟩
      let out' := (Parties.mk Board.tracker b.store).reconcile j ⟨{}, d, []⟩
      out.2.log = out'.2.log ∧ (b.store.load "K" out'.2.store).1 = (b.store.load "K" d).1 := by
  intro b j
  have separate : b.Separates "K" j.report.job ∧ b.Separates j.report.job "K" := by decide +kernel
  have start : b.Sited {} := Store.Directory.sited_empty (by decide)
  obtain ⟨d, sited, shown, loaded⟩ : ∃ d, b.Sited d ∧
      (b.store.load "K" d).1.toOption = some (some ⟨"T-101", some 3⟩) ∧
      (b.store.load j.report.job d).1 = (b.store.load j.report.job {}).1 :=
    ⟨_, reconcile_sited Board.tracker b (.plain "K" 3 .failure) {} {} start trivial,
      by decide +kernel,
      (reconcile_apart Board.tracker b (.plain "K" 3 .failure) {} {} start trivial).1 _ separate.1⟩
  obtain ⟨frame, -⟩ := reconcile_apart Board.tracker b j {} d sited trivial
  obtain ⟨-, alike⟩ := reconcile_apart Board.tracker b j {} {} start trivial
  obtain ⟨-, -, log, -⟩ := alike d sited loaded.symm
  exact ⟨d, shown, log, frame "K" separate.2⟩

/-- On the way to the root a/../b the missing folder is made. What stands in b appears for another
job; and where b is a file that nothing showed, the cycle fails, as it does not in an empty tree. -/
theorem reconcile_meets_behind_detour :
    let detour := Backend.files ["a", "..", "b"]
    let cycle (b : Backend) (j : Job) (d : Depot) :=
      (Parties.mk Board.tracker b.store).reconcile j ⟨{}, d, []⟩
    let failing := Job.plain "J" 7 .failure
    let d := (cycle (.files ["b"]) (.plain "K" 3 .failure) {}).2.store
    let d' : Depot := { files := .put .empty ["b"] (.file []) }
    detour.Separates "J" "K" ∧ (detour.store.load "K" d).1.toOption = some none ∧
      (detour.store.load "K" (cycle detour failing d).2.store).1.toOption =
        some (some ⟨"T-101", some 3⟩) ∧
      (detour.store.load "J" {}).1.toOption = some none ∧
      (detour.store.load "J" d').1.toOption = some none ∧
      (cycle detour failing {}).1.toOption.isSome = true ∧
      (cycle detour failing d').1.toOption.isSome = false := by
  refine ⟨?_, ?_, ?_, ?_, ?_, ?_, ?_⟩
  all_goals decide +kernel

end TicketKeeper
