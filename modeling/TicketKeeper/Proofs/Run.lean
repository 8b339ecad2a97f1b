import TicketKeeper.Proofs.Cycle.Account
import TicketKeeper.Proofs.Store.Depot

/-! Runs of cycles on one tracker and one depot, with faults on any calls, new sessions, and a
tracker that others change meanwhile. -/
namespace TicketKeeper

open Store (Backend Depot)

structure Entry where
  job : Job
  calls : List Exchange

structure World (τ : Type) where
  tracker : τ
  depot : Depot
  history : List Entry := []

inductive Move (τ : Type)
  | cycle (job : Job) (faults : Faults)
  | session
  | outside (change : τ → τ)

namespace World

variable {τ : Type}

def move (t : Tracker τ) (b : Backend) (w : World τ) : Move τ → World τ
  | .cycle j faults =>
    let parties := (Parties.mk t b.store).withFaults faults
    let scene := (parties.reconcile j ⟨w.tracker, w.depot, []⟩).2
    ⟨scene.tracker, scene.store, w.history ++ [⟨j, exchanges scene.log⟩]⟩
  | .session => { w with depot := w.depot.newSession }
  | .outside change => { w with tracker := change w.tracker }

def run (t : Tracker τ) (b : Backend) (w : World τ) (moves : List (Move τ)) : World τ :=
  moves.foldl (move t b) w

variable {t : Tracker τ} {b : Backend} {w : World τ}

@[simp] theorem run_nil : w.run t b [] = w := rfl

theorem run_append (moves more : List (Move τ)) :
    w.run t b (moves ++ more) = (w.run t b moves).run t b more := List.foldl_append

theorem run_concat (moves : List (Move τ)) (m : Move τ) :
    w.run t b (moves ++ [m]) = (w.run t b moves).move t b m := run_append ..

theorem move_cases (t : Tracker τ) (b : Backend) (w : World τ) (m : Move τ) :
    (∃ j faults es record, (w.move t b m).history = w.history ++ [⟨j, es⟩] ∧
      j.Account (b.keeping.withFaults faults) es record w.depot (w.move t b m).depot) ∨
    ((w.move t b m).history = w.history ∧
      b.keeping.stands (w.move t b m).depot = b.keeping.stands w.depot ∧
      b.keeping.awake (w.move t b m).depot = b.keeping.awake w.depot) := by
  cases m with
  | cycle j faults =>
    left
    let parties := (Parties.mk t b.store).withFaults faults
    obtain ⟨es, path, stored, -, logged⟩ := parties.carry_spec j.plan ⟨w.tracker, w.depot, []⟩
    obtain ⟨record, account⟩ := (Job.course path).account (b.keeping.withFaults faults) stored
    refine ⟨j, faults, es, record, ?_, account⟩
    exact congrArg (fun es => w.history ++ [⟨j, es⟩]) (by simpa using logged)
  | session => exact .inr ⟨rfl, b.stands_newSession _, b.awake_newSession _⟩
  | outside change => exact .inr ⟨rfl, rfl, rfl⟩

theorem history_prefix_move (t : Tracker τ) (b : Backend) (w : World τ) (m : Move τ) :
    w.history <+: (w.move t b m).history := by
  obtain ⟨j, faults, es, record, grown, -⟩ | ⟨same, -, -⟩ := move_cases t b w m
  · exact ⟨_, grown.symm⟩
  · exact ⟨[], by rw [List.append_nil, same]⟩

theorem history_prefix_run (t : Tracker τ) (b : Backend) (w : World τ) (moves : List (Move τ)) :
    w.history <+: (w.run t b moves).history := by
  induction moves generalizing w with
  | nil => exact List.prefix_rfl
  | cons m moves ih => exact (history_prefix_move t b w m).trans (ih (w.move t b m))

end World

def Job.plain (job : String) (number : Int) (outcome : Outcome) : Job where
  report := { job := job, number := number, outcome := outcome, previous := some .success }
  rootUrl := ""
  profile := { projectKey := "T" }
  commentOnForget := true
  extra := []

def Store.Depot.tracking (job key : String) (n : Int) : Store.Depot where
  table := ⟨some [⟨job, key, some n⟩], false⟩

end TicketKeeper
