import TicketKeeper.Cycle

/-! Parties that fault on demand. A call that is to fault does nothing else. -/
namespace TicketKeeper

inductive CallKind
  | load
  | save
  | markBuild
  | clear
  | create
  | status
  | comment
deriving DecidableEq, Repr

abbrev Faults := CallKind → Option Fault

namespace Faults

def none : Faults := fun _ => Option.none

def act {σ α : Type} (faults : Faults) (kind : CallKind) (act : Act σ α) : Act σ α :=
  match faults kind with
  | some f => fun s => (.error f, s)
  | Option.none => act

def turn {τ α : Type} (faults : Faults) (kind : CallKind) (turn : τ → Turn τ α) : τ → Turn τ α :=
  match faults kind with
  | some f => fun t => ⟨.error f, t, []⟩
  | Option.none => turn

end Faults

def Store.withFaults {σ : Type} (s : Store σ) (faults : Faults) : Store σ where
  load job := faults.act .load (s.load job)
  save job key build := faults.act .save (s.save job key build)
  markBuild job build := faults.act .markBuild (s.markBuild job build)
  clear job := faults.act .clear (s.clear job)

def Tracker.withFaults {τ : Type} (t : Tracker τ) (faults : Faults) : Tracker τ where
  create form := faults.turn .create (t.create form)
  status key := faults.turn .status (t.status key)
  comment key text := faults.turn .comment (t.comment key text)

def Parties.withFaults {τ σ : Type} (p : Parties τ σ) (faults : Faults) : Parties τ σ :=
  ⟨p.tracker.withFaults faults, p.store.withFaults faults⟩

end TicketKeeper
