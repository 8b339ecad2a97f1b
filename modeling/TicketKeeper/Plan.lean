import TicketKeeper.Store.Record
import TicketKeeper.Tracker

/-! Plans of calls on a store and a tracker. A plan says what to call, and for everything that may
become of a call how to go on. It knows no store and no tracker: parties carry it out. -/
namespace TicketKeeper

inductive Call
  | load (job : String)
  | save (job key : String) (build : Int)
  | markBuild (job : String) (build : Int)
  | clear (job : String)
  | create (form : IssueForm)
  | status (key : String)
  | comment (key text : String)
deriving DecidableEq, Repr

@[reducible] def Call.Reply : Call → Type
  | load _ => Option Record
  | create _ => Issue
  | status _ => String
  | save .. | markBuild .. | clear _ | comment .. => Unit

inductive Plan (α : Type) : Type where
  | give (a : α)
  | fail (fault : Fault)
  | call (c : Call) (next : Except Fault c.Reply → Plan α)

namespace Plan

variable {α β : Type}

protected def bind : Plan α → (α → Plan β) → Plan β
  | give a, f => f a
  | fail fault, _ => fail fault
  | call c next, f => call c fun reply => (next reply).bind f

instance : Monad Plan where
  pure := give
  bind := Plan.bind

def ask (c : Call) : Plan c.Reply :=
  call c fun
    | .ok a => give a
    | .error fault => fail fault

def orFail : Except Fault α → Plan α
  | .ok a => give a
  | .error fault => fail fault

@[simp] theorem give_bind (a : α) (f : α → Plan β) : give a >>= f = f a := rfl

@[simp] theorem pure_bind (a : α) (f : α → Plan β) : (pure a : Plan α) >>= f = f a := rfl

@[simp] theorem fail_bind (fault : Fault) (f : α → Plan β) : fail fault >>= f = fail fault := rfl

@[simp] theorem call_bind (c : Call) (next : Except Fault c.Reply → Plan α) (f : α → Plan β) :
    call c next >>= f = call c fun reply => next reply >>= f := rfl

theorem bind_assoc {γ : Type} (x : Plan α) (f : α → Plan β) (g : β → Plan γ) :
    x >>= f >>= g = x >>= fun a => f a >>= g := by
  induction x with
  | give a => rfl
  | fail fault => rfl
  | call c next ih => exact congrArg (call c) (funext ih)

theorem bind_pure (x : Plan α) : x >>= pure = x := by
  induction x with
  | give a => rfl
  | fail fault => rfl
  | call c next ih => exact congrArg (call c) (funext ih)

end Plan

inductive Event
  | call (c : Call) (reply : Except Fault c.Reply)
  | wire (e : WireEvent)

structure Scene (τ σ : Type) where
  tracker : τ
  store : σ
  log : List Event := []

abbrev Cycle (τ σ : Type) := ExceptT Fault (StateM (Scene τ σ))

namespace Cycle

variable {τ σ : Type}

def onStore (c : Call) (act : Act σ c.Reply) : Cycle τ σ c.Reply :=
  fun (scene : Scene τ σ) =>
    let (reply, store) := act scene.store
    (reply, { scene with
      store := store
      log := scene.log ++ [.call c reply] })

/-- Makes a call on the tracker; what goes over the wire is logged behind it. -/
def onTracker (c : Call) (act : τ → Turn τ c.Reply) : Cycle τ σ c.Reply :=
  fun (scene : Scene τ σ) =>
    let turn := act scene.tracker
    (turn.result, { scene with
      tracker := turn.next
      log := scene.log ++ .call c turn.result :: turn.wire.map .wire })

end Cycle

structure Parties (τ σ : Type) where
  tracker : Tracker τ
  store : Store σ

namespace Parties

variable {τ σ α : Type} (p : Parties τ σ)

def call : (c : Call) → Cycle τ σ c.Reply
  | .load job => Cycle.onStore (.load job) (p.store.load job)
  | .save job key build =>
    Cycle.onStore (.save job key build) (p.store.save job (some key) (some build))
  | .markBuild job build => Cycle.onStore (.markBuild job build) (p.store.markBuild job (some build))
  | .clear job => Cycle.onStore (.clear job) (p.store.clear job)
  | .create form => Cycle.onTracker (.create form) (p.tracker.create form)
  | .status key => Cycle.onTracker (.status key) (p.tracker.status key)
  | .comment key text => Cycle.onTracker (.comment key text) (p.tracker.comment key text)

def carry : Plan α → Cycle τ σ α
  | .give a => return a
  | .fail fault => throw fault
  | .call c next => fun (scene : Scene τ σ) =>
    let (reply, scene) := p.call c scene
    carry (next reply) scene

end Parties

end TicketKeeper
