import TicketKeeper.Rehearsal

/-! The paths through a plan, and what becomes of a tracker and a store on a path. -/
namespace TicketKeeper

abbrev Exchange := (c : Call) × Except Fault c.Reply

def Event.exchange? : Event → Option Exchange
  | .call c reply => some ⟨c, reply⟩
  | .wire _ => none

def exchanges (log : List Event) : List Exchange := log.filterMap Event.exchange?

@[simp] theorem exchanges_nil : exchanges [] = [] := rfl

@[simp] theorem exchanges_append (log more : List Event) :
    exchanges (log ++ more) = exchanges log ++ exchanges more :=
  List.filterMap_append

@[simp] theorem exchanges_call (c : Call) (reply : Except Fault c.Reply) (log : List Event) :
    exchanges (.call c reply :: log) = ⟨c, reply⟩ :: exchanges log := rfl

@[simp] theorem exchanges_wire (wire : List WireEvent) : exchanges (wire.map .wire) = [] := by
  induction wire with
  | nil => rfl
  | cons e wire ih => exact ih

namespace Plan

variable {α β : Type}

/-- A path through a plan: its calls with their replies, and what it gives in the end. -/
inductive Path : Plan α → List Exchange → Except Fault α → Prop
  | give (a : α) : Path (.give a) [] (.ok a)
  | fail (fault : Fault) : Path (.fail fault) [] (.error fault)
  | call {c : Call} {next : Except Fault c.Reply → Plan α} {reply es r} :
    Path (next reply) es r → Path (.call c next) (⟨c, reply⟩ :: es) r

theorem path_give {a : α} {es r} : Path (.give a) es r ↔ es = [] ∧ r = .ok a := by
  constructor
  · rintro ⟨⟩
    exact ⟨rfl, rfl⟩
  · rintro ⟨rfl, rfl⟩
    exact .give a

theorem path_pure {a : α} {es r} : Path (pure a) es r ↔ es = [] ∧ r = .ok a := path_give

theorem path_fail {fault : Fault} {es r} :
    Path (.fail fault : Plan α) es r ↔ es = [] ∧ r = .error fault := by
  constructor
  · rintro ⟨⟩
    exact ⟨rfl, rfl⟩
  · rintro ⟨rfl, rfl⟩
    exact .fail fault

theorem path_call {c : Call} {next : Except Fault c.Reply → Plan α} {es r} :
    Path (.call c next) es r ↔ ∃ reply rest, es = ⟨c, reply⟩ :: rest ∧ Path (next reply) rest r := by
  constructor
  · rintro ⟨⟩
    exact ⟨_, _, rfl, ‹_›⟩
  · rintro ⟨reply, rest, rfl, h⟩
    exact .call h

theorem path_bind {x : Plan α} {f : α → Plan β} {es r} :
    Path (x >>= f) es r ↔
      (∃ fault, r = .error fault ∧ Path x es (.error fault)) ∨
      ∃ a first rest, es = first ++ rest ∧ Path x first (.ok a) ∧ Path (f a) rest r := by
  induction x generalizing es with
  | give a =>
    simp only [give_bind, path_give]
    constructor
    · intro h
      exact .inr ⟨a, [], es, rfl, ⟨rfl, rfl⟩, h⟩
    · rintro (⟨fault, -, -, ⟨⟩⟩ | ⟨_, _, rest, rfl, ⟨rfl, ⟨⟩⟩, h⟩)
      exact h
  | fail fault =>
    simp only [fail_bind, path_fail]
    constructor
    · rintro ⟨rfl, rfl⟩
      exact .inl ⟨fault, rfl, rfl, rfl⟩
    · rintro (⟨_, rfl, rfl, ⟨⟩⟩ | ⟨_, _, _, -, ⟨-, ⟨⟩⟩, -⟩)
      exact ⟨rfl, rfl⟩
  | call c next ih =>
    simp only [call_bind, path_call, ih]
    constructor
    · rintro ⟨reply, rest, rfl, ⟨fault, rfl, h⟩ | ⟨a, first, rest, rfl, h, h'⟩⟩
      · exact .inl ⟨fault, rfl, reply, rest, rfl, h⟩
      · exact .inr ⟨a, ⟨c, reply⟩ :: first, rest, rfl, ⟨reply, first, rfl, h⟩, h'⟩
    · rintro (⟨fault, rfl, reply, rest, rfl, h⟩ | ⟨a, _, rest, rfl, ⟨reply, first, rfl, h⟩, h'⟩)
      · exact ⟨reply, rest, rfl, .inl ⟨fault, rfl, h⟩⟩
      · exact ⟨reply, first ++ rest, rfl, .inr ⟨a, first, rest, rfl, h, h'⟩⟩

theorem ask_bind (c : Call) (f : c.Reply → Plan β) :
    Plan.ask c >>= f = .call c fun
      | .ok a => f a
      | .error fault => .fail fault := by
  refine congrArg (Plan.call c) (funext fun reply => ?_)
  cases reply <;> rfl

theorem path_ask {c : Call} {es r} : Path (ask c) es r ↔ es = [⟨c, r⟩] := by
  simp only [ask, path_call]
  constructor
  · rintro ⟨_ | _, rest, rfl, ⟨⟩⟩ <;> rfl
  · rintro rfl
    refine ⟨r, [], rfl, ?_⟩
    cases r with
    | ok a => exact .give a
    | error fault => exact .fail fault

theorem path_ask_bind {c : Call} {f : c.Reply → Plan β} {es r} :
    Path (ask c >>= f) es r ↔ (∃ fault, es = [⟨c, .error fault⟩] ∧ r = .error fault) ∨
      ∃ a rest, es = ⟨c, .ok a⟩ :: rest ∧ Path (f a) rest r := by
  simp only [path_bind, path_ask]
  constructor
  · rintro (⟨fault, rfl, rfl⟩ | ⟨a, _, rest, rfl, rfl, h⟩)
    · exact .inl ⟨fault, rfl, rfl⟩
    · exact .inr ⟨a, rest, rfl, h⟩
  · rintro (⟨fault, rfl, rfl⟩ | ⟨a, rest, rfl, h⟩)
    · exact .inl ⟨fault, rfl, rfl⟩
    · exact .inr ⟨a, [_], rest, rfl, rfl, h⟩

theorem path_orFail_bind {x : Except Fault α} {f : α → Plan β} {es r} :
    Path (orFail x >>= f) es r ↔ (∃ fault, x = .error fault ∧ es = [] ∧ r = .error fault) ∨
      ∃ a, x = .ok a ∧ Path (f a) es r := by
  cases x with
  | ok a => simp [orFail]
  | error fault => simp [orFail, path_fail]

end Plan

section Replays

variable {τ σ : Type}

def Store.Serves (s : Store σ) : Exchange → σ → σ → Prop
  | ⟨.load job, reply⟩, st, st' => s.load job st = (reply, st')
  | ⟨.save job key build, reply⟩, st, st' => s.save job (some key) (some build) st = (reply, st')
  | ⟨.markBuild job build, reply⟩, st, st' => s.markBuild job (some build) st = (reply, st')
  | ⟨.clear job, reply⟩, st, st' => s.clear job st = (reply, st')
  | ⟨.create _, _⟩, st, st' | ⟨.status _, _⟩, st, st' | ⟨.comment .., _⟩, st, st' => st' = st

def Store.Replays (s : Store σ) : List Exchange → σ → σ → Prop
  | [], st, st' => st' = st
  | e :: es, st, st' => ∃ mid, s.Serves e st mid ∧ s.Replays es mid st'

def Tracker.Serves (t : Tracker τ) : Exchange → τ → τ → Prop
  | ⟨.create form, reply⟩, x, x' => (t.create form x).result = reply ∧ (t.create form x).next = x'
  | ⟨.status key, reply⟩, x, x' => (t.status key x).result = reply ∧ (t.status key x).next = x'
  | ⟨.comment key text, reply⟩, x, x' =>
    (t.comment key text x).result = reply ∧ (t.comment key text x).next = x'
  | ⟨.load _, _⟩, x, x' | ⟨.save .., _⟩, x, x' | ⟨.markBuild .., _⟩, x, x' | ⟨.clear _, _⟩, x, x' =>
    x' = x

def Tracker.Replays (t : Tracker τ) : List Exchange → τ → τ → Prop
  | [], x, x' => x' = x
  | e :: es, x, x' => ∃ mid, t.Serves e x mid ∧ t.Replays es mid x'

theorem Store.replays_append {s : Store σ} {es more : List Exchange} {st st' : σ} :
    s.Replays (es ++ more) st st' ↔ ∃ mid, s.Replays es st mid ∧ s.Replays more mid st' := by
  induction es generalizing st with
  | nil => simp [Replays]
  | cons e es ih =>
    simp only [List.cons_append, Replays, ih]
    constructor
    · rintro ⟨a, h, b, h', h''⟩
      exact ⟨b, ⟨a, h, h'⟩, h''⟩
    · rintro ⟨b, ⟨a, h, h'⟩, h''⟩
      exact ⟨a, h, b, h', h''⟩

theorem Tracker.replays_append {t : Tracker τ} {es more : List Exchange} {x x' : τ} :
    t.Replays (es ++ more) x x' ↔ ∃ mid, t.Replays es x mid ∧ t.Replays more mid x' := by
  induction es generalizing x with
  | nil => simp [Replays]
  | cons e es ih =>
    simp only [List.cons_append, Replays, ih]
    constructor
    · rintro ⟨a, h, b, h', h''⟩
      exact ⟨b, ⟨a, h, h'⟩, h''⟩
    · rintro ⟨b, ⟨a, h, h'⟩, h''⟩
      exact ⟨a, h, b, h', h''⟩

namespace Parties

variable {α : Type} (p : Parties τ σ)

theorem call_spec (c : Call) (scene : Scene τ σ) :
    p.store.Serves ⟨c, (p.call c scene).1⟩ scene.store (p.call c scene).2.store ∧
      p.tracker.Serves ⟨c, (p.call c scene).1⟩ scene.tracker (p.call c scene).2.tracker ∧
      exchanges (p.call c scene).2.log = exchanges scene.log ++ [⟨c, (p.call c scene).1⟩] := by
  cases c <;>
    simp [call, Cycle.onStore, Cycle.onTracker, Store.Serves, Tracker.Serves]

theorem carry_call (c : Call) (next : Except Fault c.Reply → Plan α) (scene : Scene τ σ) :
    p.carry (.call c next) scene = p.carry (next (p.call c scene).1) (p.call c scene).2 := rfl

theorem carry_bind {β : Type} (x : Plan α) (f : α → Plan β) (scene : Scene τ σ) :
    p.carry (x >>= f) scene = match p.carry x scene with
      | (.ok a, scene) => p.carry (f a) scene
      | (.error fault, scene) => (.error fault, scene) := by
  induction x generalizing scene with
  | give a => rfl
  | fail fault => rfl
  | call c next ih => exact ih _ _

theorem carry_bind_ok {p : Parties τ σ} {β : Type} {x : Plan α} {a : α} {s s' : Scene τ σ}
    (h : p.carry x s = (.ok a, s')) (f : α → Plan β) :
    p.carry (x >>= f) s = p.carry (f a) s' := by
  rw [carry_bind, h]

theorem carry_bind_error {p : Parties τ σ} {β : Type} {x : Plan α} {fault : Fault} {s : Scene τ σ}
    (h : (p.carry x s).1 = .error fault) (f : α → Plan β) :
    p.carry (x >>= f) s = (.error fault, (p.carry x s).2) := by
  rw [carry_bind, show p.carry x s = (.error fault, (p.carry x s).2) from Prod.ext h rfl]

theorem carry_ask_bind (c : Call) (f : c.Reply → Plan α) (scene : Scene τ σ) :
    p.carry (Plan.ask c >>= f) scene = match p.call c scene with
      | (.ok a, scene) => p.carry (f a) scene
      | (.error fault, scene) => (.error fault, scene) := by
  rw [Plan.ask_bind, carry_call]
  rcases p.call c scene with ⟨_ | _, _⟩ <;> rfl

/-- Parties that carry out a plan go along a path. -/
theorem carry_spec (x : Plan α) (scene : Scene τ σ) :
    ∃ es, x.Path es (p.carry x scene).1 ∧
      p.store.Replays es scene.store (p.carry x scene).2.store ∧
      p.tracker.Replays es scene.tracker (p.carry x scene).2.tracker ∧
      exchanges (p.carry x scene).2.log = exchanges scene.log ++ es := by
  induction x generalizing scene with
  | give a => exact ⟨[], .give a, rfl, rfl, (List.append_nil _).symm⟩
  | fail fault => exact ⟨[], .fail fault, rfl, rfl, (List.append_nil _).symm⟩
  | call c next ih =>
    obtain ⟨served, told, logged⟩ := p.call_spec c scene
    obtain ⟨es, path, stored, tracked, rest⟩ := ih (p.call c scene).1 (p.call c scene).2
    refine ⟨_, .call path, ⟨_, served, stored⟩, ⟨_, told, tracked⟩, ?_⟩
    rw [logged, List.append_assoc] at rest
    exact rest

end Parties

end Replays

end TicketKeeper
