import TicketKeeper.Rehearsal
import TicketKeeper.Proofs.Store.IssueFile

/-! What cycles rely on in a store, whatever it is made of: each job has a record of its own, writes
change it as they say or not at all, and loads change nothing. -/
namespace TicketKeeper

open TicketKeeper.Text (IsLine)

variable {σ : Type}

namespace Store

inductive Write
  | save (key : Option String) (build : Option Int)
  | markBuild (build : Option Int)
  | clear
deriving DecidableEq

def write (s : Store σ) (job : String) : Write → Act σ Unit
  | .save key build => s.save job key build
  | .markBuild build => s.markBuild job build
  | .clear => s.clear job

end Store

structure Keeping (s : Store σ) where
  stands : σ → String → Option Record
  /-- The record of a job can be found. From a store that is not awake for a job nothing is loaded,
  whatever stands there. -/
  awake : σ → String → Prop
  /-- The first job has no part in the record of the second. -/
  apart : String → String → Prop
  load_ok {job st r} : (s.load job st).1 = .ok r → (s.load job st).2 = st
  stands_load (job st) : stands (s.load job st).2 = stands st
  awake_load {job st other} : awake st other → awake (s.load job st).2 other
  found {job st r} : (s.load job st).1 = .ok (some r) → stands st job = some r ∧ awake st job
  missing {job st} : (s.load job st).1 = .ok none → awake st job → stands st job = none
  write_apart {job other st} (w) : apart job other →
    stands (s.write job w st).2 other = stands st other
  write_error {job w st f} : (s.write job w st).1 = .error f → stands (s.write job w st).2 = stands st
  awake_write {job st other} (w) : awake st other → awake (s.write job w st).2 other
  save_ok {job key n st} : (s.save job (some key) (some n) st).1 = .ok () → Tidy key →
    awake (s.save job (some key) (some n) st).2 job ∧
      ∃ shown, stands (s.save job (some key) (some n) st).2 job = some ⟨shown, some n⟩ ∧
        shown ≠ "" ∧ (IsLine key.toList → shown = key)
  markBuild_ok {job n st r} : (s.markBuild job (some n) st).1 = .ok () → awake st job →
    stands st job = some r →
    stands (s.markBuild job (some n) st).2 job = some { r with build := some n }
  clear_ok {job st} : (s.clear job st).1 = .ok () → awake st job →
    stands (s.clear job st).2 job = none

/-- A store that answers. A store is calm when no transaction on it is broken off. -/
structure Answering (s : Store σ) (calm : σ → Prop) : Prop where
  load_calm {job st} : calm st → (s.load job st).2 = st
  write_calm {job w st} : calm st → (s.write job w st).1 = .ok () → calm (s.write job w st).2
  write_ok {job w st} : (s.write job w st).1 = .ok () →
    ∃ r, (s.load job (s.write job w st).2).1 = .ok r

theorem Answering.load_cleared {s : Store σ} {calm : σ → Prop} (answers : Answering s calm)
    (k : Keeping s) {job : String} {st st' : σ} (cleared : s.clear job st = (.ok (), st'))
    (awake : k.awake st job) : s.load job st' = (.ok none, st') := by
  have ok : (s.clear job st).1 = .ok () := congrArg Prod.fst cleared
  have vacant := k.clear_ok ok awake
  obtain ⟨r, loaded⟩ := answers.write_ok (w := .clear) ok
  rw [cleared] at vacant
  rw [Store.write, cleared] at loaded
  cases r with
  | none => exact Prod.ext loaded (k.load_ok loaded)
  | some r =>
    rw [(k.found loaded).1] at vacant
    cases vacant

namespace Faults

variable {α : Type}

theorem act_cases (faults : Faults) (kind : CallKind) (act : Act σ α) (st : σ) :
    (faults.act kind act st = act st) ∨ ∃ f, faults.act kind act st = (.error f, st) := by
  unfold Faults.act
  cases faults kind with
  | some f => exact .inr ⟨f, rfl⟩
  | none => exact .inl rfl

theorem act_ok {faults : Faults} {kind : CallKind} {act : Act σ α} {st : σ} {a : α}
    (h : (faults.act kind act st).1 = .ok a) : faults.act kind act st = act st := by
  rcases act_cases faults kind act st with same | ⟨f, fails⟩
  · exact same
  · rw [fails] at h
    contradiction

end Faults

theorem Store.withFaults_write (s : Store σ) (faults : Faults) (job : String) (w : Write) (st : σ) :
    (s.withFaults faults).write job w st = s.write job w st ∨
      ∃ f, (s.withFaults faults).write job w st = (.error f, st) := by
  cases w <;> exact Faults.act_cases ..

def Keeping.withFaults {s : Store σ} (k : Keeping s) (faults : Faults) :
    Keeping (s.withFaults faults) where
  stands := k.stands
  awake := k.awake
  apart := k.apart
  load_ok h := by
    have same := Faults.act_ok h
    simp only [Store.withFaults, same] at h ⊢
    exact k.load_ok h
  stands_load job st := by
    rcases Faults.act_cases faults .load (s.load job) st with same | ⟨f, fails⟩
    · simp only [Store.withFaults, same, k.stands_load]
    · simp only [Store.withFaults, fails]
  awake_load {job st _} h := by
    rcases Faults.act_cases faults .load (s.load job) st with same | ⟨f, fails⟩
    · simp only [Store.withFaults, same]
      exact k.awake_load h
    · simpa only [Store.withFaults, fails] using h
  found h := by
    have same := Faults.act_ok h
    simp only [Store.withFaults, same] at h
    exact k.found h
  missing h awake := by
    have same := Faults.act_ok h
    simp only [Store.withFaults, same] at h
    exact k.missing h awake
  write_apart {job _ st} w h := by
    rcases s.withFaults_write faults job w st with same | ⟨f, fails⟩
    · rw [same, k.write_apart w h]
    · rw [fails]
  write_error {job w st _} h := by
    rcases s.withFaults_write faults job w st with same | ⟨f, fails⟩
    · rw [same] at h ⊢
      exact k.write_error h
    · rw [fails]
  awake_write {job st _} w h := by
    rcases s.withFaults_write faults job w st with same | ⟨f, fails⟩
    · rw [same]
      exact k.awake_write w h
    · rwa [fails]
  save_ok h tidy := by
    have same := Faults.act_ok h
    simp only [Store.withFaults, same] at h ⊢
    exact k.save_ok h tidy
  markBuild_ok h awake hr := by
    have same := Faults.act_ok h
    simp only [Store.withFaults, same] at h ⊢
    exact k.markBuild_ok h awake hr
  clear_ok h awake := by
    have same := Faults.act_ok h
    simp only [Store.withFaults, same] at h ⊢
    exact k.clear_ok h awake

end TicketKeeper
