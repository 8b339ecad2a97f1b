import TicketKeeper.Proofs.Store.KeyedMap

/-! Transactions that fail. A call on the table fails with a failure of the store and is as if it
had not been made, unless its number does not fit the column. Such a call ends with a defect and is
not rolled back: the next call, whatever it is, fails in its place. -/
namespace TicketKeeper.Store

def Op.access : Op → Access
  | .load _ => .read
  | .write _ (.save _ _) | .write _ (.markBuild _) => .write
  | .write _ .clear => .delete

namespace Table

variable {t : Table} {op : Op}

/-- A call of the store, or a change of the schema by someone else. -/
inductive Incident
  | call (op : Op)
  | drop
  | create

def undergo : Incident → Act Table Answer
  | .call op => table.call op
  | .drop => fun t => (.ok .done, { t with rows := none })
  | .create => fun t => (.ok .done, { t with rows := some (t.rows.getD []) })

def undergoAll : List Incident → Table → List (Except Fault Answer) × Table
  | [], t => ([], t)
  | i :: is, t =>
    ((undergo i t).1 :: (undergoAll is (undergo i t).2).1, (undergoAll is (undergo i t).2).2)

/-- The call has a number to put into a row, and the number does not fit. -/
def Overflows (op : Op) (t : Table) : Prop :=
  match op with
  | .write _ (.save _ build) => t.rows.isSome = true ∧ build.all fits = false
  | .write job (.markBuild build) => (stands t job).isSome = true ∧ build.all fits = false
  | .load _ | .write _ .clear => False

/-- If the call fails it tells a failure of the store, changes no row, and whatever happens later
happens as without it. -/
structure Traceless (op : Op) (t : Table) : Prop where
  told {f : Fault} : (table.call op t).1 = .error f → f = failed op.access op.job
  rows {f : Fault} : (table.call op t).1 = .error f → (table.call op t).2.rows = t.rows
  later {f : Fault} : (table.call op t).1 = .error f → ∀ is,
    (undergoAll is (table.call op t).2).1 = (undergoAll is t).1

def Along (p : Op → Table → Prop) : List Incident → Table → Prop
  | [], _ => True
  | .call op :: is, t => p op t ∧ Along p is (table.call op t).2
  | .drop :: is, t => Along p is (undergo .drop t).2
  | .create :: is, t => Along p is (undergo .create t).2

/-! ### One call -/

inductive Outcome (op : Op) (t : Table) : Except Fault Answer × Table → Prop
  | done (a : Answer) (rows : List Row) (fit : ¬Overflows op t) :
      Outcome op t (.ok a, { t with rows := some rows })
  | refused (fit : ¬Overflows op t) : Outcome op t (.error (failed op.access op.job), t)
  | overflown (unfit : Overflows op t) :
      Outcome op t (.error (.defect .outOfRange), { t with broken := true })

/-- A transaction that finds another one broken or no table ends the broken one, and nothing else.
-/
theorem transact_refused {α : Type} (stuck : t.broken = true ∨ t.rows = none) (access : Access)
    (job : String) (run : List Row → Except Fault (α × List Row)) :
    transact access job run t = (.error (failed access job), { t with broken := false }) := by
  obtain ⟨rows, broken⟩ := t
  cases broken with
  | true => rfl
  | false =>
    obtain rfl : rows = none := stuck.resolve_left Bool.false_ne_true
    rfl

theorem call_refused (stuck : t.broken = true ∨ t.rows = none) (op : Op) :
    table.call op t = (.error (failed op.access op.job), { t with broken := false }) := by
  rcases op with job | ⟨job, w⟩
  · simp only [Store.call, table, load, transact_refused stuck, Except.map, Op.access, Op.job]
  · cases w <;>
      simp only [Store.call, Store.write, table, save, markBuild, clear, transact_refused stuck,
        Except.map, Op.access, Op.job]

theorem call_absent (calm : t.broken = false) (absent : t.rows = none) (op : Op) :
    table.call op t = (.error (failed op.access op.job), t) := by
  rw [call_refused (.inr absent), ← calm]

theorem not_overflows_of_absent (absent : t.rows = none) (op : Op) : ¬Overflows op t := by
  rcases op with job | ⟨job, w⟩
  · exact nofun
  · cases w <;> simp [Overflows, stands, absent]

theorem outcome_save (rows : List Row) (job : String) (key : Option String) (build : Option Int) :
    Outcome (.write job (.save key build)) ⟨some rows, false⟩
      (table.call (.write job (.save key build)) ⟨some rows, false⟩) := by
  change Outcome _ _ ((save job key build ⟨some rows, false⟩).1.map fun _ => .done,
    (save job key build ⟨some rows, false⟩).2)
  cases fit : build.all fits with
  | false =>
    simp only [save, transact, fit]
    exact .overflown ⟨rfl, fit⟩
  | true =>
    have unharmed : ¬Overflows (.write job (.save key build)) ⟨some rows, false⟩ := by
      simp [Overflows, fit]
    cases key with
    | none =>
      simp only [save, transact, fit]
      exact .refused unharmed
    | some key =>
      simp only [save, transact, fit]
      exact .done .done _ unharmed

theorem outcome_markBuild (rows : List Row) (job : String) (build : Option Int) :
    Outcome (.write job (.markBuild build)) ⟨some rows, false⟩
      (table.call (.write job (.markBuild build)) ⟨some rows, false⟩) := by
  change Outcome _ _ ((markBuild job build ⟨some rows, false⟩).1.map fun _ => .done,
    (markBuild job build ⟨some rows, false⟩).2)
  have shown : stands ⟨some rows, false⟩ job = (find? rows job).map fun r => ⟨r.key, r.build⟩ :=
    stands_of_rows rfl
  cases found : find? rows job with
  | none =>
    simp only [markBuild, transact, found]
    exact .done .done rows (by simp [Overflows, shown, found])
  | some r =>
    cases fit : build.all fits with
    | false =>
      simp only [markBuild, transact, found, fit]
      exact .overflown ⟨by simp [shown, found], fit⟩
    | true =>
      simp only [markBuild, transact, found, fit]
      exact .done .done _ (by simp [Overflows, fit])

theorem outcome (calm : t.broken = false) (op : Op) : Outcome op t (table.call op t) := by
  obtain ⟨_ | rows, broken⟩ := t <;> obtain rfl : broken = false := calm
  · rw [call_absent rfl rfl]
    exact .refused (not_overflows_of_absent rfl op)
  rcases op with job | ⟨job, w⟩
  · exact .done _ rows nofun
  · cases w with
    | save key build => exact outcome_save rows job key build
    | markBuild build => exact outcome_markBuild rows job build
    | clear => exact .done _ _ nofun

theorem call_of_overflows (calm : t.broken = false) (unfit : Overflows op t) :
    table.call op t = (.error (.defect .outOfRange), { t with broken := true }) := by
  have out := outcome calm op
  generalize table.call op t = r at out ⊢
  cases out with
  | done a rows fit => exact absurd unfit fit
  | refused fit => exact absurd unfit fit
  | overflown => rfl

theorem call_of_error {f : Fault} (calm : t.broken = false) (fit : ¬Overflows op t)
    (stopped : (table.call op t).1 = .error f) :
    table.call op t = (.error (failed op.access op.job), t) := by
  have out := outcome calm op
  generalize table.call op t = r at out stopped ⊢
  cases out with
  | done a rows => cases stopped
  | refused => rfl
  | overflown unfit => exact absurd unfit fit

theorem calm_call (calm : t.broken = false) (fit : ¬Overflows op t) :
    (table.call op t).2.broken = false := by
  have out := outcome calm op
  generalize table.call op t = r at out ⊢
  cases out with
  | done a rows => exact calm
  | refused => exact calm
  | overflown unfit => exact absurd unfit fit

theorem traceless_iff (calm : t.broken = false) : Traceless op t ↔ ¬Overflows op t := by
  constructor
  · intro traceless unfit
    have out := call_of_overflows calm unfit
    cases traceless.told (congrArg Prod.fst out)
  · intro fit
    refine ⟨fun stopped => ?_, fun stopped => ?_, fun stopped is => ?_⟩
    · rw [call_of_error calm fit stopped] at stopped
      exact (Except.error.inj stopped).symm
    · rw [call_of_error calm fit stopped]
    · rw [call_of_error calm fit stopped]

theorem along_traceless_iff (calm : t.broken = false) (is : List Incident) :
    Along Traceless is t ↔ Along (fun op t => ¬Overflows op t) is t := by
  induction is generalizing t with
  | nil => exact Iff.rfl
  | cons i is ih =>
    cases i with
    | call op =>
      rw [Along, Along, traceless_iff calm]
      exact and_congr_right fun fit => ih (calm_call calm fit)
    -- a change of the schema breaks no transaction off
    | drop => exact ih (t := (undergo .drop t).2) calm
    | create => exact ih (t := (undergo .create t).2) calm

/-- Whatever is called, and whenever the table is dropped and created, the calls that fail leave no
trace exactly when no number overflows; without a table all of them fail. A call that overflows is
no failure of the store: it changes no row, but the next call fails whatever it is. -/
theorem failed_calls_traceless_iff (t : Table) (calm : t.broken = false) :
    (∀ is, Along Traceless is t ↔ Along (fun op t => ¬Overflows op t) is t) ∧
    (∀ op, t.rows = none → table.call op t = (.error (failed op.access op.job), t)) ∧
    ∀ op, Overflows op t →
      table.call op t = (.error (.defect .outOfRange), { t with broken := true }) ∧
      ∀ next, table.call next { t with broken := true } =
        (.error (failed next.access next.job), t) := by
  refine ⟨along_traceless_iff calm, fun op absent => call_absent calm absent op, fun op unfit => ?_⟩
  refine ⟨call_of_overflows calm unfit, fun next => ?_⟩
  rw [call_refused (.inl rfl), ← calm]

/-- The table is dropped between two calls and created again, and a key is missing. -/
theorem failed_calls_traceless_dropped :
    let is : List Incident := [.call (.write "J" (.save (some "T-1") (some 7))), .drop,
      .call (.load "J"), .create, .call (.write "J" (.save none (some 8))), .call (.load "J")]
    Along Traceless is .empty ∧
      table.call (.load "J") ⟨none, false⟩ = (.error (failed .read "J"), ⟨none, false⟩) := by
  intro is
  have fit : Along (fun op t => ¬Overflows op t) is .empty := by
    simp [is, Along, Overflows, fits]
  exact ⟨((failed_calls_traceless_iff .empty rfl).1 is).mpr fit,
    (failed_calls_traceless_iff ⟨none, false⟩ rfl).2.1 (.load "J") rfl⟩

/-- A number beyond 64 bits is no failure of the store, and the next load fails because of it. -/
theorem failed_save_leaves_trace :
    let save : Op := .write "J" (.save (some "T-1") (some (2 ^ 63)))
    ¬Traceless save .empty ∧
      (undergoAll [.call save, .call (.load "J")] .empty).1 =
        [.error (.defect .outOfRange), .error (failed .read "J")] ∧
      (undergoAll [.call (.load "J")] .empty).1 = [.ok (.record none)] := by
  intro save
  have unfit : Overflows save .empty := ⟨rfl, by decide⟩
  have broken : table.call save .empty =
      (.error (.defect .outOfRange), { Table.empty with broken := true }) :=
    call_of_overflows rfl unfit
  refine ⟨fun traceless => (traceless_iff rfl).mp traceless unfit, ?_, rfl⟩
  rw [undergoAll, undergo, broken]
  rfl

end Table
end TicketKeeper.Store
