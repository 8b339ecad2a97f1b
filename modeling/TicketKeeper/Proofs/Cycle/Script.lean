import TicketKeeper.Proofs.Cycle.Order

/-! Scripts: the calls that are to be made when all goes well. A script is played up to the first
call that faults, unless the tracker may refuse that call; then a warning tells of it. -/
namespace TicketKeeper

/-- What comes of the calls of a cycle: what each of them gives, and which of them fault. -/
structure Replies where
  record : Option Record
  raw : String
  issue : Issue
  faults : Faults

namespace Replies

variable (a : Replies)

def answer {α : Type} (kind : CallKind) (value : α) : Except Fault α :=
  match a.faults kind with
  | some fault => .error fault
  | none => .ok value

def reply : (c : Call) → Except Fault c.Reply
  | .load _ => a.answer .load a.record
  | .save .. => a.answer .save ()
  | .markBuild .. => a.answer .markBuild ()
  | .clear _ => a.answer .clear ()
  | .create _ => a.answer .create a.issue
  | .status _ => a.answer .status a.raw
  | .comment .. => a.answer .comment ()

def withFault (kind : CallKind) (fault? : Option Fault) : Replies :=
  { a with faults := fun other => if other = kind then fault? else a.faults other }

def set : Exchange → Replies
  | ⟨.load _, .ok record⟩ => { a.withFault .load none with record := record }
  | ⟨.status _, .ok raw⟩ => { a.withFault .status none with raw := raw }
  | ⟨.create _, .ok issue⟩ => { a.withFault .create none with issue := issue }
  | ⟨c, .ok _⟩ => a.withFault c.kind none
  | ⟨c, .error fault⟩ => a.withFault c.kind (some fault)

theorem reply_set_self (e : Exchange) : (a.set e).reply e.1 = e.2 := by
  obtain ⟨c, _ | _⟩ := e <;> cases c <;> simp [set, reply, answer, withFault, Call.kind]

theorem reply_set_of_ne {e : Exchange} {c : Call} (h : c.kind ≠ e.1.kind) :
    (a.set e).reply c = a.reply c := by
  obtain ⟨d, _ | _⟩ := e <;> cases d <;> cases c <;>
    simp_all [set, reply, answer, withFault, Call.kind]

def Gave (es : List Exchange) : Prop := ∀ e ∈ es, a.reply e.1 = e.2

theorem exists_gave (a : Replies) {es : List Exchange} (once : (kinds es).Nodup) :
    ∃ a : Replies, a.Gave es := by
  induction es with
  | nil => exact ⟨a, fun e he => nomatch he⟩
  | cons e es ih =>
    rw [kinds_cons, List.nodup_cons] at once
    obtain ⟨a, given⟩ := ih once.2
    refine ⟨a.set e, fun e' he' => ?_⟩
    obtain rfl | he' := List.mem_cons.mp he'
    · exact a.reply_set_self e'
    · rw [a.reply_set_of_ne, given e' he']
      intro same
      exact once.1 (same ▸ List.mem_map_of_mem he')

variable {a}

theorem answer_ok {α : Type} {kind : CallKind} {value value' : α}
    (h : a.answer kind value = .ok value') : value = value' := by
  unfold answer at h
  split at h
  · cases h
  · exact Except.ok.inj h

theorem Gave.head {e : Exchange} {es : List Exchange} (h : a.Gave (e :: es)) :
    a.reply e.1 = e.2 := h e List.mem_cons_self

theorem Gave.tail {e : Exchange} {es : List Exchange} (h : a.Gave (e :: es)) : a.Gave es :=
  fun e' he' => h e' (List.mem_cons_of_mem _ he')

theorem Gave.left {es more : List Exchange} (h : a.Gave (es ++ more)) : a.Gave es :=
  fun e he => h e (List.mem_append_left _ he)

theorem Gave.right {es more : List Exchange} (h : a.Gave (es ++ more)) : a.Gave more :=
  fun e he => h e (List.mem_append_right _ he)

end Replies

/-- The calls that are to be made, one after the other, and how they end. -/
inductive Script
  | done
  | refuse (fault : Fault)
  | must (c : Call) (rest : Script)
  | may (c : Call) (rest : Script)

namespace Script

variable (a : Replies)

def warning? (fault : Fault) : Option String :=
  fault.trackerFailure?.map fun f => "final_comment_failed: " ++ f.message.text

def calls : Script → List Exchange
  | done | refuse _ => []
  | must c rest => ⟨c, a.reply c⟩ :: match a.reply c with
    | .ok _ => rest.calls
    | .error _ => []
  | may c rest => ⟨c, a.reply c⟩ :: match a.reply c with
    | .ok _ => rest.calls
    | .error fault => if (warning? fault).isSome then rest.calls else []

/-- The warnings in the end, or the fault that the script stops with. -/
def ending : Script → Except Fault (List String)
  | done => .ok []
  | refuse fault => .error fault
  | must c rest => match a.reply c with
    | .ok _ => rest.ending
    | .error fault => .error fault
  | may c rest => match a.reply c with
    | .ok _ => rest.ending
    | .error fault => match warning? fault with
      | some text => rest.ending.map (text :: ·)
      | none => .error fault

end Script

namespace Script

variable {a : Replies} {c : Call} {rest : Script} {es : List Exchange} {fault : Fault}
  {r : Except Fault (List String)}

def Plays (a : Replies) (s : Script) (es : List Exchange) (r : Except Fault (List String)) : Prop :=
  s.calls a = es ∧ s.ending a = r

theorem map_nil_append (r : Except Fault (List String)) : r.map (([] : List String) ++ ·) = r := by
  cases r <;> rfl

theorem Plays.done : Script.done.Plays a [] (.ok []) := ⟨rfl, rfl⟩

theorem Plays.refuse : (Script.refuse fault).Plays a [] (.error fault) := ⟨rfl, rfl⟩

theorem Plays.must {v : c.Reply} (given : a.reply c = .ok v) (onward : rest.Plays a es r) :
    (Script.must c rest).Plays a (⟨c, .ok v⟩ :: es) r := by
  simpa [Plays, calls, ending, given] using onward

theorem Plays.must_error (given : a.reply c = .error fault) :
    (Script.must c rest).Plays a [⟨c, .error fault⟩] (.error fault) := by
  simp [Plays, calls, ending, given]

theorem Plays.may {v : c.Reply} (given : a.reply c = .ok v) (onward : rest.Plays a es r) :
    (Script.may c rest).Plays a (⟨c, .ok v⟩ :: es) r := by
  simpa [Plays, calls, ending, given] using onward

theorem Plays.may_refused {f : Failure} (given : a.reply c = .error fault)
    (refused : fault.trackerFailure? = some f) (onward : rest.Plays a es r) :
    (Script.may c rest).Plays a (⟨c, .error fault⟩ :: es)
      (r.map (["final_comment_failed: " ++ f.message.text] ++ ·)) := by
  obtain ⟨rfl, rfl⟩ := onward
  simp [Plays, calls, ending, given, warning?, refused]

theorem Plays.may_error (given : a.reply c = .error fault)
    (unforgiven : fault.trackerFailure? = none) :
    (Script.may c rest).Plays a [⟨c, .error fault⟩] (.error fault) := by
  simp [Plays, calls, ending, given, warning?, unforgiven]

end Script

section Layers

open Script (Plays)

variable {a : Replies} {job : String} {n : Int} {done done' : Applied} {es es' : List Exchange}

def Step.script (a : Replies) (job : String) (n : Int) : Step → Script → Script
  | create draft, rest => .must (.create draft.form) (.must (.save job a.issue.key n) rest)
  | comment key text, rest => .must (.comment key text) (.must (.markBuild job n) rest)
  | forget key text, rest => match text with
    | none | some "" => .must (.clear job) rest
    | some text => .may (.comment key text) (.must (.clear job) rest)

theorem Step.script_forget {key text : String} (h : text ≠ "") (rest : Script) :
    (Step.forget key (some text)).script a job n rest =
      .may (.comment key text) (.must (.clear job) rest) := by
  simp only [Step.script]

theorem Farewell.plays {key : String} {text : Option String} {warnings : List String}
    {rest : Script} {r : Except Fault (List String)} (h : Farewell key text es (.ok warnings))
    (given : a.Gave es) (onward : (Script.must (.clear job) rest).Plays a es' r) :
    ((Step.forget key text).script a job n rest).Plays a (es ++ es') (r.map (warnings ++ ·)) := by
  cases h with
  | none | empty =>
    rw [Script.map_nil_append]
    exact onward
  | said worded =>
    rw [Step.script_forget worded, Script.map_nil_append]
    exact .may given.head onward
  | refused worded refused =>
    rw [Step.script_forget worded]
    exact .may_refused given.head refused onward

theorem Step.Course.plays {s : Step} {rest : Script} {r : Except Fault (List String)}
    (h : Course job n done s es (.ok done')) (given : a.Gave es) (onward : rest.Plays a es' r) :
    ∃ warnings, done'.warnings = done.warnings ++ warnings ∧
      (s.script a job n rest).Plays a (es ++ es') (r.map (warnings ++ ·)) := by
  cases h with
  | created =>
    have issue := Replies.answer_ok given.head
    refine ⟨[], (List.append_nil _).symm, ?_⟩
    rw [Script.map_nil_append, Step.script, issue]
    exact .must given.head (.must given.tail.head onward)
  | commented =>
    refine ⟨[], (List.append_nil _).symm, ?_⟩
    rw [Script.map_nil_append]
    exact .must given.head (.must given.tail.head onward)
  | forgotten farewell =>
    refine ⟨_, rfl, ?_⟩
    rw [List.append_assoc]
    exact farewell.plays given.left (.must given.right.head onward)

theorem Step.Course.plays_error {s : Step} {fault : Fault}
    (h : Course job n done s es (.error fault)) (given : a.Gave es) (rest : Script) :
    (s.script a job n rest).Plays a es (.error fault) := by
  cases h with
  | uncreated | unsaid => exact .must_error given.head
  | unsaved =>
    have issue := Replies.answer_ok given.head
    rw [Step.script, issue]
    exact .must given.head (.must_error given.tail.head)
  | unmarked => exact .must given.head (.must_error given.tail.head)
  | kept farewell =>
    cases farewell with
    | broken worded unforgiven =>
      rw [Step.script_forget worded]
      exact .may_error given.head unforgiven
  | uncleared farewell => exact farewell.plays given.left (.must_error given.right.head)

theorem Step.Courses.plays {steps : List Step} {r : Except Fault Applied}
    (h : Courses job n done steps es r) (given : a.Gave es) :
    ∃ r', (steps.foldr (Step.script a job n) .done).Plays a es r' ∧
      r'.map (done.warnings ++ ·) = r.map (·.warnings) := by
  induction h with
  | done done =>
    refine ⟨.ok [], .done, ?_⟩
    simp [Except.map]
  | stopped step => exact ⟨_, step.plays_error given _, rfl⟩
  | next step _ ih =>
    obtain ⟨r', onward, same⟩ := ih given.right
    obtain ⟨warnings, grown, plays⟩ := step.plays given.left onward
    refine ⟨_, plays, ?_⟩
    rw [← same, grown]
    cases r' <;> simp [Except.map]

def Decision.script (extra : Status.Extra) (a : Replies) (next : Action → Script) :
    Decision → Script
  | settled action => next action
  | asks key answer => .must (.status key) <| match Status.project (.str a.raw) extra with
    | .error f => .refuse (.failure f)
    | .ok status => next (answer status)

theorem Decision.Course.plays {extra : Status.Extra} {d : Decision} {action : Action}
    {next : Action → Script} {r : Except Fault (List String)}
    (h : d.Course extra es (.ok action)) (given : a.Gave es)
    (onward : (next action).Plays a es' r) : (d.script extra a next).Plays a (es ++ es') r := by
  cases h with
  | settled => exact onward
  | @answered _ _ raw _ known =>
    have raw_eq : a.raw = raw := Replies.answer_ok given.head
    refine .must given.head ?_
    rw [raw_eq, known]
    exact onward

theorem Decision.Course.plays_error {extra : Status.Extra} {d : Decision} {fault : Fault}
    (h : d.Course extra es (.error fault)) (given : a.Gave es) (next : Action → Script) :
    (d.script extra a next).Plays a es (.error fault) := by
  cases h with
  | unanswered => exact .must_error given.head
  | @unknown _ _ raw _ unknown =>
    have raw_eq : a.raw = raw := Replies.answer_ok given.head
    refine .must given.head ?_
    rw [raw_eq, unknown]
    exact .refuse

end Layers

end TicketKeeper
