import TicketKeeper.Proofs.Cycle.Faulty

/-! The order of the calls of a cycle. Each kind of call is made once at most, and the kinds follow
each other in one order, whatever the action is. -/
namespace TicketKeeper

def kinds (es : List Exchange) : List CallKind := es.map (·.1.kind)

@[simp] theorem kinds_nil : kinds [] = [] := rfl

@[simp] theorem kinds_cons (e : Exchange) (es : List Exchange) :
    kinds (e :: es) = e.1.kind :: kinds es := rfl

@[simp] theorem kinds_append (es more : List Exchange) :
    kinds (es ++ more) = kinds es ++ kinds more := List.map_append

def CallKind.inOrder : List CallKind :=
  [.load, .status, .comment, .markBuild, .clear, .create, .save]

theorem CallKind.nodup_inOrder : inOrder.Nodup := by decide

theorem CallKind.mem_inOrder (k : CallKind) : k ∈ inOrder := by cases k <;> decide

theorem Decision.Course.kinds {extra : Status.Extra} {d : Decision} {es r}
    (h : d.Course extra es r) : (kinds es).Sublist [.status] := by
  cases h with
  | settled => exact List.nil_sublist _
  | unanswered | unknown | answered => exact List.Sublist.refl _

theorem Farewell.kinds {key : String} {text : Option String} {es r} (h : Farewell key text es r) :
    (kinds es).Sublist [.comment] := by
  cases h with
  | none | empty => exact List.nil_sublist _
  | said | refused | broken => exact List.Sublist.refl _

namespace Step

variable {job : String} {n : Int} {done : Applied} {es : List Exchange}

def kinds : Step → List CallKind
  | create _ => [.create, .save]
  | comment .. => [.comment, .markBuild]
  | forget .. => [.comment, .clear]

theorem Course.kinds {s : Step} {r} (h : Course job n done s es r) :
    (TicketKeeper.kinds es).Sublist s.kinds := by
  cases h with
  | uncreated | unsaid => exact (List.nil_sublist _).cons_cons _
  | unsaved | created | unmarked | commented => exact List.Sublist.refl _
  | kept farewell => exact farewell.kinds.trans ((List.nil_sublist _).cons_cons _)
  | uncleared farewell | forgotten farewell =>
    rw [kinds_append]
    exact farewell.kinds.append (List.Sublist.refl [CallKind.clear])

theorem Courses.kinds {steps : List Step} {r} (h : Courses job n done steps es r) :
    (TicketKeeper.kinds es).Sublist (steps.flatMap Step.kinds) := by
  induction h with
  | done => exact List.nil_sublist _
  | stopped step => exact step.kinds.trans (List.sublist_append_left _ _)
  | next step _ ih =>
    rw [kinds_append]
    exact step.kinds.append ih

end Step

theorem Action.kinds_steps (action : Action) :
    (action.steps.flatMap Step.kinds).Sublist
      [.comment, .markBuild, .clear, .create, .save] := by
  cases action <;> simp only [steps, List.flatMap_cons, List.flatMap_nil, Step.kinds] <;> decide

theorem Job.Choice.kinds {j : Job} {es r} (h : j.Choice es r) :
    (kinds es).Sublist [.load, .status] := by
  obtain ⟨reply, asked, d, r', rfl, course⟩ := h.reads
  exact course.kinds.cons_cons _

/-- A cycle makes its calls in one order, and none of them twice. -/
theorem Job.Course.kinds {j : Job} {es r} (h : j.Course es r) :
    (kinds es).Sublist CallKind.inOrder := by
  cases h with
  | unsettled choice => exact choice.kinds.trans (by decide)
  | @stopped _ _ action _ _ choice courses | @applied _ _ action _ _ choice courses =>
    rw [kinds_append]
    exact choice.kinds.append (courses.kinds.trans action.kinds_steps)

theorem Job.Course.nodup_kinds {j : Job} {es r} (h : j.Course es r) :
    (TicketKeeper.kinds es).Nodup :=
  h.kinds.nodup CallKind.nodup_inOrder

end TicketKeeper
