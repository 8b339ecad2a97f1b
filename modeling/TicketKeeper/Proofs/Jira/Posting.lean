import TicketKeeper.Json.Writer
import TicketKeeper.Proofs.Jira.Sending

/-! What comes of the requests that are sent once. The tracker's answer to such a request, or what
became of the link, settles how the call ends. -/
namespace TicketKeeper

def Reply.bearing (status : Int) (v : Json) : Reply where
  status := status
  body := Text.encodeUtf8 (Json.writeChars Json.compact v)

def Delivery.status? : Delivery → Option Int
  | .reply r => some r.status
  | .broken _ | .raised _ => none

namespace Jira

def Link.telling (status : String) (deliveries : List Delivery) : Link :=
  ⟨.reply (.bearing 200 (.obj [("fields", .obj [("status", .obj [("name", .str status)])])])) ::
    deliveries⟩

namespace Client

variable (c : Client) (link : Link) (o : Outgoing)

def Answered (r : Reply) : Prop :=
  ∃ request, c.request o = .ok request ∧ received request.url link.next.1 = .reply r

def answer : Except Fault Reply :=
  match c.request o with
  | .error d => .error (.defect d)
  | .ok request => match received request.url link.next.1 with
    | .reply r => .ok r
    | .lost f => .error (lastFault o f)
    | .spoilt d => .error (.defect d)

theorem send_one : (c.send o (some 1) link).result = c.answer link o := by
  have single : c.attemptsFor (some 1) = 1 := rfl
  unfold send answer
  rw [single]
  cases addressed : c.request o with
  | error => rfl
  | ok request =>
    simp only [attempts]
    cases received request.url link.next.1 <;> simp

theorem send_one_requests :
    (sent (c.send o (some 1) link).wire).map (·.1) = (c.request o).toOption.toList := by
  have single : c.attemptsFor (some 1) = 1 := rfl
  unfold send
  rw [single]
  cases addressed : c.request o with
  | error => rfl
  | ok request =>
    simp only [attempts]
    cases received request.url link.next.1 <;> simp [Except.toOption]

theorem answer_eq_ok {r : Reply} : c.answer link o = .ok r ↔ c.Answered link o r := by
  unfold answer Answered
  cases c.request o with
  | error => simp
  | ok request =>
    cases arrived : received request.url link.next.1 <;> simp [arrived]

theorem comment_result (key text : String) :
    (c.comment key text link).result =
      (c.answer link (.comment key text)).bind (readCommented c.host.jsonDepth (bareKey key)) := by
  have made : c.comment key text link = _ :=
    andThen_done (c.send (.comment key text) (some 1) link) _
  rw [made, send_one]

theorem create_result (form : IssueForm) :
    (c.create form link).result = (c.resolve form link).result.bind fun resolved =>
      (c.answer (c.resolve form link).next (.issue (c.fieldsJson form resolved))).bind
        (readCreated c.host.jsonDepth) := by
  unfold create andThen
  cases (c.resolve form link).result with
  | error => rfl
  | ok resolved =>
    have posted := andThen_done
      (c.send (.issue (c.fieldsJson form resolved)) (some 1) (c.resolve form link).next)
      (readCreated c.host.jsonDepth)
    rw [send_one] at posted
    exact congrArg Turn.result posted

end Client

theorem bind_eq_ok {α β : Type} {x : Except Fault α} {f : α → Except Fault β} {b : β} :
    x.bind f = .ok b ↔ ∃ a, x = .ok a ∧ f a = .ok b := by
  cases x <;> simp [Except.bind]

section Reading

variable {depth : Nat} {key : String} {r : Reply}

theorem readCommented_eq_ok : readCommented depth key r = .ok () ↔ r.isError = false := by
  constructor
  · exact isError_of_readCommented
  · intro fair
    simp [readCommented, fair]
    rfl

theorem readCommented_of_isError (bad : r.isError = true) :
    readCommented depth key r = match r.errorText depth with
      | .ok text => .error <| .failure <|
        .commentFailed key s!"Jira rejected comment on {key} ({r.status}): {text}" r.status
      | .error d => .error (.defect d) := by
  unfold readCommented
  rw [if_pos bad]
  cases r.errorText depth <;> rfl

end Reading

namespace Client

variable (c : Client) (link : Link)

theorem comment_ok_iff (key text : String) :
    (c.comment key text link).result = .ok () ↔
      ∃ r, c.Answered link (.comment key text) r ∧ r.isError = false := by
  simp only [comment_result, bind_eq_ok, answer_eq_ok, readCommented_eq_ok]

theorem create_ok_iff (form : IssueForm) (issue : Issue) :
    (c.create form link).result = .ok issue ↔
      ∃ resolved r, (c.resolve form link).result = .ok resolved ∧
        c.Answered (c.resolve form link).next (.issue (c.fieldsJson form resolved)) r ∧
        r.isError = false ∧ readCreated c.host.jsonDepth r = .ok issue := by
  simp only [create_result, bind_eq_ok, answer_eq_ok]
  constructor
  · rintro ⟨resolved, known, r, answered, read⟩
    exact ⟨resolved, r, known, answered, isError_of_readCreated read, read⟩
  · rintro ⟨resolved, r, known, answered, -, read⟩
    exact ⟨resolved, known, r, answered, read⟩

/-- The ways in which a comment breaks without being refused: it has no address, what was delivered
cannot be looked at, or the text of an error cannot be made out. -/
inductive CommentBreaks (key text : String) : Defect → Prop
  | unaddressed {d} : c.request (.comment key text) = .error d → CommentBreaks key text d
  | unopened {request d} : c.request (.comment key text) = .ok request →
    received request.url link.next.1 = .spoilt d → CommentBreaks key text d
  | illegible {r d} : c.Answered link (.comment key text) r → r.isError = true →
    r.errorText c.host.jsonDepth = .error d → CommentBreaks key text d

theorem comment_error {key text : String} {fault : Fault}
    (h : (c.comment key text link).result = .error fault) :
    (∃ f, fault.trackerFailure? = some f) ∨
      ∃ d, fault = .defect d ∧ c.CommentBreaks link key text d := by
  rw [comment_result] at h
  unfold answer at h
  split at h
  · cases h
    exact .inr ⟨_, rfl, .unaddressed ‹_›⟩
  rename_i addressed
  split at h
  · rename_i r arrived
    change readCommented c.host.jsonDepth (bareKey key) r = .error fault at h
    cases bad : r.isError with
    | false =>
      rw [readCommented_eq_ok.mpr bad] at h
      cases h
    | true =>
      rw [readCommented_of_isError bad] at h
      split at h
      · cases h
        exact .inl ⟨_, rfl⟩
      · cases h
        exact .inr ⟨_, rfl, .illegible ⟨_, addressed, arrived⟩ bad ‹_›⟩
  · cases h
    exact .inl ⟨_, rfl⟩
  · cases h
    exact .inr ⟨_, rfl, .unopened addressed ‹_›⟩

theorem CommentBreaks.result {key text : String} {d : Defect}
    (h : c.CommentBreaks link key text d) :
    (c.comment key text link).result = .error (.defect d) := by
  rw [comment_result]
  cases h with
  | unaddressed unaddressed => simp only [answer, unaddressed, Except.bind]
  | unopened addressed unopened => simp only [answer, addressed, unopened, Except.bind]
  | illegible answered bad illegible =>
    rw [(c.answer_eq_ok link _).mpr answered]
    simp only [Except.bind, readCommented_of_isError bad, illegible]

end Client

theorem isTrimmed_firstText (a b : Json) : Text.IsTrimmed (firstText a b).toList := by
  unfold firstText
  extract_lets v
  split
  · rw [String.toList_ofList]
    exact Text.trimBy_trimBy ..
  · rfl

theorem tidy_of_readCreated {depth : Nat} {r : Reply} {issue : Issue}
    (h : readCreated depth r = .ok issue) :
    Tidy issue.key := by
  have fair := isError_of_readCreated h
  unfold readCreated at h
  rw [if_neg (by rw [fair]; exact Bool.false_ne_true)] at h
  obtain ⟨data, -, read⟩ := bind_eq_ok.mp h
  dsimp only at read
  split at read
  · cases read
  · rename_i named
    cases read
    exact ⟨named, isTrimmed_firstText ..⟩

end Jira

end TicketKeeper
