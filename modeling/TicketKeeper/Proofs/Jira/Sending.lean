import TicketKeeper.Jira.Client
import TicketKeeper.Proofs.Cycle.Wire

/-! What the client sends for a call. A request that only reads may be sent as often as the client
is told to try; one that changes something is sent once. -/
namespace TicketKeeper

theorem Reply.status_of_opened {r r' : Reply} (h : r.opened = .ok r') : r'.status = r.status := by
  unfold Reply.opened at h
  split at h <;> cases h
  rfl

namespace Jira

theorem reply_of_received {url : Url} {delivery : Delivery} {r : Reply}
    (h : received url delivery = .reply r) :
    ∃ raw, delivery = .reply raw ∧ raw.status = r.status := by
  cases delivery with
  | broken =>
    simp only [received] at h
    split at h <;> cases h
  | raised => cases h
  | reply raw =>
    simp only [received] at h
    split at h
    · cases h
    rename_i opened
    split at h
    · cases h
    split at h <;> cases h
    all_goals exact ⟨raw, rfl, (Reply.status_of_opened opened).symm⟩

section Reading

variable {depth : Nat} {r : Reply}

/-- Nothing is read off an error but its text. -/
theorem isError_of_guarded {α : Type} {fault : String → Fault} {next : Except Fault α} {a : α}
    (h : (do
      if r.isError then
        let text ← orDefect (r.errorText depth)
        throw (fault text)
      next) = .ok a) : r.isError = false := by
  by_contra bad
  simp only [Bool.not_eq_false] at bad
  simp only [bad, if_true] at h
  cases text : r.errorText depth <;> rw [text] at h <;> cases h

theorem isError_of_readStatus {key raw : String} (h : readStatus depth key r = .ok raw) :
    r.isError = false := by
  unfold readStatus at h
  dsimp only at h
  split at h
  · cases h
  split at h
  · cases h
  exact isError_of_guarded h

theorem isError_of_readCommented {key : String} {said : Unit}
    (h : readCommented depth key r = .ok said) : r.isError = false := isError_of_guarded h

theorem isError_of_readCreated {issue : Issue} (h : readCreated depth r = .ok issue) :
    r.isError = false := isError_of_guarded h

end Reading

/-- Attempts at a request: it is sent so often at most, and when there is a reply that counts it
came to the last one. -/
structure Tries (request : Request) (n : Nat) (xs : List Sent) (result : Except Fault Reply) :
    Prop where
  few : xs.length ≤ n
  same : ∀ x ∈ xs, x.1 = request
  last : ∀ r, result = .ok r → ∃ front raw, xs = front ++ [(request, .reply raw)] ∧
    raw.status = r.status

namespace Tries

variable {request : Request} {n : Nat} {xs : List Sent} {result : Except Fault Reply}
  {delivery : Delivery}

theorem once (h : ∀ r, result = .ok r → ∃ raw, delivery = .reply raw ∧ raw.status = r.status) :
    Tries request (n + 1) [(request, delivery)] result where
  few := Nat.succ_le_succ (Nat.zero_le n)
  same := by simp
  last r given := by
    obtain ⟨raw, rfl, same⟩ := h r given
    exact ⟨[], raw, rfl, same⟩

theorem again (h : Tries request n xs result) :
    Tries request (n + 1) ((request, delivery) :: xs) result where
  few := Nat.succ_le_succ h.few
  same := List.forall_mem_cons.mpr ⟨rfl, h.same⟩
  last r given := by
    obtain ⟨front, raw, rfl, same⟩ := h.last r given
    exact ⟨(request, delivery) :: front, raw, rfl, same⟩

end Tries

theorem tries_afterPause {request : Request} {n : Nat} {further : Turn Link Reply}
    (h : Tries request n (sent further.wire) further.result) {host : Host}
    {pause : Number.Binary64} {delivery : Delivery} {link : Link} :
    let t := afterPause host pause (.exchange request delivery) link further
    Tries request (n + 1) (sent t.wire) t.result := by
  unfold afterPause
  split
  · exact .once nofun
  · exact h.again

theorem tries_attempts (host : Host) (o : Outgoing) (request : Request) (n : Nat)
    (pause : Number.Binary64) (link : Link) :
    Tries request n (sent (attempts host o request n pause link).wire)
      (attempts host o request n pause link).result := by
  induction n generalizing pause link with
  | zero => exact ⟨Nat.le_refl 0, by simp [attempts, done], nofun⟩
  | succ n ih =>
    -- Either this attempt is the last one, or the others are made with one attempt less.
    simp only [attempts]
    split
    · rename_i r arrived
      split
      · exact tries_afterPause (ih ..)
      · apply Tries.once
        rintro _ ⟨⟩
        exact reply_of_received arrived
    · split
      · exact tries_afterPause (ih ..)
      · exact .once nofun
    · exact .once nofun

section Turns

variable {α β : Type}

theorem andThen_done (t : Turn Link α) (f : α → Except Fault β) :
    andThen t (fun a => done (f a)) = ⟨t.result.bind f, t.next, t.wire⟩ := by
  obtain ⟨result, next, wire⟩ := t
  cases result <;> simp [andThen, done, Except.bind]

theorem andThen_cases (t : Turn Link α) (f : α → Link → Turn Link β) :
    (∃ fault, andThen t f = ⟨.error fault, t.next, t.wire⟩) ∨
      ∃ a, andThen t f =
        { f a t.next with wire := t.wire ++ (f a t.next).wire } := by
  unfold andThen
  split
  · exact .inr ⟨_, rfl⟩
  · exact .inl ⟨_, rfl⟩

end Turns

namespace Outgoing

def status (key : String) : Outgoing :=
  ⟨.get, s!"/rest/api/3/issue/{bareKey key}", some "fields=status", none⟩

def components (project : String) : Outgoing :=
  ⟨.get, s!"/rest/api/3/project/{project}/components", none, none⟩

def comment (key text : String) : Outgoing :=
  ⟨.post, s!"/rest/api/3/issue/{bareKey key}/comment", none,
    some (.obj [("body", documentJson text)])⟩

def issue (fields : Json) : Outgoing :=
  ⟨.post, "/rest/api/3/issue", none, some (.obj [("fields", fields)])⟩

end Outgoing

namespace Client

def plain : Client where
  baseUrl := "https://jira.example"
  email := "ci@example.com"
  token := "token"
  issueType := "Bug"
  timeout := .ofInt 25
  maxRetries := 3
  backoff := .ofInt 1

variable (c : Client)

def tries : Nat := max 1 c.maxRetries.toNat

/-- How a client is made to try: once at least, with the pause that its options name, on the machine
of its settings. -/
theorem retries_ofSettings {settings : Settings} {options : Options}
    (made : ofSettings settings options = .ok c) :
    c.maxRetries = max 1 (options.maxRetries.getD settings.maxRetries) ∧
      c.backoff = options.backoff ∧ c.host = settings.host := by
  unfold ofSettings at made
  dsimp only at made
  split at made
  · cases made
  · cases made
    exact ⟨rfl, rfl, rfl⟩

def Repeats (o : Outgoing) (n : Nat) (xs : List Sent) : Prop :=
  xs.length ≤ n ∧ ∀ x ∈ xs, c.request o = .ok x.1

def Granted (o : Outgoing) (xs : List Sent) : Prop :=
  ∃ front request raw, c.request o = .ok request ∧ xs = front ++ [(request, .reply raw)] ∧
    raw.isError = false

variable {c} {o : Outgoing} {n m : Nat} {xs : List Sent}

theorem Repeats.nil : c.Repeats o n [] := ⟨Nat.zero_le n, by simp⟩

theorem Repeats.mono (h : c.Repeats o n xs) (le : n ≤ m) : c.Repeats o m xs := ⟨h.1.trans le, h.2⟩

variable (c) (link : Link)

theorem send_repeats (o : Outgoing) (retries : Option Int) :
    c.Repeats o (c.attemptsFor retries) (sent (c.send o retries link).wire) := by
  unfold send
  split
  · exact .nil
  · rename_i request addressed _
    have tries := tries_attempts c.host o request (c.attemptsFor retries) c.backoff link
    refine ⟨tries.few, fun x hx => ?_⟩
    rw [addressed, tries.same x hx]
  · exact .nil

theorem send_read (o : Outgoing) : c.Repeats o c.tries (sent (c.send o none link).wire) :=
  (c.send_repeats link o none).mono (Nat.le_max_right ..)

theorem send_once (o : Outgoing) : c.Repeats o 1 (sent (c.send o (some 1) link).wire) :=
  c.send_repeats link o (some 1)

theorem send_replied (o : Outgoing) (retries : Option Int) :
    ∀ r, (c.send o retries link).result = .ok r → ∃ front request raw, c.request o = .ok request ∧
      sent (c.send o retries link).wire = front ++ [(request, .reply raw)] ∧
      raw.status = r.status := by
  unfold send
  split
  · exact nofun
  · rename_i request addressed _
    intro r given
    obtain ⟨front, raw, last, same⟩ :=
      (tries_attempts c.host o request (c.attemptsFor retries) c.backoff link).last r given
    exact ⟨front, request, raw, addressed, last, same⟩
  · exact nofun

theorem send_granted {α : Type} {read : Reply → Except Fault α} {a : α} (o : Outgoing)
    (retries : Option Int) (fair : ∀ r, read r = .ok a → r.isError = false)
    (given : (c.send o retries link).result.bind read = .ok a) :
    c.Granted o (sent (c.send o retries link).wire) := by
  cases result : (c.send o retries link).result with
  | error =>
    rw [result] at given
    cases given
  | ok r =>
    rw [result] at given
    obtain ⟨front, request, raw, addressed, last, same⟩ := c.send_replied link o retries r result
    refine ⟨front, request, raw, addressed, last, ?_⟩
    have fair := fair r given
    unfold Reply.isError at fair ⊢
    rwa [same]

/-- What the client sends for a call. -/
def Sends : Exchange → List Sent → Prop
  | ⟨.status key, reply⟩, xs => c.Repeats (.status key) c.tries xs ∧
    ∀ told, reply = .ok told → c.Granted (.status key) xs
  | ⟨.comment key text, reply⟩, xs => c.Repeats (.comment key text) 1 xs ∧
    ∀ said, reply = .ok said → c.Granted (.comment key text) xs
  | ⟨.create form, reply⟩, xs => ∃ listings issue resolved, xs = listings ++ issue ∧
    c.Repeats (.components form.projectKey) c.tries listings ∧
    c.Repeats (.issue (c.fieldsJson form resolved)) 1 issue ∧
    ∀ made, reply = .ok made → c.Granted (.issue (c.fieldsJson form resolved)) issue
  | ⟨.load _, _⟩, xs | ⟨.save .., _⟩, xs | ⟨.markBuild .., _⟩, xs | ⟨.clear _, _⟩, xs => xs = []

variable {c} in
theorem request_body {r : Request} (h : c.request o = .ok r) : r.body = o.body := by
  unfold request at h
  split at h
  · split at h
    · cases h
    · cases h
      rfl
  · cases h

theorem sends_status (key : String) :
    c.Sends ⟨.status key, (c.status key link).result⟩ (sent (c.status key link).wire) := by
  have made : c.status key link = _ := andThen_done (c.send (.status key) none link) _
  rw [made]
  refine ⟨c.send_read .., fun told given => ?_⟩
  exact c.send_granted _ _ _ (fun _ => isError_of_readStatus) given

theorem sends_comment (key text : String) :
    c.Sends ⟨.comment key text, (c.comment key text link).result⟩
      (sent (c.comment key text link).wire) := by
  have made : c.comment key text link = _ :=
    andThen_done (c.send (.comment key text) (some 1) link) _
  rw [made]
  refine ⟨c.send_once .., fun said given => ?_⟩
  exact c.send_granted _ _ _ (fun _ => isError_of_readCommented) given

theorem components_repeats (project : String) :
    c.Repeats (.components project) c.tries (sent (c.components project link).wire) := by
  have made : c.components project link = _ :=
    andThen_done (c.send (.components project) none link) _
  rw [made]
  exact c.send_read ..

theorem sends_resolve (form : IssueForm) :
    c.Repeats (.components form.projectKey) c.tries (sent (c.resolve form link).wire) := by
  unfold resolve
  split
  · exact .nil
  · rw [andThen_done]
    exact c.components_repeats link form.projectKey

theorem sends_create (form : IssueForm) :
    c.Sends ⟨.create form, (c.create form link).result⟩ (sent (c.create form link).wire) := by
  unfold create
  obtain ⟨fault, sole⟩ | ⟨resolved, both⟩ := andThen_cases (c.resolve form link) _
  · -- The lookup of the components failed, and no issue was sent.
    rw [sole]
    refine ⟨_, [], none, (List.append_nil _).symm, c.sends_resolve .., .nil, nofun⟩
  · rw [both, andThen_done]
    refine ⟨_, _, resolved, sent_append .., c.sends_resolve .., c.send_once .., ?_⟩
    intro made given
    exact c.send_granted _ _ _ (fun _ => isError_of_readCreated) given

variable {c} in
theorem Sends.creates {e : Exchange} {part : List Sent} (h : c.Sends e part) {x : Sent}
    (hx : x ∈ part) {fields : Json} (posts : x.1.body = some (.obj [("fields", fields)])) :
    ∃ form reply resolved, e = ⟨.create form, reply⟩ ∧ fields = c.fieldsJson form resolved := by
  obtain ⟨call, reply⟩ := e
  cases call with
  | load | save | markBuild | clear =>
    obtain rfl : part = [] := h
    cases hx
  | status key =>
    rw [request_body (h.1.2 x hx)] at posts
    cases posts
  | comment key text =>
    rw [request_body (h.1.2 x hx)] at posts
    simp [Outgoing.comment] at posts
  | create form =>
    obtain ⟨listings, issue, resolved, rfl, listed, posted, -⟩ := h
    obtain hx | hx := List.mem_append.mp hx
    · rw [request_body (listed.2 x hx)] at posts
      cases posts
    · rw [request_body (posted.2 x hx)] at posts
      cases posts
      exact ⟨form, reply, resolved, rfl, rfl⟩

theorem tracker_sends : c.tracker.Sends c.Sends := by
  rintro ⟨call, reply⟩ link link' served
  cases call with
  | status => exact served.1 ▸ c.sends_status ..
  | comment => exact served.1 ▸ c.sends_comment ..
  | create => exact served.1 ▸ c.sends_create ..
  | load | save | markBuild | clear => rfl

end Client

end Jira

end TicketKeeper
