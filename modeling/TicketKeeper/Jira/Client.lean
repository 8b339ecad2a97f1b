import TicketKeeper.Jira.Document
import TicketKeeper.Jira.Reply
import TicketKeeper.Settings
import TicketKeeper.Text.Fold
import TicketKeeper.Url.Redirect

/-! The tracker behind Jira's web service. Reading requests are tried again when the service or the
link to it has a passing fault, with pauses that double; requests that change something are sent
once, because one that seems lost may have been carried out. -/
namespace TicketKeeper.Jira

open TicketKeeper.Number (Binary64)

structure Client where
  baseUrl : String
  email : String
  token : String
  issueType : String
  timeout : Binary64
  maxRetries : Int
  backoff : Binary64
  host : Host := {}

structure Options where
  baseUrl : Option String := none
  email : Option String := none
  token : Option String := none
  issueType : Option String := none
  timeout : Option Binary64 := none
  maxRetries : Option Int := none
  backoff : Binary64 := .ofRatio false 1 2

/-- The link to the service: the deliveries that are to come. When there are no more the service
cannot be reached. -/
structure Link where
  deliveries : List Delivery := []

namespace Link

def next (link : Link) : Delivery × Link :=
  match link.deliveries with
  | d :: ds => (d, ⟨ds⟩)
  | [] => (.broken .connectError, link)

end Link

/-- What a request has come to when its delivery is looked at. -/
inductive Arrival
  | reply (r : Reply)
  | lost (fault : LinkFault)
  | spoilt (d : Defect)

/-- A reply is opened first. Only a request to a host can have one, and the address to which it may
send its reader must be one that can be followed. -/
def received (url : Url) : Delivery → Arrival
  | .broken f => if f.isTransport then .lost f else .spoilt (.link f)
  | .raised d => .spoilt d
  | .reply r => match r.opened with
    | .error d => .spoilt d
    | .ok r =>
      if url.isRelative then .spoilt .badValue
      else match r.location?.map fun l => url.redirect l.toList with
        | none | some (.ok _) => .reply r
        | some (.error .unreadable) => .lost .remoteProtocolError
        | some (.error .unfit) => .spoilt (.link .invalidUrl)
        | some (.error (.host f)) => .spoilt (.host f)
        | some (.error .unencodable) => .spoilt .unencodable

def isPassing (status : Int) : Bool := [429, 500, 502, 503, 504].contains status

def isUnavailable (status : Int) : Bool := status == 401 || status == 403 || isPassing status

def bareUrl (s : String) : String :=
  String.ofList (Text.dropEndWhile (· == '/') (Text.trim s.toList))

namespace Client

def ofSettings (settings : Settings) (o : Options) : Except Failure Client :=
  let baseUrl := bareUrl (o.baseUrl.getD settings.jiraUrl)
  if baseUrl = "" then
    .error (.invalidConfiguration "Jira base URL is not configured" "JIRA_BASE_URL")
  else .ok {
    baseUrl := baseUrl
    email := o.email.getD settings.jiraEmail
    token := o.token.getD settings.jiraToken
    issueType := (o.issueType.filter (· != "")).getD settings.issueType
    timeout := o.timeout.getD settings.timeout
    maxRetries := max 1 (o.maxRetries.getD settings.maxRetries)
    backoff := o.backoff
    host := settings.host }

end Client

structure Outgoing where
  method : Method
  path : String
  query : Option String := none
  body : Option Json := none

private def outgoingDetails (o : Outgoing) : List (String × Json) :=
  [("method", .str o.method.name), ("path", .str o.path)]

def andThen {α β : Type} (t : Turn Link α) (f : α → Link → Turn Link β) : Turn Link β :=
  match t.result with
  | .ok a =>
    let u := f a t.next
    { u with wire := t.wire ++ u.wire }
  | .error e => ⟨.error e, t.next, t.wire⟩

def done {α : Type} (result : Except Fault α) (link : Link) : Turn Link α := ⟨result, link, []⟩

def notAttempted (o : Outgoing) : Fault :=
  .failure (.trackerUnavailable "Jira request was not attempted" (outgoingDetails o))

def lastFault (o : Outgoing) (fault : LinkFault) : Fault :=
  .failure (.trackerUnavailable s!"Jira request failed: {fault.name}" (outgoingDetails o))

/-- Goes on with further attempts behind a pause. One that cannot be made leaves it at what has been
seen. -/
def afterPause (host : Host) (pause : Binary64) (seen : WireEvent) (link : Link)
    (further : Turn Link Reply) : Turn Link Reply :=
  match host.pauseDefect? pause with
  | some d => ⟨.error (.defect d), link, [seen]⟩
  | none => { further with wire := seen :: .pause pause :: further.wire }

def attempts (host : Host) (o : Outgoing) (request : Request) :
    Nat → Binary64 → Link → Turn Link Reply
  | 0, _, link => done (.error (notAttempted o)) link
  | n + 1, pause, link =>
    let (delivery, link) := link.next
    let seen : WireEvent := .exchange request delivery
    let again : Turn Link Reply :=
      afterPause host pause seen link (attempts host o request n pause.double link)
    match received request.url delivery with
    | .reply r => if isPassing r.status && n != 0 then again else ⟨.ok r, link, [seen]⟩
    | .lost f => if n != 0 then again else ⟨.error (lastFault o f), link, [seen]⟩
    | .spoilt d => ⟨.error (.defect d), link, [seen]⟩

namespace Client

/-- How many attempts a call has: its own number, unless that is zero. -/
def attemptsFor (c : Client) (retries : Option Int) : Nat :=
  ((retries.filter (· != 0)).getD c.maxRetries).toNat

/-- A request needs an address, whose host a header repeats. -/
def request (c : Client) (o : Outgoing) : Except Defect Request := do
  let some url := Url.forRequest? (c.baseUrl ++ o.path).toList (o.query.map String.toList)
    | throw (.link .invalidUrl)
  if url.host.any (127 < ·.toNat) then throw .unencodable
  return ⟨o.method, url, c.email ++ ":" ++ c.token, o.body⟩

def send (c : Client) (o : Outgoing) (retries : Option Int) (link : Link) : Turn Link Reply :=
  match c.attemptsFor retries, c.request o with
  | 0, _ => done (.error (notAttempted o)) link
  | n, .ok request => attempts c.host o request n c.backoff link
  | _, .error d => done (.error (.defect d)) link

end Client

def bareKey (key : String) : String := String.ofList (Text.trim key.toList)

/-- The member of a value that counts as an empty object when it is absent. -/
def innerMember (v : Json) (name : String) : Except Defect Json :=
  if !v.isTruthy then .ok .null
  else match v with
    | .obj _ => .ok (v.get name)
    | _ => .error .noMember

def firstText (a b : Json) : String :=
  let v := if a.isTruthy then a else b
  if v.isTruthy then String.ofList (Text.trim v.text.toList) else ""

/-- The name of the status in an issue, or else its number; empty when it has neither. -/
def rawStatus (data : Json) : Except Defect String := do
  let status ← innerMember (data.get "fields") "status"
  let name ← innerMember status "name"
  let id ← innerMember status "id"
  return firstText name id

def orDefect {α : Type} (r : Except Defect α) : Except Fault α := r.mapError .defect

def readStatus (depth : Nat) (key : String) (r : Reply) : Except Fault String := do
  if isUnavailable r.status then
    throw <| .failure <| .trackerUnavailable s!"Jira status lookup for {key} returned {r.status}"
      [("ticket_key", .str key), ("status", .int r.status)]
  if r.status = 404 then
    throw <| .failure <| .lookupFailed key s!"Ticket {key} no longer exists" (some 404)
  if r.isError then
    let text ← orDefect (r.errorText depth)
    throw <| .failure <|
      .lookupFailed key s!"Jira status lookup for {key} failed: {text}" r.status
  let data ← orDefect (r.requiredJson depth)
  let raw ← orDefect (rawStatus data)
  if raw = "" then
    throw (.failure (.lookupFailed key s!"Jira returned no status for {key}" none))
  return raw

/-- The objects in a list of components; a refused list counts as an empty one. -/
def readComponents (depth : Nat) (r : Reply) : Except Fault (List Json) := do
  if r.isError then return []
  match ← orDefect (r.requiredJson depth) with
  | .arr items => return items.filter fun
    | .obj _ => true
    | _ => false
  | _ => return []

def foldName (name : List Char) : List Char := Text.fold (Text.trim name)

private def trimmedText (v : Json) : List Char :=
  if v.isTruthy then Text.trim v.text.toList else []

def componentId? (listed : List Json) (name : String) : Option String :=
  (listed.reverse.find? fun item =>
    Text.fold (trimmedText (item.get "name")) == foldName name.toList).map fun item =>
      String.ofList (trimmedText (item.get "id"))

/-- A known component is given by its id, any other one by its name. -/
def componentJson (listed : List Json) (name : String) : Json :=
  match (componentId? listed name).filter (· != "") with
  | some id => .obj [("id", .str id)]
  | none => .obj [("name", .str name)]

def readCreated (depth : Nat) (r : Reply) : Except Fault Issue := do
  if r.isError then
    let text ← orDefect (r.errorText depth)
    throw <| .failure <|
      .createFailed s!"Jira rejected issue creation ({r.status}): {text}" r.status
  let data ← orDefect (r.requiredJson depth)
  let key := firstText (data.get "key") .null
  if key = "" then
    throw (.failure (.createFailed "Jira did not return an issue key" r.status))
  let id := data.get "id"
  return ⟨if id.isTruthy then id.text else "", key⟩

def readCommented (depth : Nat) (key : String) (r : Reply) : Except Fault Unit := do
  if r.isError then
    let text ← orDefect (r.errorText depth)
    throw <| .failure <|
      .commentFailed key s!"Jira rejected comment on {key} ({r.status}): {text}" r.status

namespace Client

def status (c : Client) (key : String) (link : Link) : Turn Link String :=
  let key := bareKey key
  andThen (c.send ⟨.get, s!"/rest/api/3/issue/{key}", some "fields=status", none⟩ none link)
    fun r => done (readStatus c.host.jsonDepth key r)

def components (c : Client) (project : String) (link : Link) : Turn Link (List Json) :=
  andThen (c.send ⟨.get, s!"/rest/api/3/project/{project}/components", none, none⟩ none link)
    fun r => done (readComponents c.host.jsonDepth r)

def fieldsJson (c : Client) (form : IssueForm) (resolved : Option (List Json)) : Json :=
  .obj <| [("project", .obj [("key", .str form.projectKey)]), ("summary", .str form.summary),
    ("description", documentJson form.description),
    ("issuetype", .obj [("name", .str c.issueType)])] ++
    Failure.present [
      ("assignee", (form.assignee.filter (· != "")).map fun id => .obj [("accountId", .str id)]),
      ("components", resolved.map .arr)]

def resolve (c : Client) (form : IssueForm) (link : Link) : Turn Link (Option (List Json)) :=
  match form.components.filter (fun names => !names.isEmpty) with
  | none => done (.ok none) link
  | some names => andThen (c.components form.projectKey link) fun listed =>
    done (.ok (some (names.map (componentJson listed))))

def create (c : Client) (form : IssueForm) (link : Link) : Turn Link Issue :=
  andThen (c.resolve form link) fun resolved link =>
    andThen (c.send ⟨.post, "/rest/api/3/issue", none,
        some (.obj [("fields", c.fieldsJson form resolved)])⟩ (some 1) link)
      fun r => done (readCreated c.host.jsonDepth r)

def comment (c : Client) (key text : String) (link : Link) : Turn Link Unit :=
  let key := bareKey key
  andThen (c.send ⟨.post, s!"/rest/api/3/issue/{key}/comment", none,
      some (.obj [("body", documentJson text)])⟩ (some 1) link)
    fun r => done (readCommented c.host.jsonDepth key r)

def tracker (c : Client) : Tracker Link := ⟨c.create, c.status, c.comment⟩

end Client

end TicketKeeper.Jira
