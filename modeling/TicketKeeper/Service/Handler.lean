import TicketKeeper.Cycle
import TicketKeeper.Json.Reader
import TicketKeeper.Json.Writer
import TicketKeeper.Service.Admission
import TicketKeeper.Service.Description
import TicketKeeper.Service.Endpoint
import TicketKeeper.Service.Message
import TicketKeeper.Store.Depot
import TicketKeeper.Url.Percent

/-! The web service: it takes reports of finished builds, shows the tracked ticket of a job and
forgets it. A request passes its checks in a fixed order: the syntax of its body, the token, the
store, the tracker, and last the fields of the report. -/
namespace TicketKeeper.Service

open TicketKeeper.Store (Backend Depot)
open TicketKeeper.Text (trim splitAt cutAt)

/-- The service under settings; the tracker is reached anew for each request that needs it. -/
structure Server (τ : Type) where
  settings : Settings
  connect : Except Failure (Tracker τ)

inductive Body
  | absent
  | json (v : Json)
  | raw

def isJsonType (contentType : String) : Bool :=
  match splitAt '/' ((trim (cutAt ';' contentType.toList).1).map Char.toLower) with
  | [main, sub] =>
    main == "application".toList && (sub == "json".toList || "+json".toList.isSuffixOf sub)
  | _ => false

def readBody (r : HttpRequest) (depth : Nat := Json.usualDepth) : Except HttpResponse Body :=
  if r.body.isEmpty then .ok .absent
  else if (r.header? "content-type").any isJsonType then
    match Json.ofBytes r.body depth with
    | .ok v => .ok (.json v)
    | .error (.malformed n) =>
      .error ⟨422, .violations [⟨.malformedJson, [.field "body", .index n]⟩], none⟩
    | .error _ => .error (.detail 400 "There was an error parsing the body")
  else .ok .raw

private def inBody (v : Violation) : Violation := { v with place := .field "body" :: v.place }

def readReport : Body → Except Fault Report
  | .absent | .json .null => .error (.invalid [⟨.missing, [.field "body"]⟩])
  | .json (.obj members) => (Report.ofMembers members).mapError fun
    | .invalid vs => .invalid (vs.map inBody)
    | f => f
  | .json _ | .raw => .error (.invalid [⟨.notMapping, [.field "body"]⟩])

/-- The value that breaks a rule: the whole body when a field of it is missing. A text that breaks
one is told in its clean form. -/
def refusedValue (body : Json) (v : Violation) : Json :=
  match v.rule, v.place with
  | .tooShort, _ | .tooLong, _ => .null
  | .missing, _ => body
  | _, [_, .field name] => body.get name
  | _, _ => body

/-- A refusal tells the values that it is about, which must be writable. -/
def refuseReport (body : Body) : Fault → Fault
  | .invalid vs => match body with
    | .json v => if vs.all fun b => (refusedValue v b).isWritable then .invalid vs
      else .defect .badValue
    | _ => .invalid vs
  | f => f

variable {τ : Type}

private def lift {α : Type} (r : Except Fault α) : Cycle τ Depot α :=
  match r with
  | .ok a => return a
  | .error f => throw f

@[simp] theorem lift_ok {α : Type} (a : α) : (lift (.ok a) : Cycle τ Depot α) = pure a := rfl

@[simp] theorem lift_error {α : Type} (f : Fault) : (lift (.error f) : Cycle τ Depot α) = throw f :=
  rfl

namespace Server

def store (s : Server τ) : Except Failure (Store Depot) :=
  (Backend.choose (.str s.settings.backend) true (Store.pathNames s.settings.storeDirectory)).map
    Backend.store

def tracker (s : Server τ) : Except Failure (Tracker τ) :=
  if s.settings.jiraReady then s.connect
  else .error (.invalidConfiguration "Jira credentials are not configured" "JIRA_BASE_URL")

private def failures {α : Type} (r : Except Failure α) : Except Fault α := r.mapError .failure

@[simp] theorem failures_ok {α : Type} (a : α) : failures (.ok a) = .ok a := rfl

def reconcile (s : Server τ) (body : Body) : Cycle τ Depot HttpResponse := do
  let store ← lift (failures s.store)
  let tracker ← lift (failures s.tracker)
  let report ← lift ((readReport body).mapError (refuseReport body))
  let result ← Parties.reconcile ⟨tracker, store⟩ (Job.ofReport s.settings report)
  return ⟨200, .json result.toJson, none⟩

def ticketJson (job : String) (r : Record) : Json :=
  .obj [("job_name", .str job), ("ticket_key", .str r.key), ("last_build_number", .ofInt? r.build)]

def tracked (s : Server τ) (job : String) : Cycle τ Depot HttpResponse := do
  let store ← lift (failures s.store)
  match ← Cycle.onStore (.load job) (store.load job) with
  | some record => return ⟨200, .json (ticketJson job record), none⟩
  | none => throw (.failure (.notFound "no_tracked_ticket" [("job_name", .str job)]))

def forget (s : Server τ) (job : String) : Cycle τ Depot HttpResponse := do
  let store ← lift (failures s.store)
  Cycle.onStore (.clear job) (store.clear job)
  return ⟨204, .empty, none⟩

def run (s : Server τ) (r : HttpRequest) (body : Body) (e : Endpoint) :
    Cycle τ Depot HttpResponse := do
  let checked : Cycle τ Depot Unit := lift (checkToken s.settings.ciToken (r.header? tokenHeader))
  match e with
  | .description => return ⟨200, .json (Description.document s.settings.appName), none⟩
  | .page => return ⟨200, .text "", none⟩
  | .reconcile => do
    checked
    s.reconcile body
  | .ticket job => do
    checked
    if r.method = "DELETE" then s.forget (String.ofList job) else s.tracked (String.ofList job)

def answer (s : Server τ) (r : HttpRequest) (body : Body) (e : Endpoint)
    (scene : Scene τ Depot) : HttpResponse × Scene τ Depot :=
  match (s.run r body e).run scene with
  | (.ok response, scene) => (response, scene)
  | (.error f, scene) => (.ofFault f, scene)

private def isPathSafe (c : Char) : Bool :=
  (c.toNat < 128 && c.isAlphanum) || ['_', '.', '-', '~', '/'].contains c

def location (host : String) (path : List Char) (query : String) : String :=
  let escaped := path.flatMap fun c => if isPathSafe c then [c] else Url.percentChar c
  "http://" ++ host ++ String.ofList escaped ++ (if query = "" then "" else "?" ++ query)

/-- Answers one request, each with a database session of its own. -/
def handle (s : Server τ) (r : HttpRequest) (scene : Scene τ Depot) :
    HttpResponse × Scene τ Depot :=
  let scene := { scene with store := scene.store.newSession }
  let (response, scene) := match route r.method r.path.toList with
    | .run e =>
      match (if e = Endpoint.reconcile then readBody r s.settings.host.jsonDepth else .ok .absent) with
      | .ok body => s.answer r body e scene
      | .error response => (response, scene)
    | .wrongMethod => (.detail 405 "Method Not Allowed", scene)
    | .elsewhere path =>
      (⟨307, .empty, some (location ((r.header? "host").getD "") path r.query)⟩, scene)
    | .unknown => (.detail 404 "Not Found", scene)
  (if r.method = "HEAD" then response.headOnly else response, scene)

end Server

end TicketKeeper.Service
