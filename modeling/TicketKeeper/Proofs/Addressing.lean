import TicketKeeper.Proofs.Endpoint
import TicketKeeper.Proofs.Store.Rereading
import TicketKeeper.Proofs.Surfaces
import TicketKeeper.Proofs.Telling

/-! The ticket that a report has created, at the address of its job. Reports are filed under the
clean spelling of a job's name, while an address is taken as it is spelled: only a name that is
clean leads to the ticket. -/
namespace TicketKeeper

open Store (Backend Depot)

/-! ### In a cycle -/

variable {τ : Type} {es : List Exchange} {key : String}

namespace Step

variable {job : String} {n : Int} {done done' : Applied}

theorem Course.opened {step : Step} (h : Course job n done step es (.ok done'))
    (created : done'.created = some key) : done.created = some key ∨
      ∃ form issue, ⟨.create form, .ok issue⟩ ∈ es ∧ issue.key = key := by
  cases h with
  | @created draft issue =>
    exact .inr ⟨draft.form, issue, List.mem_cons_self, Option.some.inj created⟩
  | commented | forgotten => exact .inl created

theorem Courses.opened {steps : List Step} (h : Courses job n done steps es (.ok done'))
    (created : done'.created = some key) : done.created = some key ∨
      ∃ form issue, ⟨.create form, .ok issue⟩ ∈ es ∧ issue.key = key := by
  generalize given : (.ok done' : Except Fault Applied) = r at h
  induction h with
  | done =>
    cases given
    exact .inl created
  | stopped => cases given
  | next step _ ih =>
    obtain before | ⟨form, issue, opened, same⟩ := ih given
    · obtain before | ⟨form, issue, opened, same⟩ := step.opened before
      · exact .inl before
      · exact .inr ⟨form, issue, List.mem_append_left _ opened, same⟩
    · exact .inr ⟨form, issue, List.mem_append_right _ opened, same⟩

end Step

theorem Job.Course.opened {j : Job} {r : CycleResult} (h : j.Course es (.ok r))
    (created : r.applied.created = some key) :
    ∃ form issue, ⟨.create form, .ok issue⟩ ∈ es ∧ issue.key = key := by
  cases h with
  | applied choice courses =>
    obtain before | ⟨form, issue, opened, same⟩ := courses.opened created
    · cases before
    · exact ⟨form, issue, List.mem_append_right _ opened, same⟩

/-- A cycle that reports a created ticket ends as its record is saved, and has no part in the
records of the jobs that are kept apart. -/
theorem reconcile_saves_created (t : Tracker τ) (b : Backend) (j : Job)
    {scene scene' : Scene τ Depot} {r : CycleResult}
    (ended : ((Parties.mk t b.store).reconcile j).run scene = (.ok r, scene'))
    (created : r.applied.created = some key) :
    r.build = j.report.number ∧
      (∃ before, b.store.save j.report.job (some key) (some j.report.number) before =
        (.ok (), scene'.store)) ∧
      ∀ other, b.Separates j.report.job other →
        b.keeping.stands scene'.store other = b.keeping.stands scene.store other := by
  obtain ⟨es, path, stored, -, -⟩ := (Parties.mk t b.store).carry_spec j.plan scene
  have ended : (Parties.mk t b.store).carry j.plan scene = (.ok r, scene') := ended
  rw [ended] at path stored
  have course := Job.course path
  obtain ⟨form, issue, opened, rfl⟩ := course.opened created
  obtain ⟨-, -, before, reply, -, saved, same⟩ := course.saved b.keeping opened stored
  obtain rfl := Keeping.ok_of_isOk same.symm
  obtain ⟨record, account⟩ := course.account b.keeping stored
  refine ⟨?_, ⟨before, saved⟩, fun other apart => account.stands_apart (by simpa using apart)⟩
  cases course
  rfl

/-! ### In the service -/

namespace Service

open Endpoint (ticketAt)

/-- The ticket and the number of a build that an answer tells under two names. -/
def HttpResponse.tells? (response : HttpResponse) (ticket build : String) : Option (String × Int) :=
  match response.content with
  | .json v => match v.get ticket, v.get build with
    | .str key, .int n => if response.status = 200 then some (key, n) else none
    | _, _ => none
  | _ => none

theorem HttpResponse.tells?_eq_some_iff {response : HttpResponse} {ticket build key : String}
    {n : Int} : response.tells? ticket build = some (key, n) ↔ response.status = 200 ∧
      ∃ v, response.content = .json v ∧ v.get ticket = .str key ∧ v.get build = .int n := by
  constructor
  · intro told
    unfold tells? at told
    split at told
    · rename_i v shown
      split at told
      · rename_i key' n' ticket' build'
        obtain ⟨ok, same⟩ := Option.ite_none_right_eq_some.mp told
        cases same
        exact ⟨ok, v, shown, ticket', build'⟩
      · cases told
    · cases told
  · rintro ⟨ok, v, shown, ticket', build'⟩
    simp only [tells?, shown, ticket', build', ok, if_true]

theorem get_of_ofFault {f : Fault} {v : Json} (h : (HttpResponse.ofFault f).content = .json v)
    {name : String} (other : name ∉ ["error", "message", "error_code", "details"]) :
    v.get name = .null := by
  cases f with
  | failure g =>
    rw [HttpResponse.ofFault, HttpResponse.ofFailure] at h
    split at h
    · obtain rfl := Content.json.inj h
      simp only [List.mem_cons, List.not_mem_nil, or_false, not_or] at other
      simp [Failure.toJson, Json.get, Json.member?, List.lookup_cons, List.lookup_nil,
        beq_false_of_ne, other]
    · cases h
  | invalid vs => cases h
  | defect d => cases h

def ticketAnswer (job : String) : Except Fault (Option Record) → HttpResponse
  | .ok (some r) => ⟨200, .json (Server.ticketJson job r), none⟩
  | .ok none => .ofFailure (.notFound "no_tracked_ticket" [("job_name", .str job)])
  | .error f => .ofFault f

theorem found_of_ticketAnswer {job key : String} {found : Except Fault (Option Record)} {v : Json}
    (shown : (ticketAnswer job found).content = .json v) (told : v.get "ticket_key" = .str key) :
    ∃ r, found = .ok (some r) ∧ r.key = key ∧ v.get "last_build_number" = .ofInt? r.build := by
  have refused (f : Fault) (shown : (HttpResponse.ofFault f).content = .json v) : False := by
    rw [get_of_ofFault shown (by decide)] at told
    cases told
  cases found with
  | error f => exact (refused f shown).elim
  | ok found =>
    cases found with
    | none => exact (refused (.failure _) shown).elim
    | some r =>
      obtain rfl := Content.json.inj shown
      exact ⟨r, rfl, Json.str.inj told, rfl⟩

def forgetAnswer : Except Fault Unit → HttpResponse
  | .ok () => ⟨204, .empty, none⟩
  | .error f => .ofFault f

theorem fields_of_readReport {body : Json} {report : Report}
    (h : readReport (.json body) = .ok report) :
    report.job = Field.line (body.get "job_name") ∧
      Report.buildNumber (body.get "build_number") = .ok report.number := by
  cases body with
  | obj members =>
    cases read : Report.ofMembers members with
    | error f =>
      rw [readReport, read] at h
      cases h
    | ok report' =>
      rw [readReport, read] at h
      cases h
      obtain ⟨v, found, same⟩ := Report.job_of_ofMembers read
      obtain ⟨v', found', number⟩ := Report.buildNumber_of_ofMembers read
      rw [same, Json.get, found, Json.get, found']
      exact ⟨rfl, number⟩
  | _ => cases h

theorem feedless_line (v : Json) : (Field.line v).toList.contains '\n' = false := by
  rw [List.contains_eq_mem, decide_eq_false_iff_not]
  intro feed
  have ends := Report.isLine_field v _ feed
  exact absurd ends (by decide)

theorem created_of_toJson {result : CycleResult} {key : String}
    (h : result.toJson.get "created_ticket_key" = .str key) :
    result.applied.created = some key := by
  change Json.ofString? result.applied.created = .str key at h
  cases created : result.applied.created with
  | none =>
    rw [created] at h
    cases h
  | some key' =>
    rw [created] at h
    exact congrArg some (Json.str.inj h)

namespace Server

variable {s : Server τ} {r : HttpRequest} {b : Backend} {key : String} {n : Int}
  {scene : Scene τ Depot}

theorem handle_unknown (method : r.method ≠ "HEAD")
    (routed : route r.method r.path.toList = .unknown) :
    s.handle r scene =
      (.detail 404 "Not Found", { scene with store := scene.store.newSession }) := by
  simp only [handle, routed, if_neg method]

section

variable (chosen : Backend.choose (.str s.settings.backend) true
  (Store.pathNames s.settings.storeDirectory) = .ok b)

include chosen

theorem reconcile_of_run {body : Body} {response : HttpResponse} {scene' : Scene τ Depot}
    (ran : (s.run r body .reconcile).run scene = (.ok response, scene')) :
    checkToken s.settings.ciToken (r.header? tokenHeader) = .ok () ∧
      ∃ (tracker : Tracker τ) (report : Report) (result : CycleResult),
        readReport body = .ok report ∧ response = told (.ok result) ∧
        ((Parties.mk tracker b.store).reconcile (Job.ofReport s.settings report)).run scene =
          (.ok result, scene') := by
  unfold Server.run Server.reconcile at ran
  cases admitted : checkToken s.settings.ciToken (r.header? tokenHeader) with
  | error f =>
    simp only [admitted] at ran
    cases ran
  | ok _ =>
  refine ⟨rfl, ?_⟩
  simp only [admitted, Server.store, chosen, Except.map, failures_ok, lift_ok, pure_bind] at ran
  cases reached : s.tracker with
  | error f =>
    rw [reached] at ran
    cases ran
  | ok tracker =>
  simp only [reached, failures_ok, lift_ok, pure_bind] at ran
  cases read : readReport body with
  | error f =>
    rw [read] at ran
    cases ran
  | ok report =>
  simp only [read, Except.mapError, lift_ok, pure_bind, Cycle.run_bind] at ran
  rcases cycle : ((Parties.mk tracker b.store).reconcile (Job.ofReport s.settings report)).run scene
    with ⟨f | result, after⟩
  · rw [cycle] at ran
    cases ran
  · rw [cycle] at ran
    cases ran
    exact ⟨tracker, report, result, rfl, rfl, cycle⟩

/-- A report that is answered with a created ticket was admitted, and its ticket is saved under the
clean spelling of its job's name; the records of the jobs that are kept apart are as they were. -/
theorem handle_created (routed : route r.method r.path.toList = .run .reconcile) {body : Json}
    (read : readBody r s.settings.host.jsonDepth = .ok (.json body))
    (told : (s.handle r scene).1.tells? "created_ticket_key" "build_number" = some (key, n)) :
    let job := Field.line (body.get "job_name")
    checkToken s.settings.ciToken (r.header? tokenHeader) = .ok () ∧
      Report.buildNumber (body.get "build_number") = .ok n ∧
      (∃ before, b.store.save job (some key) (some n) before =
        (.ok (), (s.handle r scene).2.store)) ∧
      ∀ other, b.Separates job other →
        b.keeping.stands (s.handle r scene).2.store other = b.keeping.stands scene.store other := by
  obtain ⟨-, v, shown, created, number⟩ := HttpResponse.tells?_eq_some_iff.mp told
  have full : r.method ≠ "HEAD" := by
    rw [post_of_route routed]
    decide
  simp only [handle, routed, if_true, read, answer, if_neg full] at shown ⊢
  rcases ran : (s.run r (.json body) .reconcile).run
    { scene with store := scene.store.newSession } with ⟨f | response, after⟩
  · rw [ran] at shown
    rw [get_of_ofFault shown (by decide)] at created
    cases created
  · rw [ran] at shown
    obtain ⟨admitted, tracker, report, result, accepted, rfl, cycle⟩ := reconcile_of_run chosen ran
    obtain rfl := Content.json.inj shown
    obtain ⟨built, saved, others⟩ :=
      reconcile_saves_created tracker b _ cycle (created_of_toJson created)
    obtain ⟨job, given⟩ := fields_of_readReport accepted
    obtain rfl : report.number = n := built.symm.trans (Json.int.inj number)
    rw [← job]
    refine ⟨admitted, given, saved, fun other apart => ?_⟩
    rw [others other apart, b.stands_newSession]

end

end Server

/-- A request about the ticket of a job, which shows the same token as another one. -/
structure HttpRequest.Asks (ask : HttpRequest) (method job : String) (r : HttpRequest) : Prop where
  method : ask.method = method
  path : ask.path = String.ofList (ticketAt job.toList)
  token : ask.header? tokenHeader = r.header? tokenHeader

section Asking

variable {s : Server τ} {b : Backend} {r ask get drop : HttpRequest} {job method : String}
  {scene : Scene τ Depot}

theorem HttpRequest.Asks.routed (h : ask.Asks method job r)
    (allowed : method = "GET" ∨ method = "DELETE") : route method ask.path.toList =
      if job.toList.contains '\n' then .unknown else .run (.ticket job.toList) := by
  rw [h.path, String.toList_ofList, route_ticketAt allowed]

namespace Server

theorem handle_feed (asks : ask.Asks method job r) (allowed : method = "GET" ∨ method = "DELETE")
    (feed : job.toList.contains '\n' = true) :
    s.handle ask scene =
      (.detail 404 "Not Found", { scene with store := scene.store.newSession }) := by
  have routed := asks.routed allowed
  rw [if_pos feed, ← asks.method] at routed
  refine handle_unknown ?_ routed
  rw [asks.method]
  rcases allowed with rfl | rfl <;> decide

variable (chosen : Backend.choose (.str s.settings.backend) true
    (Store.pathNames s.settings.storeDirectory) = .ok b)
  (admitted : checkToken s.settings.ciToken (r.header? tokenHeader) = .ok ())

include chosen admitted

theorem handle_get (asks : ask.Asks "GET" job r) (feedless : job.toList.contains '\n' = false)
    (scene : Scene τ Depot) :
    (s.handle ask scene).1 = ticketAnswer job (b.store.load job scene.store.newSession).1 ∧
      (s.handle ask scene).2.store = (b.store.load job scene.store.newSession).2 := by
  have routed := asks.routed (.inl rfl)
  rw [feedless, if_neg Bool.false_ne_true] at routed
  rw [← asks.token] at admitted
  simp only [handle, asks.method, routed, reduceCtorEq, if_false, answer, run, admitted, lift_ok,
    pure_bind, String.reduceEq, tracked, Server.store, chosen, Except.map, failures_ok,
    Cycle.run_bind]
  rw [Cycle.run_onStore, String.ofList_toList]
  dsimp only
  rcases b.store.load job scene.store.newSession with ⟨_ | _ | _, _⟩ <;> exact ⟨rfl, rfl⟩

theorem handle_delete (asks : ask.Asks "DELETE" job r)
    (feedless : job.toList.contains '\n' = false) (scene : Scene τ Depot) :
    (s.handle ask scene).1 = forgetAnswer (b.store.clear job scene.store.newSession).1 ∧
      (s.handle ask scene).2.store = (b.store.clear job scene.store.newSession).2 := by
  have routed := asks.routed (.inr rfl)
  rw [feedless, if_neg Bool.false_ne_true] at routed
  rw [← asks.token] at admitted
  simp only [handle, asks.method, routed, reduceCtorEq, if_false, if_true, answer, run, admitted,
    lift_ok, pure_bind, String.reduceEq, forget, Server.store, chosen, Except.map, failures_ok,
    Cycle.run_bind]
  rw [Cycle.run_onStore, String.ofList_toList]
  dsimp only
  rcases b.store.clear job scene.store.newSession with ⟨_ | _, _⟩ <;> exact ⟨rfl, rfl⟩

/-- The ticket of a job that has a record is shown, then dropped, then missing. -/
theorem handle_tracked (getting : get.Asks "GET" job r) (dropping : drop.Asks "DELETE" job r)
    (feedless : job.toList.contains '\n' = false) (calm : b.Calm scene.store) {record : Record}
    (loaded : (b.store.load job scene.store).1 = .ok (some record)) :
    let seen := s.handle get scene
    let gone := s.handle drop seen.2
    let again := s.handle get gone.2
    seen.1 = ⟨200, .json (ticketJson job record), none⟩ ∧ gone.1 = ⟨204, .empty, none⟩ ∧
      again.1 = .ofFailure (.notFound "no_tracked_ticket" [("job_name", .str job)]) := by
  intro seen gone again
  have shown : b.store.load job scene.store.newSession =
      (.ok (some record), scene.store.newSession) := by
    have loaded := (Backend.load_newSession calm job).trans loaded
    exact Prod.ext loaded (b.keeping.load_ok loaded)
  obtain ⟨d', cleared, missing, calm'⟩ := Backend.cleared_of_load (congrArg Prod.fst shown)
  obtain ⟨answer, store⟩ := handle_get chosen admitted getting feedless scene
  rw [shown] at answer store
  obtain ⟨answer', store'⟩ := handle_delete chosen admitted dropping feedless seen.2
  rw [store, Store.Depot.newSession_newSession, cleared] at answer' store'
  obtain ⟨answer'', -⟩ := handle_get chosen admitted getting feedless gone.2
  rw [store', Backend.load_newSession calm', missing] at answer''
  exact ⟨answer, answer', answer''⟩

theorem loaded_of_tells (getting : get.Asks "GET" job r) {key : String} {n : Int}
    (seen : (s.handle get scene).1.tells? "ticket_key" "last_build_number" = some (key, n)) :
    (b.store.load job scene.store.newSession).1 = .ok (some ⟨key, some n⟩) := by
  obtain ⟨ok, v, shown, told, built⟩ := HttpResponse.tells?_eq_some_iff.mp seen
  cases feed : job.toList.contains '\n' with
  | true =>
    rw [handle_feed getting (.inl rfl) feed] at ok
    cases ok
  | false =>
    rw [(handle_get chosen admitted getting feed scene).1] at shown
    obtain ⟨⟨key, build⟩, found, rfl, last⟩ := found_of_ticketAnswer shown told
    rw [found]
    rw [built] at last
    cases build with
    | none => cases last
    | some n' => cases last; rfl

theorem stands_asked (getting : get.Asks "GET" job r) (dropping : drop.Asks "DELETE" job r)
    {other : String} (apart : b.Separates job other) :
    b.keeping.stands (s.handle drop (s.handle get scene).2).2.store other =
      b.keeping.stands scene.store other := by
  cases feed : job.toList.contains '\n' with
  | true =>
    rw [handle_feed dropping (.inr rfl) feed, b.stands_newSession,
      handle_feed getting (.inl rfl) feed, b.stands_newSession]
  | false =>
    have apart : b.keeping.apart job other := by rwa [b.keeping_apart]
    rw [(handle_delete chosen admitted dropping feed _).2]
    refine (b.keeping.write_apart .clear apart).trans ?_
    rw [b.stands_newSession, (handle_get chosen admitted getting feed _).2, b.keeping.stands_load,
      b.stands_newSession]

end Server

/-- The ticket that a report creates is shown at the address of its job, with the number of the
build, and can be dropped there, when the name of the job is clean and the store keeps the key, and
only then. A ticket that was reported under another spelling stays tracked, whatever is dropped. -/
theorem created_ticket_addressed_iff (chosen : Backend.choose (.str s.settings.backend) true
      (Store.pathNames s.settings.storeDirectory) = .ok b)
    (routed : route r.method r.path.toList = .run .reconcile) {body : Json}
    (read : readBody r s.settings.host.jsonDepth = .ok (.json body)) {name : String}
    (named : body.get "job_name" = .str name)
    {key : String} {n : Int}
    (told : (s.handle r scene).1.tells? "created_ticket_key" "build_number" = some (key, n))
    (apart : Field.line (.str name) ≠ name →
      b.Separates name (Field.line (.str name)) ∧ b.keeping.stands scene.store name = none)
    (getting : get.Asks "GET" name r) (dropping : drop.Asks "DELETE" name r) :
    let seen := s.handle get (s.handle r scene).2
    let gone := s.handle drop seen.2
    let again := s.handle get gone.2
    Report.buildNumber (body.get "build_number") = .ok n ∧
    (seen.1.tells? "ticket_key" "last_build_number" = some (key, n) ∧ gone.1.status = 204 ∧
        again.1.status = 404 ↔
      Field.line (.str name) = name ∧ b.Keeps key) ∧
    (Field.line (.str name) ≠ name → b.Keeps key →
      b.keeping.stands gone.2.store (Field.line (.str name)) = some ⟨key, some n⟩) := by
  intro seen gone again
  obtain ⟨admitted, given, ⟨before, saved⟩, others⟩ :=
    Server.handle_created chosen routed read told
  rw [named] at saved others
  have calm : b.Calm (s.handle r scene).2.store := by
    have calm := Backend.calm_write (w := .save (some key) (some n)) (congrArg Prod.fst saved)
    rwa [Store.write, saved] at calm
  have loaded := Backend.load_saved_iff saved
  refine ⟨given, ⟨?_, ?_⟩, fun unclean keeps => ?_⟩
  · rintro ⟨told, -, -⟩
    have found := Server.loaded_of_tells chosen admitted getting told
    by_cases clean : Field.line (.str name) = name
    · rw [Backend.load_newSession calm, ← clean] at found
      exact ⟨clean, loaded.mp found⟩
    · obtain ⟨separate, missing⟩ := apart clean
      have stands := (b.keeping.found found).1
      rw [b.stands_newSession, others name separate.symm, missing] at stands
      cases stands
  · rintro ⟨clean, keeps⟩
    have feedless := feedless_line (.str name)
    rw [clean] at loaded feedless
    obtain ⟨told, dropped, missed⟩ := Server.handle_tracked chosen admitted getting dropping
      feedless calm (loaded.mpr keeps)
    rw [told, dropped, missed]
    exact ⟨rfl, rfl, rfl⟩
  · obtain ⟨separate, -⟩ := apart unclean
    rw [Server.stands_asked chosen admitted getting dropping separate]
    exact (b.keeping.found (loaded.mpr keeps)).1

def HttpRequest.asking (method job : String) : HttpRequest where
  method := method
  path := String.ofList (ticketAt job.toList)

/-- A ticket is created, shown and dropped. -/
theorem created_ticket_addressed_iff_plain :
    let s : Server Board := ⟨.connected "database", .ok Board.tracker⟩
    let after := (s.handle (.posting failingMembers) ⟨{}, {}, []⟩).2
    let seen := s.handle (.asking "GET" "J") after
    let gone := s.handle (.asking "DELETE" "J") seen.2
    seen.1.tells? "ticket_key" "last_build_number" = some ("T-101", 7) ∧ gone.1.status = 204 ∧
      (s.handle (.asking "GET" "J") gone.2).1.status = 404 := by
  intro s
  have chosen : Backend.choose (.str s.settings.backend) true
      (Store.pathNames s.settings.storeDirectory) = .ok .table :=
    Backend.choose_table (by decide +kernel) _
  have routed : route "POST" (String.ofList Endpoint.reconcilePath).toList = .run .reconcile := by
    decide
  have read : readBody (.posting failingMembers) s.settings.host.jsonDepth =
      .ok (.json (.obj failingMembers)) := by rfl
  have told : (s.handle (.posting failingMembers) ⟨{}, {}, []⟩).1.tells?
      "created_ticket_key" "build_number" = some ("T-101", 7) := by
    decide +kernel
  have clean : Field.line (.str "J") = "J" := by decide
  have asks (method : String) :
      (HttpRequest.asking method "J").Asks method "J" (.posting failingMembers) := ⟨rfl, rfl, rfl⟩
  -- what follows holds of any server that answers so
  clear_value s
  obtain ⟨-, addressed, -⟩ := created_ticket_addressed_iff chosen routed read rfl told
    (fun unclean => absurd clean unclean) (asks "GET") (asks "DELETE")
  exact addressed.mpr ⟨clean, trivial⟩

/-- With two blanks in its name the job gets its ticket, but nothing is shown there; dropping it
there leaves the ticket with the job of the clean name. -/
theorem created_ticket_misaddressed :
    let s : Server Board := ⟨.connected "database", .ok Board.tracker⟩
    let out := s.handle (.posting (("job_name", .str "a  b") :: failingMembers.tail)) ⟨{}, {}, []⟩
    let gone := s.handle (.asking "DELETE" "a  b") out.2
    out.1.status = 200 ∧ kinds (exchanges out.2.log) = [.load, .create, .save] ∧
      (s.handle (.asking "GET" "a  b") out.2).1.status = 404 ∧
      gone.1.status = 204 ∧ (s.handle (.asking "GET" "a b") gone.2).1.status = 200 := by
  refine ⟨?_, ?_, ?_, ?_, ?_⟩
  · decide +kernel
  · decide +kernel
  · decide +kernel
  · decide +kernel
  · decide +kernel

end Asking
end Service
end TicketKeeper
