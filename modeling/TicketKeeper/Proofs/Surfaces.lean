import TicketKeeper.Proofs.CommandLine.Fields
import TicketKeeper.Proofs.Cycle.Order
import TicketKeeper.Proofs.Run
import TicketKeeper.Proofs.Endpoint
import TicketKeeper.Service.Handler

/-! The service and the command line, for one and the same report. Both run the same cycle for it;
they come apart only over the name of the table, which the service takes in any case. -/
namespace TicketKeeper

open Store (Backend Depot)
open Text (trim)

namespace Report

theorem ofMembers_error {members : List (String × Json)} {f : Fault}
    (h : ofMembers members = .error f) (g : Failure) : f ≠ .failure g := by
  unfold ofMembers at h
  dsimp only at h
  split at h
  · cases h
    exact Fault.noConfusion
  split at h
  · cases h
  · cases h
    exact Fault.noConfusion

end Report

theorem Cycle.run_bind {τ σ α β : Type} (x : Cycle τ σ α) (f : α → Cycle τ σ β)
    (scene : Scene τ σ) :
    (x >>= f).run scene = match x.run scene with
      | (.ok a, scene) => (f a).run scene
      | (.error fault, scene) => (.error fault, scene) := by
  change (match x.run scene with | (r, scene) => ExceptT.bindCont f r scene) = _
  rcases x.run scene with ⟨_ | _, _⟩ <;> rfl

theorem Cycle.run_onStore {τ σ : Type} (c : Call) (act : Act σ c.Reply) (scene : Scene τ σ) :
    (Cycle.onStore c act).run scene = ((act scene.store).1, { scene with
      store := (act scene.store).2
      log := scene.log ++ [.call c (act scene.store).1] }) := rfl

variable {τ : Type}

def serve (settings : Settings) (tracker : Tracker τ) (backend : Backend) (report : Report)
    (scene : Scene τ Depot) : Except Fault CycleResult × Scene τ Depot :=
  ((Parties.mk tracker backend.store).reconcile (Job.ofReport settings report)).run
    { scene with store := scene.store.newSession }

theorem Job.Course.ne_nil {j : Job} {es r} (h : j.Course es r) : es ≠ [] := by
  have begun {es' r'} (choice : j.Choice es' r') : es' ≠ [] := by
    obtain ⟨_, _, _, _, rfl, -⟩ := choice.reads
    exact List.cons_ne_nil _ _
  cases h with
  | unsettled choice => exact begun choice
  | stopped choice | applied choice => exact List.append_ne_nil_of_left_ne_nil (begun choice) _

theorem serve_log_ne (settings : Settings) (tracker : Tracker τ) (backend : Backend)
    (report : Report) (scene : Scene τ Depot) :
    (serve settings tracker backend report scene).2.log ≠ scene.log := by
  obtain ⟨es, path, -, -, logged⟩ := (Parties.mk tracker backend.store).carry_spec
    (Job.ofReport settings report).plan { scene with store := scene.store.newSession }
  intro same
  have silent : exchanges scene.log = exchanges scene.log ++ es := by
    rw [← logged]
    exact congrArg exchanges same.symm
  exact (Job.course path).ne_nil (List.self_eq_append_right.mp silent)

namespace Service

def told : Except Failure CycleResult → HttpResponse
  | .ok r => ⟨200, .json r.toJson, none⟩
  | .error f => .ofFailure f

def HasNumber (ended : Except Failure CycleResult) : Prop :=
  ∀ f, ended = .error f → ∃ n, f.httpStatus = .int n

variable {ended : Except Failure CycleResult}

theorem content_told (numbered : HasNumber ended) : ∃ v, (told ended).content = .json v := by
  cases ended with
  | ok r => exact ⟨_, rfl⟩
  | error f =>
    obtain ⟨n, number⟩ := numbered f rfl
    exact ⟨f.toJson, by simp only [told, HttpResponse.ofFailure, number]⟩

theorem toJson_of_content_told {v : Json} (h : (told ended).content = .json v) :
    (∃ r, ended = .ok r ∧ v = r.toJson) ∨ ∃ f, ended = .error f ∧ v = f.toJson := by
  cases ended with
  | ok r => exact .inl ⟨r, rfl, (Content.json.inj h).symm⟩
  | error f =>
    rw [told, HttpResponse.ofFailure] at h
    split at h
    · exact .inr ⟨f, rfl, (Content.json.inj h).symm⟩
    · exact nomatch h

theorem told_ne_ofFault (numbered : HasNumber ended) {f : Fault} (h : ∀ g, f ≠ .failure g) :
    told ended ≠ .ofFault f := by
  obtain ⟨v, json⟩ := content_told numbered
  intro same
  rw [same] at json
  cases f with
  | failure g => exact h g rfl
  | invalid vs => exact nomatch json
  | defect d => exact nomatch json

theorem refuseReport_ne_failure {f : Fault} (h : ∀ g, f ≠ .failure g) (body : Body) (g : Failure) :
    refuseReport body f ≠ .failure g := by
  cases f with
  | failure g => exact absurd rfl (h g)
  | defect d => exact Fault.noConfusion
  | invalid vs =>
    unfold refuseReport
    dsimp only
    split
    · split <;> exact Fault.noConfusion
    · exact Fault.noConfusion

namespace Server

variable {settings : Settings} {tracker : Tracker τ} {backend : Backend} {r : HttpRequest}
  {members : List (String × Json)}

theorem post_of_route {method : String} {path : List Char}
    (h : route method path = .run .reconcile) : method = "POST" := by
  simpa [Endpoint.allows] using allows_of_route h

theorem checkToken_of_blank {token : String} (blank : trim token.toList = [])
    (header : Option String) : checkToken token header = .ok () := by
  simp [checkToken, blank]

theorem reconcile_run (ready : settings.jiraReady = true)
    (chosen : Backend.choose (.str settings.backend) true
      (Store.pathNames settings.storeDirectory) = .ok backend) (body : Body)
    (scene : Scene τ Depot) :
    ((Server.mk settings (.ok tracker)).reconcile body).run scene =
      match (readReport body).mapError (refuseReport body) with
      | .error f => (.error f, scene)
      | .ok report =>
        match ((Parties.mk tracker backend.store).reconcile (Job.ofReport settings report)).run
          scene with
        | (.ok result, scene) => (.ok (told (.ok result)), scene)
        | (.error f, scene) => (.error f, scene) := by
  simp only [Server.reconcile, Server.store, Server.tracker, chosen, ready, if_true,
    Except.map, failures_ok, lift_ok, pure_bind]
  cases (readReport body).mapError (refuseReport body) with
  | error f => rfl
  | ok report =>
    simp only [lift_ok, pure_bind, Cycle.run_bind]
    rcases ((Parties.mk tracker backend.store).reconcile (Job.ofReport settings report)).run scene
      with ⟨_ | _, _⟩ <;> rfl

theorem handle_reconcile (ready : settings.jiraReady = true)
    (unguarded : trim settings.ciToken.toList = [])
    (chosen : Backend.choose (.str settings.backend) true
      (Store.pathNames settings.storeDirectory) = .ok backend)
    (routed : route r.method r.path.toList = .run .reconcile) {body : Body}
    (read : readBody r settings.host.jsonDepth = .ok body) (scene : Scene τ Depot) :
    (Server.mk settings (.ok tracker)).handle r scene =
      match (readReport body).mapError (refuseReport body) with
      | .error f => (.ofFault f, { scene with store := scene.store.newSession })
      | .ok report => match serve settings tracker backend report scene with
        | (.ok result, scene) => (told (.ok result), scene)
        | (.error f, scene) => (.ofFault f, scene) := by
  have admitted := checkToken_of_blank unguarded (r.header? tokenHeader)
  have full : r.method ≠ "HEAD" := by
    rw [post_of_route routed]
    decide
  have ran (scene : Scene τ Depot) :
      ((Server.mk settings (.ok tracker)).run r body .reconcile).run scene =
        ((Server.mk settings (.ok tracker)).reconcile body).run scene := by
    simp only [Server.run, admitted, lift_ok, pure_bind]
  simp only [Server.handle, routed, if_true, read, Server.answer, ran,
    reconcile_run ready chosen, if_neg full]
  cases (readReport body).mapError (refuseReport body) with
  | error f => rfl
  | ok report =>
    dsimp only [serve]
    rcases ((Parties.mk tracker backend.store).reconcile (Job.ofReport settings report)).run
      { scene with store := scene.store.newSession } with ⟨_ | _, _⟩ <;> rfl

/-- What the service answers with the end of a cycle comes from a report that is accepted. -/
theorem handle_told (ready : settings.jiraReady = true)
    (unguarded : trim settings.ciToken.toList = [])
    (chosen : Backend.choose (.str settings.backend) true
      (Store.pathNames settings.storeDirectory) = .ok backend)
    (routed : route r.method r.path.toList = .run .reconcile)
    (read : readBody r settings.host.jsonDepth = .ok (.json (.obj members)))
    {scene scene' : Scene τ Depot}
    {ended : Except Failure CycleResult} (numbered : HasNumber ended)
    (answered : (Server.mk settings (.ok tracker)).handle r scene = (told ended, scene')) :
    ∃ report ended', Report.ofMembers members = .ok report ∧ told ended' = told ended ∧
      serve settings tracker backend report scene = (ended'.mapError .failure, scene') := by
  rw [handle_reconcile ready unguarded chosen routed read] at answered
  cases accepted : Report.ofMembers members with
  | error f =>
    simp only [readReport, accepted, Except.mapError] at answered
    refine absurd (congrArg Prod.fst answered).symm (told_ne_ofFault numbered ?_)
    refine refuseReport_ne_failure ?_ _
    cases f with
    | failure g => exact absurd rfl (Report.ofMembers_error accepted g)
    | invalid vs => exact fun _ => Fault.noConfusion
    | defect d => exact fun _ => Fault.noConfusion
  | ok report =>
    simp only [readReport, accepted, Except.mapError] at answered
    rcases served : serve settings tracker backend report scene with ⟨f | result, after⟩
    · rw [served] at answered
      obtain ⟨same, rfl⟩ := Prod.mk.inj answered
      cases f with
      | failure g => exact ⟨report, .error g, rfl, same, served⟩
      | invalid vs => exact absurd same.symm (told_ne_ofFault numbered fun _ => Fault.noConfusion)
      | defect d => exact absurd same.symm (told_ne_ofFault numbered fun _ => Fault.noConfusion)
    · rw [served] at answered
      obtain ⟨same, rfl⟩ := Prod.mk.inj answered
      exact ⟨report, .ok result, rfl, same, served⟩

end Server

end Service

theorem Store.Backend.choose_table {name : Json}
    (spelled : String.ofList ((trim (if name.isTruthy then name.text else "").toList).map
      Char.toLower) = "database") (root : List String) :
    Backend.choose name true root = .ok .table := by
  unfold Backend.choose
  dsimp only
  rw [spelled, if_neg (by decide), if_pos rfl]
  rfl

/-- A backend that is chosen for a session is chosen without one, unless it is the table. -/
theorem Store.Backend.choose_session {name : Json} {root : List String} {b : Backend}
    (h : Backend.choose name true root = .ok b) (session : Bool) :
    (Backend.choose name session root = .ok b ∧ (b = .table → session = true)) ∨
      b = .table ∧ session = false ∧ ∃ f, Backend.choose name session root = .error f := by
  unfold Backend.choose at h ⊢
  dsimp only at h ⊢
  generalize String.ofList _ = kind at h ⊢
  by_cases file : kind = "file"
  · rw [if_pos file] at h ⊢
    obtain rfl := Except.ok.inj h
    exact .inl ⟨rfl, nofun⟩
  rw [if_neg file] at h ⊢
  by_cases table : kind = "database"
  · rw [if_pos table] at h ⊢
    obtain rfl := Except.ok.inj h
    cases session with
    | true => exact .inl ⟨rfl, fun _ => rfl⟩
    | false => exact .inr ⟨rfl, rfl, _, rfl⟩
  · rw [if_neg table] at h
    exact nomatch h

namespace CommandLine

def told : Except Failure CycleResult → Exit
  | .ok r => .ofResult r
  | .error f => .ofFailure f

namespace Console

variable {settings : Settings} {env : List (String × String)} {tracker : Tracker τ}
  {members : List (String × Json)} {given : List Assignment} {report : Report}

theorem backend_eq (same : SameFields settings.host.dropsDashes members given)
    (empty : ∀ e ∈ env, e.2 = "")
    (connect : Except Failure (Tracker τ)) :
    (Console.mk settings env connect).backend (.ofValues settings env 0 (values given)) =
      Backend.choose (.str settings.backend) (settings.backend == "database")
        (Store.pathNames settings.storeDirectory) := by
  rw [ofValues_eq empty, Console.backend, Console.directory]
  simp only [said, same.unstored]
  rfl

theorem run_eq (same : SameFields settings.host.dropsDashes members given)
    (empty : ∀ e ∈ env, e.2 = "")
    (accepted : Report.ofMembers members = .ok report) (connect : Except Failure (Tracker τ))
    (scene : Scene τ Depot) :
    (Console.mk settings env connect).run (given.map Assignment.argument) scene =
      (Console.mk settings env connect).runReport (.ofValues settings env 0 (values given)) report
        scene := by
  have read : (Console.mk settings env connect).arguments (given.map Assignment.argument) =
      .ok (.ok (.ofValues settings env 0 (values given))) := by
    rw [Console.arguments, environmentNumber_eq empty, same.parse_eq]
    rfl
  rw [Console.run, read]
  simp only [Console.runArguments, same.ofJson_reportJson empty, accepted]

theorem runReport_chosen (same : SameFields settings.host.dropsDashes members given)
    (empty : ∀ e ∈ env, e.2 = "")
    {backend : Backend} (chosen : Backend.choose (.str settings.backend)
      (settings.backend == "database") (Store.pathNames settings.storeDirectory) = .ok backend)
    (scene : Scene τ Depot) :
    (Console.mk settings env (.ok tracker)).runReport (.ofValues settings env 0 (values given))
        report scene =
      match serve settings tracker backend report scene with
      | (.ok result, scene) => (.ok (told (.ok result)), scene)
      | (.error (.failure f), scene) => (.ok (told (.error f)), scene)
      | (.error f, scene) => (.error f, scene) := by
  unfold Console.runReport Console.cycle
  simp only [backend_eq same empty, chosen, orFail_ok, pure_bind]
  rfl

theorem runReport_refused (same : SameFields settings.host.dropsDashes members given)
    (empty : ∀ e ∈ env, e.2 = "")
    {f : Failure} (refused : Backend.choose (.str settings.backend)
      (settings.backend == "database") (Store.pathNames settings.storeDirectory) = .error f)
    (scene : Scene τ Depot) :
    (Console.mk settings env (.ok tracker)).runReport (.ofValues settings env 0 (values given))
        report scene =
      (.ok (told (.error f)), { scene with store := scene.store.newSession }) := by
  unfold Console.runReport Console.cycle
  simp only [backend_eq same empty, refused, orFail_error]
  rfl

end Console

/-- Ends that the service tells alike have the same exit: a result and a failure are never told
alike. -/
theorem told_congr {ended other : Except Failure CycleResult} (numbered : Service.HasNumber ended)
    (same : Service.told other = Service.told ended) : told other = told ended := by
  have apart (r : CycleResult) (f : Failure) : r.toJson ≠ f.toJson := by
    simp [CycleResult.toJson, Failure.toJson]
  obtain ⟨v, json⟩ := Service.content_told numbered
  have json' := json
  rw [← same] at json'
  obtain ⟨r, rfl, shown⟩ | ⟨f, rfl, shown⟩ := Service.toJson_of_content_told json
  · obtain ⟨r', rfl, shown'⟩ | ⟨f', rfl, shown'⟩ := Service.toJson_of_content_told json'
    · simp only [told, Exit.ofResult, ← shown, ← shown']
    · exact absurd (shown.symm.trans shown') (apart r f')
  · obtain ⟨r', rfl, shown'⟩ | ⟨f', rfl, shown'⟩ := Service.toJson_of_content_told json'
    · exact absurd (shown'.symm.trans shown) (apart r' f)
    · simp only [told, Exit.ofFailure, ← shown, ← shown']

end CommandLine

section Agreement

open CommandLine (Console Assignment SameFields)
open Service (Endpoint HttpRequest Server readBody route)

variable {settings : Settings} {tracker : Tracker τ} {backend : Backend}

def Settings.connected (backend : String) : Settings where
  jiraUrl := "https://jira.example"
  jiraEmail := "ci@example.com"
  jiraToken := "token"
  backend := backend

def Service.HttpRequest.posting (members : List (String × Json)) : HttpRequest where
  method := "POST"
  path := String.ofList Endpoint.reconcilePath
  headers := [("content-type", "application/json")]
  body := Text.encodeUtf8 ((Json.obj members).writeChars Json.compact)

def failingMembers : List (String × Json) := [
  ("job_name", .str "J"), ("build_number", .int 7), ("result", .str "FAILURE"),
  ("previous_result", .str "SUCCESS"), ("project_key", .str "T")]

def failingOptions : List Assignment := [
  (.job, "J"), (.buildNumber, "7"), (.result, "FAILURE"), (.previousResult, "SUCCESS"),
  (.projectKey, "T")]

theorem sameFields_failing (dropsDashes : Bool) :
    SameFields dropsDashes failingMembers failingOptions where
  taken := by
    intro a ha
    simp only [failingOptions, List.mem_cons, List.not_mem_nil, or_false] at ha
    obtain rfl | rfl | rfl | rfl | rfl := ha
    all_goals exact ⟨fun _ => by decide, by decide, by decide⟩
  number := ⟨7, "7", rfl, rfl, by decide⟩
  required := by
    intro f hf
    simp only [CommandLine.requiredTexts, List.mem_cons, List.not_mem_nil, or_false] at hf
    obtain rfl | rfl := hf
    · exact ⟨"J", rfl, rfl⟩
    · exact ⟨"FAILURE", rfl, rfl⟩
  optional := by
    intro f hf
    simp only [CommandLine.optionalTexts, List.mem_cons, List.not_mem_nil, or_false] at hf
    obtain rfl | rfl | rfl | rfl | rfl | rfl | rfl := hf
    all_goals exact ⟨by decide, rfl⟩
  unstored := ⟨rfl, rfl⟩

/-- The command line agrees with the service. When the service answers a report with the end of its
cycle, a run with the same fields as options ends alike, with the same calls and the same store.
Where the table is chosen this needs one spelling of its name, because no other one opens a
session. -/
theorem run_agrees_iff {env : List (String × String)} (empty : ∀ e ∈ env, e.2 = "")
    (ready : settings.jiraReady = true) (unguarded : trim settings.ciToken.toList = [])
    (chosen : Backend.choose (.str settings.backend) true
      (Store.pathNames settings.storeDirectory) = .ok backend)
    {r : HttpRequest} (routed : route r.method r.path.toList = .run .reconcile)
    {members : List (String × Json)}
    (read : readBody r settings.host.jsonDepth = .ok (.json (.obj members)))
    {given : List Assignment} (same : SameFields settings.host.dropsDashes members given)
    {scene scene' : Scene τ Depot}
    {ended : Except Failure CycleResult} (numbered : Service.HasNumber ended)
    (answered : (Server.mk settings (.ok tracker)).handle r scene = (Service.told ended, scene')) :
    (Console.mk settings env (.ok tracker)).run (given.map Assignment.argument) scene =
        (.ok (CommandLine.told ended), scene') ↔
      (backend = .table → settings.backend = "database") := by
  obtain ⟨report, ended', accepted, alike, served⟩ :=
    Server.handle_told ready unguarded chosen routed read numbered answered
  rw [Console.run_eq same empty accepted (.ok tracker) scene]
  have exits : CommandLine.told ended' = CommandLine.told ended :=
    CommandLine.told_congr numbered alike
  obtain ⟨chosen', spelled⟩ | ⟨rfl, misspelled, f, refused⟩ :=
    Backend.choose_session chosen (settings.backend == "database")
  · refine iff_of_true ?_ fun table => eq_of_beq (spelled table)
    rw [Console.runReport_chosen same empty chosen', served, ← exits]
    cases ended' <;> rfl
  · refine iff_of_false ?_ fun spelled => ne_of_beq_false misspelled (spelled rfl)
    rw [Console.runReport_refused same empty refused]
    intro agree
    -- A run that is refused makes no call, a cycle that is served does.
    refine serve_log_ne settings tracker .table report scene ?_
    rw [served, ← congrArg Prod.snd agree]

/-- A ticket is created for the failing build, and both tell it. -/
theorem run_agrees_iff_created :
    let settings := Settings.connected "database"
    let scene : Scene Board Depot := ⟨{}, {}, []⟩
    let out := (Server.mk settings (.ok Board.tracker)).handle (.posting failingMembers) scene
    ∃ result, result.ticket = some "T-101" ∧ out.1 = Service.told (.ok result) ∧
      (Console.mk settings [] (.ok Board.tracker)).run (failingOptions.map Assignment.argument)
        scene = (.ok (CommandLine.told (.ok result)), out.2) := by
  intro settings scene out
  let report : Report :=
    { job := "J", number := 7, outcome := .failure, previous := some .success
      projectKey := some "T" }
  have ready : settings.jiraReady = true := by decide
  have unguarded : trim settings.ciToken.toList = [] := rfl
  have chosen : Backend.choose (.str settings.backend) true
      (Store.pathNames settings.storeDirectory) = .ok .table :=
    Backend.choose_table (by decide +kernel) _
  have routed : route "POST" (String.ofList Endpoint.reconcilePath).toList = .run .reconcile := by
    decide
  have read : readBody (.posting failingMembers) settings.host.jsonDepth =
      .ok (.json (.obj failingMembers)) := by rfl
  have accepted : Report.ofMembers failingMembers = .ok report := by
    have taken : (Report.ofMembers failingMembers).toOption = some report := by decide +kernel
    cases read : Report.ofMembers failingMembers with
    | error f =>
      rw [read] at taken
      cases taken
    | ok other =>
      rw [read] at taken
      exact congrArg Except.ok (Option.some.inj taken)
  have ticket : (serve settings Board.tracker .table report scene).1.toOption.bind (·.ticket) =
      some "T-101" := by
    decide +kernel
  have handled : out = _ := Server.handle_reconcile ready unguarded chosen routed read scene
  simp only [Service.readReport, accepted, Except.mapError] at handled
  rcases served : serve settings Board.tracker .table report scene with ⟨f | result, after⟩
  · rw [served] at ticket
    cases ticket
  · rw [served] at handled ticket
    refine ⟨result, ticket, congrArg Prod.fst handled, ?_⟩
    have numbered : Service.HasNumber (.ok result) := fun _ h => nomatch h
    have agrees := run_agrees_iff (List.forall_mem_nil _) ready unguarded chosen routed read
      (sameFields_failing _) numbered handled
    rw [show out.2 = after from congrArg Prod.snd handled]
    exact agrees.mpr fun _ => rfl

/-- With the table's name in another case the service creates the ticket, and the command line
refuses before any call. -/
theorem run_refuses_capital :
    let settings := Settings.connected "Database"
    let scene : Scene Board Depot := ⟨{}, {}, []⟩
    let out := (Server.mk settings (.ok Board.tracker)).handle (.posting failingMembers) scene
    let ran := (Console.mk settings [] (.ok Board.tracker)).run
      (failingOptions.map Assignment.argument) scene
    SameFields settings.host.dropsDashes failingMembers failingOptions ∧ out.1.status = 200 ∧
      kinds (exchanges out.2.log) = [.load, .create, .save] ∧
      ran.1.toOption.map (·.code) = some 1 ∧ ran.2.log.length = 0 := by
  refine ⟨sameFields_failing _, ?_, ?_, ?_, ?_⟩
  · decide +kernel
  · decide +kernel
  · decide +kernel
  · decide +kernel

end Agreement

end TicketKeeper
