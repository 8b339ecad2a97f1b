import TicketKeeper.Proofs.Run
import TicketKeeper.Service.Visit

/-! Requests without the token. They leave everything as it is, and their answer is settled before
the store or the tracker is looked at, so that it tells nothing about either. -/
namespace TicketKeeper

open Store (Depot)

structure Scene.Untouched {τ : Type} (scene later : Scene τ Depot) : Prop where
  tracker : later.tracker = scene.tracker
  log : later.log = scene.log
  files : later.store.files = scene.store.files
  rows : later.store.table.rows = scene.store.table.rows

namespace Scene.Untouched

variable {τ : Type} {scene later last : Scene τ Depot}

theorem refl (scene : Scene τ Depot) : scene.Untouched scene := ⟨rfl, rfl, rfl, rfl⟩

theorem newSession (scene : Scene τ Depot) :
    scene.Untouched { scene with store := scene.store.newSession } := ⟨rfl, rfl, rfl, rfl⟩

theorem trans (h : scene.Untouched later) (h' : later.Untouched last) : scene.Untouched last where
  tracker := h'.tracker.trans h.tracker
  log := h'.log.trans h.log
  files := h'.files.trans h.files
  rows := h'.rows.trans h.rows

end Scene.Untouched

namespace Service

open TicketKeeper.Text (trim)

/-- A token is set, and the request shows none or another one. -/
structure Barred (settings : Settings) (r : HttpRequest) : Prop where
  set : trim settings.ciToken.toList ≠ []
  differs : ∀ token, r.header? tokenHeader = some token →
    trim token.toList ≠ trim settings.ciToken.toList

variable {settings : Settings} {r : HttpRequest}

theorem Barred.checkToken (h : Barred settings r) :
    ∃ f, checkToken settings.ciToken (r.header? tokenHeader) = .error f := by
  unfold Service.checkToken
  rw [if_neg (by simpa using h.set)]
  split
  · exact ⟨_, rfl⟩
  · exact ⟨_, rfl⟩
  · rename_i token _ shown
    dsimp only
    split
    · exact ⟨_, rfl⟩
    · rw [if_neg (h.differs token shown)]
      exact ⟨_, rfl⟩

variable {τ : Type}

theorem Barred.run (h : Barred settings r) (body : Body) (e : Endpoint) :
    ∃ outcome, ∀ (connect : Except Failure (Tracker τ)) scene,
      ((Server.mk settings connect).run r body e).run scene = (outcome, scene) := by
  obtain ⟨f, refused⟩ := h.checkToken
  cases e with
  | reconcile | ticket =>
    refine ⟨.error f, fun connect scene => ?_⟩
    simp only [Server.run, refused]
    rfl
  | description =>
    exact ⟨.ok ⟨200, .json (Description.document settings.appName), none⟩, fun _ _ => rfl⟩
  | page => exact ⟨.ok ⟨200, .text "", none⟩, fun _ _ => rfl⟩

theorem Barred.answer (h : Barred settings r) (body : Body) (e : Endpoint) :
    ∃ response, ∀ (connect : Except Failure (Tracker τ)) scene,
      (Server.mk settings connect).answer r body e scene = (response, scene) := by
  obtain ⟨outcome, run⟩ := h.run (τ := τ) body e
  cases outcome with
  | ok response =>
    refine ⟨response, fun connect scene => ?_⟩
    simp only [Server.answer, run]
  | error f =>
    refine ⟨.ofFault f, fun connect scene => ?_⟩
    simp only [Server.answer, run]

theorem Barred.handle (h : Barred settings r) :
    ∃ response, ∀ (connect : Except Failure (Tracker τ)) scene,
      (Server.mk settings connect).handle r scene =
        (response, { scene with store := scene.store.newSession }) := by
  -- The answer before its body is dropped for HEAD.
  suffices full : ∃ response, ∀ (connect : Except Failure (Tracker τ)) scene,
      (Server.mk settings connect).handle r scene =
        (if r.method = "HEAD" then response.headOnly else response,
          { scene with store := scene.store.newSession }) by
    obtain ⟨response, full⟩ := full
    exact ⟨_, full⟩
  cases routed : route r.method r.path.toList with
  | run e =>
    cases read : (if e = Endpoint.reconcile then readBody r settings.host.jsonDepth
        else .ok .absent) with
    | ok body =>
      obtain ⟨response, answered⟩ := h.answer (τ := τ) body e
      refine ⟨response, fun connect scene => ?_⟩
      simp only [Server.handle, routed, read, answered]
    | error response =>
      refine ⟨response, fun connect scene => ?_⟩
      simp only [Server.handle, routed, read]
  | wrongMethod =>
    refine ⟨.detail 405 "Method Not Allowed", fun connect scene => ?_⟩
    simp only [Server.handle, routed]
  | elsewhere path =>
    let there := Server.location ((r.header? "host").getD "") path r.query
    refine ⟨⟨307, .empty, some there⟩, fun connect scene => ?_⟩
    simp only [Server.handle, routed, there]
  | unknown =>
    refine ⟨.detail 404 "Not Found", fun connect scene => ?_⟩
    simp only [Server.handle, routed]

/-- However often the service sends a barred visitor elsewhere, there is one answer in the end. -/
theorem follow_barred {v : Visit} (h : ∀ u, Barred settings (v.request u)) (n : Nat) (u : Url) :
    ∃ outcome, ∀ (connect : Except Failure (Tracker τ)) scene,
      (follow (Server.mk settings connect) v n u scene).1 = outcome ∧
        scene.Untouched (follow (Server.mk settings connect) v n u scene).2 := by
  induction n generalizing u with
  | zero =>
    obtain ⟨response, handled⟩ := (h u).handle (τ := τ)
    cases pointed : response.location with
    | none =>
      refine ⟨.ok response, fun connect scene => ?_⟩
      rewrite [follow]
      simp only [handled, pointed]
      exact ⟨trivial, .newSession scene⟩
    | some l =>
      refine ⟨.error (.link .tooManyRedirects), fun connect scene => ?_⟩
      rewrite [follow]
      simp only [handled, pointed]
      exact ⟨trivial, .newSession scene⟩
  | succ n ih =>
    obtain ⟨response, handled⟩ := (h u).handle (τ := τ)
    cases pointed : response.location with
    | none =>
      refine ⟨.ok response, fun connect scene => ?_⟩
      rewrite [follow]
      simp only [handled, pointed]
      exact ⟨trivial, .newSession scene⟩
    | some l =>
      cases next : Url.parse? (locationText l) with
      | none =>
        refine ⟨.error (.link .remoteProtocolError), fun connect scene => ?_⟩
        rewrite [follow]
        simp only [handled, pointed, next]
        exact ⟨trivial, .newSession scene⟩
      | some u' =>
        obtain ⟨outcome, followed⟩ := ih u'
        refine ⟨outcome, fun connect scene => ?_⟩
        rewrite [follow]
        simp only [handled, pointed, next]
        obtain ⟨same, untouched⟩ := followed connect { scene with store := scene.store.newSession }
        exact ⟨same, (Scene.Untouched.newSession scene).trans untouched⟩

/-- While a token is set, a request that does not show it calls on neither tracker nor store, leaves
both as they are, and has one answer whatever they hold; so it is for a visitor whom the service
sends elsewhere. -/
theorem handle_barred_untouched (settings : Settings) (set : trim settings.ciToken.toList ≠ []) :
    (∀ r : HttpRequest, (∀ token, r.header? tokenHeader = some token →
        trim token.toList ≠ trim settings.ciToken.toList) →
      ∃ response, ∀ (connect : Except Failure (Tracker τ)) (scene : Scene τ Depot),
        let out := (Server.mk settings connect).handle r scene
        out.1 = response ∧ scene.Untouched out.2) ∧
    (∀ (v : Visit) (path : String), (∀ u token, (v.request u).header? tokenHeader = some token →
        trim token.toList ≠ trim settings.ciToken.toList) →
      ∃ outcome, ∀ (connect : Except Failure (Tracker τ)) (scene : Scene τ Depot),
        let out := visit (Server.mk settings connect) v path scene
        out.1 = outcome ∧ scene.Untouched out.2) := by
  constructor
  · intro r differs
    obtain ⟨response, handled⟩ := Barred.handle (τ := τ) ⟨set, differs⟩
    refine ⟨response, fun connect scene => ?_⟩
    simp only [handled]
    exact ⟨trivial, .newSession scene⟩
  · intro v path differs
    unfold visit
    cases address? path with
    | none => exact ⟨_, fun _ scene => ⟨rfl, .refl scene⟩⟩
    | some u => exact follow_barred (fun u => ⟨set, differs u⟩) maxRedirects u

/-- A wrong token: the tracked ticket is not shown. -/
theorem handle_barred_untouched_ticket :
    let settings : Settings := { ciToken := " secret" }
    let ask (token : String) : HttpRequest :=
      { method := "GET", path := "/api/jobs/J/ticket", headers := [(tokenHeader, token)] }
    let scene : Scene Board Depot := ⟨{}, .tracking "J" "T-1" 6, []⟩
    (∃ response, response.status = 401 ∧ ∀ connect (scene : Scene Board Depot),
      let out := (Server.mk settings connect).handle (ask "Secret") scene
      out.1 = response ∧ scene.Untouched out.2) ∧
      ((Server.mk settings (.ok Board.tracker)).handle (ask "secret ") scene).1.status = 200 := by
  intro settings ask scene
  have differs : ∀ token, (ask "Secret").header? tokenHeader = some token →
      trim token.toList ≠ trim settings.ciToken.toList := by
    rintro _ ⟨⟩
    decide
  obtain ⟨response, one⟩ :=
    (handle_barred_untouched (τ := Board) settings (by decide)).1 (ask "Secret") differs
  refine ⟨⟨response, ?_, one⟩, by decide +kernel⟩
  rw [← (one (.ok Board.tracker) scene).1]
  decide +kernel

end Service

end TicketKeeper
