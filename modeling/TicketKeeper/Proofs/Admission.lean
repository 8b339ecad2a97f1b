import TicketKeeper.Proofs.Endpoint
import TicketKeeper.Proofs.Guarding

/-! Who is let in while a token is set. Texts of ASCII characters are compared for what they are:
the token opens the service, and anything else is refused. Other texts cannot be compared, and there
the check breaks down instead of answering. -/
namespace TicketKeeper.Service

open Store (Depot)
open TicketKeeper.Text (trim)

def IsAscii (s : List Char) : Prop := ∀ c ∈ s, c.toNat < 128

instance (s : List Char) : Decidable (IsAscii s) :=
  List.decidableBAll (fun c : Char => c.toNat < 128) s

namespace HttpRequest

variable (r : HttpRequest) (setting : String)

def Shows : Prop :=
  ∃ token, r.header? tokenHeader = some token ∧ trim token.toList = trim setting.toList

/-- What the request shows can be compared with what is set; an empty header shows nothing. -/
def Comparable : Prop :=
  ∀ token, r.header? tokenHeader = some token → token ≠ "" →
    IsAscii (trim token.toList) ∧ IsAscii (trim setting.toList)

def Admitted : Prop := checkToken setting (r.header? tokenHeader) = .ok ()

/-- The request is for an endpoint behind the check, and its body, if it is looked at, is JSON that
can be read or no text at all. -/
structure Reaches (depth : Nat) (e : Endpoint) (body : Body) : Prop where
  routed : route r.method r.path.toList = .run e
  read : (if e = Endpoint.reconcile then readBody r depth else .ok .absent) = .ok body
  guarded : e ≠ .description ∧ e ≠ .page

end HttpRequest

section Checking

variable {setting token : String} {r : HttpRequest}

theorem checkToken_some (set : trim setting.toList ≠ []) (any : token ≠ "") :
    checkToken setting (some token) =
      if IsAscii (trim token.toList) ∧ IsAscii (trim setting.toList) then
        if trim token.toList = trim setting.toList then .ok () else .error refusal
      else .error (.defect .wrongType) := by
  have ascii (s : List Char) : s.all (·.toNat < 128) = decide (IsAscii s) := by
    rw [Bool.eq_iff_iff, List.all_eq_true, decide_eq_true_iff]
    simp only [decide_eq_true_iff, IsAscii]
  unfold checkToken
  rw [if_neg (by simpa using set)]
  split
  · contradiction
  · rename_i none
    exact absurd (Option.some.inj none) any
  · rename_i shown _ same
    cases same
    change (if (!(trim token.toList).all (·.toNat < 128) ||
      !(trim setting.toList).all (·.toNat < 128)) = true then _ else _) = _
    rw [ascii, ascii]
    by_cases own : IsAscii (trim token.toList) <;>
      by_cases other : IsAscii (trim setting.toList) <;> simp [own, other]

theorem checkToken_of_shows (set : trim setting.toList ≠ []) (fit : r.Comparable setting)
    (shows : r.Shows setting) : r.Admitted setting := by
  obtain ⟨token, header, same⟩ := shows
  have any : token ≠ "" := by
    rintro rfl
    exact set same.symm
  rw [HttpRequest.Admitted, header, checkToken_some set any, if_pos (fit token header any),
    if_pos same]

theorem checkToken_of_not_shows (set : trim setting.toList ≠ []) (fit : r.Comparable setting)
    (other : ¬r.Shows setting) : checkToken setting (r.header? tokenHeader) = .error refusal := by
  cases header : r.header? tokenHeader with
  | none =>
    unfold checkToken
    rw [if_neg (by simpa using set)]
  | some token =>
    by_cases any : token = ""
    · unfold checkToken
      rw [if_neg (by simpa using set), any]
      rfl
    · have differs : trim token.toList ≠ trim setting.toList := fun same =>
        other ⟨token, header, same⟩
      rw [checkToken_some set any, if_pos (fit token header any), if_neg differs]

theorem checkToken_of_not_comparable (set : trim setting.toList ≠ [])
    (unfit : ¬r.Comparable setting) :
    checkToken setting (r.header? tokenHeader) = .error (.defect .wrongType) := by
  simp only [HttpRequest.Comparable, not_forall] at unfit
  obtain ⟨token, header, any, unfit⟩ := unfit
  rw [header, checkToken_some set any, if_neg unfit]

end Checking

def HttpResponse.IsUnauthorized (response : HttpResponse) : Prop :=
  response.status = 401 ∧
    ∃ v, response.content = .json v ∧ v.get "error_code" = .str "INVALID_API_KEY"

theorem isUnauthorized_refusal : (HttpResponse.ofFault refusal).IsUnauthorized :=
  ⟨rfl, _, rfl, rfl⟩

section Handling

variable {τ : Type} {settings : Settings} {connect : Except Failure (Tracker τ)}
  {r : HttpRequest} {e : Endpoint} {body : Body} {depth : Nat}

theorem HttpRequest.Reaches.full (h : r.Reaches depth e body) : r.method ≠ "HEAD" := by
  have allowed := allows_of_route h.routed
  intro head
  rw [head] at allowed
  cases e with
  | reconcile | ticket => simp [Endpoint.allows] at allowed
  | description => exact h.guarded.1 rfl
  | page => exact h.guarded.2 rfl

theorem HttpRequest.Reaches.handle_eq (s : Server τ)
    (h : r.Reaches s.settings.host.jsonDepth e body) (scene : Scene τ Depot) :
    s.handle r scene = s.answer r body e { scene with store := scene.store.newSession } := by
  simp only [Server.handle, h.routed, h.read, if_neg h.full]

theorem HttpRequest.Reaches.handle_of_error (h : r.Reaches settings.host.jsonDepth e body)
    {f : Fault}
    (stopped : checkToken settings.ciToken (r.header? tokenHeader) = .error f)
    (scene : Scene τ Depot) :
    (Server.mk settings connect).handle r scene =
      (.ofFault f, { scene with store := scene.store.newSession }) := by
  rw [h.handle_eq]
  cases e with
  | reconcile | ticket =>
    simp only [Server.answer, Server.run, stopped]
    rfl
  | description => exact absurd rfl h.guarded.1
  | page => exact absurd rfl h.guarded.2

def Server.opened (s : Server τ) : Server τ := { s with settings.ciToken := "" }

theorem Server.run_opened (s : Server τ) (admitted : r.Admitted s.settings.ciToken) (body : Body)
    (e : Endpoint) : s.opened.run r body e = s.run r body e := by
  have free : checkToken "" (r.header? tokenHeader) = .ok () := rfl
  unfold HttpRequest.Admitted at admitted
  cases e with
  | reconcile =>
    have same : s.opened.reconcile body = s.reconcile body := rfl
    simp only [Server.run, admitted, same]
    rfl
  | ticket job =>
    simp only [Server.run, admitted]
    rfl
  | description | page => rfl

theorem HttpRequest.Reaches.handle_opened (s : Server τ)
    (h : r.Reaches s.settings.host.jsonDepth e body) (admitted : r.Admitted s.settings.ciToken)
    (scene : Scene τ Depot) :
    s.opened.handle r scene = s.handle r scene := by
  rw [handle_eq s.opened h, handle_eq s h, Server.answer, s.run_opened admitted, Server.answer]

end Handling

/-- While a token is set, the rule that this token, blanks apart, opens the service and that
anything else is refused holds for the requests whose header can be compared with it, and only for
those. Any other request is answered as a breakdown, even one that shows the token. -/
theorem token_exact_iff {τ : Type} (s : Server τ) (set : trim s.settings.ciToken.toList ≠ [])
    {r : HttpRequest} {e : Endpoint} {body : Body}
    (reaches : r.Reaches s.settings.host.jsonDepth e body) (scene : Scene τ Depot) :
    let out := s.handle r scene
    let token := s.settings.ciToken
    ((r.Admitted token ↔ r.Shows token) ∧ (¬r.Shows token → out.1.IsUnauthorized) ↔
        r.Comparable token) ∧
      (r.Admitted token → out = s.opened.handle r scene) ∧
      (¬r.Admitted token → scene.Untouched out.2) ∧
      (¬r.Comparable token → ¬r.Admitted token ∧ out.1.status = 500) := by
  intro out token
  have broken (unfit : ¬r.Comparable token) : ¬r.Admitted token ∧ out.1.status = 500 := by
    have check := checkToken_of_not_comparable set unfit
    refine ⟨fun admitted => ?_, ?_⟩
    · rw [HttpRequest.Admitted, check] at admitted
      cases admitted
    · exact congrArg (·.1.status) (reaches.handle_of_error check scene)
  refine ⟨⟨fun rule => ?_, fun fit => ?_⟩,
    fun admitted => (HttpRequest.Reaches.handle_opened s reaches admitted scene).symm,
    fun barred => ?_, broken⟩
  · by_contra unfit
    obtain ⟨shut, status⟩ := broken unfit
    have refused := (rule.2 fun shows => shut (rule.1.mpr shows)).1
    rw [status] at refused
    contradiction
  · have refused (other : ¬r.Shows token) := checkToken_of_not_shows set fit other
    refine ⟨⟨fun admitted => ?_, checkToken_of_shows set fit⟩, fun other => ?_⟩
    · by_contra other
      rw [HttpRequest.Admitted, refused other] at admitted
      cases admitted
    · have answered : out = _ := reaches.handle_of_error (refused other) scene
      rw [answered]
      exact isUnauthorized_refusal
  · cases check : checkToken token (r.header? tokenHeader) with
    | ok => exact absurd check barred
    | error f =>
      have answered : out = _ := reaches.handle_of_error check scene
      rw [answered]
      exact .newSession scene

def HttpRequest.showing (token : String) : HttpRequest where
  method := "GET"
  path := "/api/jobs/J/ticket"
  headers := [("X-CI-Token", token)]

theorem HttpRequest.header_showing (token : String) :
    (HttpRequest.showing token).header? tokenHeader = some token := by
  have named : ("X-CI-Token".toList.map Char.toLower == tokenHeader.toList) = true := by decide
  simp only [HttpRequest.header?, HttpRequest.showing, List.find?, named, Option.map_some]

theorem HttpRequest.reaches_showing (token : String) (depth : Nat) :
    (HttpRequest.showing token).Reaches depth (.ticket ['J']) .absent where
  routed := by
    change route "GET" "/api/jobs/J/ticket".toList = _
    decide
  read := rfl
  guarded := by simp

def Server.guarded (token : String) : Server Board := ⟨{ ciToken := token }, .ok Board.tracker⟩

/-- The token between other blanks, and another one. -/
theorem token_exact_iff_blanks :
    let s := Server.guarded " secret"
    let scene : Scene Board Depot := ⟨{}, .tracking "J" "T-1" 6, []⟩
    (s.handle (.showing "secret ") scene).1.status = 200 ∧
      (s.handle (.showing "Secret") scene).1.IsUnauthorized := by
  intro s scene
  have set : trim s.settings.ciToken.toList ≠ [] := by decide
  have fit (token : String) (ascii : IsAscii (trim token.toList)) :
      (HttpRequest.showing token).Comparable s.settings.ciToken := by
    intro shown header _
    cases (HttpRequest.header_showing token).symm.trans header
    exact ⟨ascii, by decide⟩
  have right := token_exact_iff s set (HttpRequest.reaches_showing "secret " _) scene
  have wrong := token_exact_iff s set (HttpRequest.reaches_showing "Secret" _) scene
  constructor
  · have admitted := (right.1.mpr (fit _ (by decide))).1.mpr ⟨_, rfl, by decide⟩
    rw [right.2.1 admitted]
    decide +kernel
  · refine (wrong.1.mpr (fit _ (by decide))).2 ?_
    rintro ⟨_, ⟨⟩, same⟩
    exact absurd same (by decide)

/-- A token outside ASCII: another one is not refused, and it does not open the service itself. -/
theorem token_breaks_outside_ascii :
    let s := Server.guarded "sécret"
    let scene : Scene Board Depot := ⟨{}, .tracking "J" "T-1" 6, []⟩
    (¬(HttpRequest.showing "secret").Shows s.settings.ciToken ∧
        (s.handle (.showing "secret") scene).1.status = 500) ∧
      (HttpRequest.showing "sécret").Shows s.settings.ciToken ∧
        (s.handle (.showing "sécret") scene).1.status = 500 := by
  intro s scene
  refine ⟨⟨?_, by decide +kernel⟩, ⟨_, HttpRequest.header_showing _, rfl⟩, by decide +kernel⟩
  rintro ⟨_, ⟨⟩, same⟩
  exact absurd same (by decide)

end TicketKeeper.Service
