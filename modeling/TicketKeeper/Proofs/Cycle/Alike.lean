import TicketKeeper.Proofs.Cycle.Account

/-! Scenes that differ in what cycles do not look at. What a plan does depends on the store and on
the face of the tracker alone, so that comments which got lost do not matter to the calls that
follow. -/
namespace TicketKeeper

/-- A tracker whose answers depend on a face that it shows and that only new tickets change. A call
that fails changes nothing, and a comment is refused with a failure of the tracker's. -/
structure Tracker.Steady {τ φ : Type} (t : Tracker τ) (face : τ → φ) : Prop where
  status (key x) : face (t.status key x).next = face x
  comment (key text x) : face (t.comment key text x).next = face x
  create_error {form x fault} : (t.create form x).result = .error fault →
    face (t.create form x).next = face x
  status_congr (key) {x y} : face x = face y → (t.status key x).result = (t.status key y).result
  comment_congr (key text) {x y} : face x = face y →
    (t.comment key text x).result = (t.comment key text y).result
  create_congr (form) {x y} : face x = face y →
    (t.create form x).result = (t.create form y).result ∧
      face (t.create form x).next = face (t.create form y).next
  refuses {key text x fault} : (t.comment key text x).result = .error fault →
    ∃ f, fault.trackerFailure? = some f

section Alike

variable {τ φ σ α : Type} {face : τ → φ}

structure Scene.Alike (face : τ → φ) (s s' : Scene τ σ) : Prop where
  store : s'.store = s.store
  face : face s'.tracker = face s.tracker

namespace Parties

variable (p : Parties τ σ) {s s' : Scene τ σ}

theorem call_alike (steady : p.tracker.Steady face) (alike : s.Alike face s') (c : Call) :
    (p.call c s').1 = (p.call c s).1 ∧ (p.call c s).2.Alike face (p.call c s').2 := by
  obtain ⟨store, same⟩ := alike
  cases c with
  | load | save | markBuild | clear =>
    simp only [call, Cycle.onStore, store]
    exact ⟨trivial, rfl, same⟩
  | create form =>
    obtain ⟨result, next⟩ := steady.create_congr form same
    exact ⟨result, store, next⟩
  | status key =>
    refine ⟨steady.status_congr key same, store, ?_⟩
    exact (steady.status key _).trans (same.trans (steady.status key _).symm)
  | comment key text =>
    refine ⟨steady.comment_congr key text same, store, ?_⟩
    exact (steady.comment key text _).trans (same.trans (steady.comment key text _).symm)

/-- In scenes that are alike a plan makes the same calls, gives the same, and leaves scenes that are
alike. -/
theorem carry_alike (steady : p.tracker.Steady face) (alike : s.Alike face s') (x : Plan α) :
    (p.carry x s').1 = (p.carry x s).1 ∧ (p.carry x s).2.Alike face (p.carry x s').2 ∧
      ∃ es, exchanges (p.carry x s).2.log = exchanges s.log ++ es ∧
        exchanges (p.carry x s').2.log = exchanges s'.log ++ es := by
  induction x generalizing s s' with
  | give a => exact ⟨rfl, alike, [], (List.append_nil _).symm, (List.append_nil _).symm⟩
  | fail fault => exact ⟨rfl, alike, [], (List.append_nil _).symm, (List.append_nil _).symm⟩
  | call c next ih =>
    obtain ⟨reply, alike'⟩ := p.call_alike steady alike c
    obtain ⟨-, -, logged⟩ := p.call_spec c s
    obtain ⟨-, -, logged'⟩ := p.call_spec c s'
    obtain ⟨result, after, es, log, log'⟩ := ih (p.call c s).1 alike'
    rw [carry_call, carry_call, reply]
    refine ⟨result, after, ⟨c, (p.call c s).1⟩ :: es, ?_, ?_⟩
    · rw [logged, List.append_assoc] at log
      exact log
    · rw [logged', reply, List.append_assoc] at log'
      exact log'

end Parties

end Alike

section Lacks

variable {τ φ σ α : Type} {face : τ → φ}

def Scene.told (s : Scene τ σ) : Tally := tally (exchanges s.log)

/-- The second scene is like the first one, but some last comments were not posted. -/
structure Scene.Lacks (face : τ → φ) (cs : List (String × String)) (s s' : Scene τ σ) : Prop
    extends Scene.Alike face s s' where
  opened : s'.told.opened = s.told.opened
  written : s'.told.written = s.told.written
  said : s.told.said = s'.told.said ++ cs

namespace Scene.Lacks

variable {s s' s'' : Scene τ σ} {cs more : List (String × String)}

theorem refl (face : τ → φ) (s : Scene τ σ) : s.Lacks face [] s :=
  ⟨⟨rfl, rfl⟩, rfl, rfl, (List.append_nil _).symm⟩

theorem trans (h : s.Lacks face cs s') (h' : s'.Lacks face more s'') :
    s.Lacks face (more ++ cs) s'' where
  store := h'.store.trans h.store
  face := h'.face.trans h.face
  opened := h'.opened.trans h.opened
  written := h'.written.trans h.written
  said := by rw [h.said, h'.said, List.append_assoc]

end Scene.Lacks

theorem Scene.told_append {s s' : Scene τ σ} {es : List Exchange}
    (logged : exchanges s'.log = exchanges s.log ++ es) :
    s'.told = ⟨s.told.opened ++ openings es, s.told.said ++ comments es,
      s.told.written ++ writes es⟩ := by
  simp [told, tally, logged]

theorem Scene.lacks_of_silent {s s' : Scene τ σ} {es : List Exchange} (store : s'.store = s.store)
    (face_eq : face s'.tracker = face s.tracker)
    (logged : exchanges s'.log = exchanges s.log ++ es) (silent : tally es = ⟨[], [], []⟩) :
    s.Lacks face [] s' := by
  have opened : openings es = [] := congrArg Tally.opened silent
  have said : comments es = [] := congrArg Tally.said silent
  have written : writes es = [] := congrArg Tally.written silent
  have told := told_append logged
  exact ⟨⟨store, face_eq⟩, by simp [told, opened], by simp [told, written], by simp [told, said]⟩

namespace Parties

variable (p : Parties τ σ) {s s' : Scene τ σ}

theorem carry_lacks (steady : p.tracker.Steady face) {cs : List (String × String)}
    (lacks : s.Lacks face cs s') (x : Plan α)
    (mute : cs = [] ∨ ∀ es r, x.Path es r → comments es = []) :
    (p.carry x s').1 = (p.carry x s).1 ∧ (p.carry x s).2.Lacks face cs (p.carry x s').2 := by
  obtain ⟨result, alike, es, log, log'⟩ := p.carry_alike steady lacks.toAlike x
  obtain ⟨es', path, -, -, logged⟩ := p.carry_spec x s
  obtain rfl : es = es' := List.append_cancel_left (log.symm.trans logged)
  refine ⟨result, alike, ?_, ?_, ?_⟩
  · have opened := lacks.opened
    simp only [Scene.told, tally] at opened ⊢
    rw [log, log', openings_append, openings_append, opened]
  · have written := lacks.written
    simp only [Scene.told, tally] at written ⊢
    rw [log, log', writes_append, writes_append, written]
  · have said := lacks.said
    simp only [Scene.told, tally] at said ⊢
    rw [log, log', comments_append, comments_append, said]
    obtain rfl | none := mute
    · simp
    · simp [none es _ path]

theorem call_lacks (steady : p.tracker.Steady face) {cs : List (String × String)}
    (lacks : s.Lacks face cs s') {c : Call} (mute : ∀ reply, Exchange.said? ⟨c, reply⟩ = none) :
    (p.call c s').1 = (p.call c s).1 ∧ (p.call c s).2.Lacks face cs (p.call c s').2 := by
  have same : ∀ s : Scene τ σ, p.carry (Plan.ask c) s = p.call c s := fun s => by
    rw [Plan.ask, carry_call]
    rcases p.call c s with ⟨_ | _, _⟩ <;> rfl
  rw [← same, ← same]
  refine p.carry_lacks steady lacks _ (.inr fun es r path => ?_)
  rw [Plan.path_ask.mp path, comments_cons, mute]
  rfl

theorem written_carry (x : Plan α) {w : Written} (hw : w ∈ s.told.written) :
    w ∈ (p.carry x s).2.told.written := by
  obtain ⟨es, -, -, -, logged⟩ := p.carry_spec x s
  rw [Scene.told_append logged]
  exact List.mem_append_left _ hw

theorem written_bind {β : Type} (x : Plan α) (f : α → Plan β) {w : Written}
    (hw : w ∈ (p.carry x s).2.told.written) : w ∈ (p.carry (x >>= f) s).2.told.written := by
  rw [carry_bind]
  generalize p.carry x s = out at hw ⊢
  obtain ⟨_ | a, s'⟩ := out
  · exact hw
  · exact p.written_carry (f a) hw

end Parties

end Lacks

end TicketKeeper
