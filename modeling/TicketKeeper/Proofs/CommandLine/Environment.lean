import TicketKeeper.CommandLine.Run

/-! What the environment does to a run whose arguments tell the job, the number of the build and its
addresses. None of its values are used then. Its build number is read all the same, and where that
is no numeral the run ends before the arguments are looked at. -/
namespace TicketKeeper.CommandLine

open TicketKeeper.Store (Depot)

variable {τ : Type} {env : List (String × String)}

/-- The options that the environment stands in for. -/
def environmental : List OptionName := [.job, .buildNumber, .buildUrl, .rootUrl]

/-- Whether the build number of the environment can be read. One that is not set counts as zero. -/
def Numbered (env : List (String × String)) : Prop :=
  ∀ s, env.lookup "BUILD_NUMBER" = some s → s = "" ∨ (Number.numeral? s.toList).isSome

theorem environmentNumber_of_numbered (h : Numbered env) : ∃ n, environmentNumber env = .ok n := by
  unfold environmentNumber
  cases found : env.lookup "BUILD_NUMBER" with
  | none => exact ⟨0, rfl⟩
  | some s =>
    obtain rfl | numeral := h s found
    · exact ⟨0, rfl⟩
    · by_cases blank : s = ""
      · subst blank
        exact ⟨0, rfl⟩
      · obtain ⟨n, read⟩ := Option.isSome_iff_exists.mp numeral
        refine ⟨n, ?_⟩
        simp [Option.filter, blank, read]

theorem environmentNumber_of_not_numbered (h : ¬Numbered env) :
    environmentNumber env = .error (.defect .badValue) := by
  obtain ⟨s, found, given, unread⟩ :
      ∃ s, env.lookup "BUILD_NUMBER" = some s ∧ s ≠ "" ∧ Number.numeral? s.toList = none := by
    simpa [Numbered] using h
  simp [environmentNumber, found, Option.filter, given, unread]

theorem ofValues_congr {values : Values} (given : ∀ o ∈ environmental, (values.lookup o).isSome)
    (settings : Settings) (env other : List (String × String)) (n m : Int) :
    Arguments.ofValues settings env n values = Arguments.ofValues settings other m values := by
  simp only [environmental, List.forall_mem_cons, Option.isSome_iff_exists] at given
  obtain ⟨⟨job, hjob⟩, ⟨number, hnumber⟩, ⟨url, hurl⟩, ⟨root, hroot⟩, -⟩ := given
  simp only [Arguments.ofValues, hjob, hnumber, hurl, hroot, Option.map_some, Option.getD_some]

namespace Console

theorem runArguments_env (c : Console τ) (other : List (String × String)) (a : Arguments)
    (scene : Scene τ Depot) :
    { c with env := other }.runArguments a scene = c.runArguments a scene := by
  have backend : { c with env := other }.backend a = c.backend a := rfl
  have cycle : { c with env := other }.cycle a = c.cycle a := by
    funext report
    simp only [Console.cycle, backend]
  simp only [runArguments, runReport, cycle]

theorem arguments_congr (c : Console τ) {args : List String}
    (given : ∀ values, parse args c.settings.host.dropsDashes = .ok values →
      ∀ o ∈ environmental, (values.lookup o).isSome)
    (numbered : Numbered c.env) : c.arguments args = { c with env := [] }.arguments args := by
  obtain ⟨n, number⟩ := environmentNumber_of_numbered numbered
  have unset : environmentNumber [] = .ok 0 := rfl
  simp only [arguments, number, unset]
  cases parsed : parse args c.settings.host.dropsDashes with
  | error refusal => rfl
  | ok values =>
    have same := ofValues_congr (given values parsed) c.settings c.env [] n 0
    exact congrArg (fun a => Except.ok (Except.ok a)) same

/-- A run that is told the job, the number and both addresses goes as it does without any
environment, if the build number there can be read. Otherwise it ends at once. -/
theorem run_of_environmental (c : Console τ) {args : List String}
    (given : ∀ values, parse args c.settings.host.dropsDashes = .ok values →
      ∀ o ∈ environmental, (values.lookup o).isSome)
    (scene : Scene τ Depot) :
    (Numbered c.env → c.run args scene = { c with env := [] }.run args scene) ∧
      (¬Numbered c.env → c.run args scene = (.error (.defect .badValue), scene)) := by
  constructor
  · intro numbered
    unfold run
    rw [c.arguments_congr given numbered]
    simp only [runArguments_env]
  · intro unread
    have stopped : c.arguments args = .error (.defect .badValue) := by
      rw [arguments, environmentNumber_of_not_numbered unread]
      rfl
    rw [run, stopped]

def fullArguments : List String :=
  ["--job=J", "--build-number=7", "--build-url=U", "--root-url=R", "--result=ABORTED"]

theorem run_of_environmental_other_build :
    let env := [("BUILD_NUMBER", "8"), ("JOB_NAME", "K"), ("BUILD_URL", "V")]
    let c : Console Board := ⟨{}, env, .ok Board.tracker⟩
    let scene : Scene Board Depot := ⟨{}, {}, []⟩
    (∀ values, parse fullArguments = .ok values →
        ∀ o ∈ environmental, (values.lookup o).isSome) ∧ Numbered env ∧
      c.run fullArguments scene = { c with env := [] }.run fullArguments scene := by
  intro env c scene
  have given : ∀ values, parse fullArguments = .ok values →
      ∀ o ∈ environmental, (values.lookup o).isSome := by
    have told : (parse fullArguments).toOption.all fun values =>
        environmental.all fun o => (values.lookup o).isSome := by decide +kernel
    intro values parsed o ho
    rw [parsed] at told
    exact List.all_eq_true.mp told o ho
  have numbered : Numbered env := by
    intro s found
    obtain rfl : "8" = s := Option.some.inj found
    exact .inr (by decide)
  exact ⟨given, numbered, (c.run_of_environmental given scene).1 numbered⟩

/-- A build number that no argument needs ends the run. -/
theorem run_breaks_on_unused_number :
    let c : Console Board := ⟨{}, [], .ok Board.tracker⟩
    let broken : Console Board := { c with env := [("BUILD_NUMBER", "abc")] }
    let scene : Scene Board Depot := ⟨{}, {}, []⟩
    (parse fullArguments).toOption.isSome ∧
      ((c.run fullArguments scene).1.toOption.map (·.code) = some 0) ∧
      (broken.run fullArguments scene).1.toOption = none := by
  refine ⟨?_, ?_, ?_⟩
  · decide +kernel
  · decide +kernel
  · decide +kernel

end Console

end TicketKeeper.CommandLine
