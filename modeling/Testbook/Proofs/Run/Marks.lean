import Mathlib.Data.List.Induction
import Testbook.Proofs.Run.Calls
import Testbook.Proofs.Run.Status

/-! What a row of marks on steps comes to. A mark derives a status and a summary each time, but all that
is left of a row of them is the last result that each step was given, wherever the ids of steps are
repeated. -/

set_option autoImplicit false

namespace Testbook

open Function (update)

abbrev Results := String → Option Outcome

def lastMark? (marks : List (String × Outcome)) : Results :=
  fun step => (marks.reverse.find? (·.1 = step)).map (·.2)

theorem lastMark?_append (marks : List (String × Outcome)) (step : String) (outcome : Outcome) :
    lastMark? (marks ++ [(step, outcome)]) = update (lastMark? marks) step (some outcome) := by
  funext asked
  by_cases same : asked = step
  · subst same
    simp [lastMark?]
  · simp [lastMark?, same, Ne.symm same]

theorem lastMark?_eq_none {marks : List (String × Outcome)} {step : String} :
    lastMark? marks step = none ↔ step ∉ marks.map (·.1) := by
  simp only [lastMark?, Option.map_eq_none_iff, List.find?_eq_none, List.mem_reverse,
    decide_eq_true_eq, List.mem_map, not_exists, not_and]

theorem lastMark?_eq_nothing {marks : List (String × Outcome)} :
    lastMark? marks = (fun _ => none) ↔ marks = [] := by
  constructor
  · intro nothing
    refine List.eq_nil_iff_forall_not_mem.mpr ?_
    intro mark member
    exact lastMark?_eq_none.mp (congrFun nothing mark.1) (List.mem_map.mpr ⟨mark, member, rfl⟩)
  · rintro rfl
    rfl

/-! ### The steps of one scenario -/

/-- Steps with the results that they are given. Of several with one id the first takes it. -/
def remarked (given : Results) : List Step → List Step
  | [] => []
  | step :: rest =>
    { step with result := (given step.id).getD step.result } ::
      remarked (update given step.id none) rest

section Steps

variable {given : Results} {id : String}

theorem remarked_none (steps : List Step) : remarked (fun _ => none) steps = steps := by
  induction steps with
  | nil => rfl
  | cons step rest ih =>
    simp [remarked, ih]

theorem remarked_congr {other : Results} {steps : List Step}
    (same : ∀ step ∈ steps, given step.id = other step.id) :
    remarked given steps = remarked other steps := by
  induction steps generalizing given other with
  | nil => rfl
  | cons step rest ih =>
    have later : ∀ s ∈ rest, update given step.id none s.id = update other step.id none s.id := by
      intro s member
      by_cases again : s.id = step.id
      · simp [again]
      · simp [again, same s (List.mem_cons_of_mem step member)]
    simp only [remarked, same step List.mem_cons_self, ih later]

theorem map_id_remarked (given : Results) (steps : List Step) :
    (remarked given steps).map (·.id) = steps.map (·.id) := by
  induction steps generalizing given with
  | nil => rfl
  | cons step rest ih => simp [remarked, ih]

/-- One more result goes to the first step of its id, over what that one was given before. -/
theorem remarked_update (given : Results) (id : String) (outcome : Outcome) (steps : List Step) :
    remarked (update given id (some outcome)) steps =
      modifyFirst (·.id = id) (fun step => { step with result := outcome }) (remarked given steps) := by
  induction steps generalizing given with
  | nil => rfl
  | cons step rest ih =>
    by_cases hit : step.id = id
    · subst hit
      simp [remarked, modifyFirst]
    · have apart : update (update given id (some outcome)) step.id none =
          update (update given step.id none) id (some outcome) :=
        Function.update_comm (Ne.symm hit) _ _ _
      simp [remarked, modifyFirst, hit, apart, ih]

theorem find?_remarked (given : Results) (steps : List Step) :
    (remarked given steps).find? (·.id = id) =
      (steps.find? (·.id = id)).map fun step =>
        { step with result := (given id).getD step.result } := by
  induction steps generalizing given with
  | nil => rfl
  | cons step rest ih =>
    by_cases hit : step.id = id
    · subst hit
      simp [remarked]
    · have still : update given step.id none id = given id := Function.update_of_ne (Ne.symm hit) _ _
      simp [remarked, hit, ih, still]

end Steps

/-! ### One scenario -/

/-- The scenario with the results that its steps are given. Where one of them is given a result, the
status comes from the steps; else it is as it was, even if it was only asserted. -/
def Scenario.remarked (scenario : Scenario) (given : Results) : Scenario :=
  let marked := { scenario with steps := Testbook.remarked given scenario.steps }
  if ∃ step ∈ scenario.steps, (given step.id).isSome then
    { marked with status := marked.derivedStatus }
  else marked

namespace Scenario

variable {scenario : Scenario} {given : Results} {id : String}

theorem remarked_steps (scenario : Scenario) (given : Results) :
    (scenario.remarked given).steps = Testbook.remarked given scenario.steps := by
  unfold remarked
  split <;> rfl

theorem remarked_none (scenario : Scenario) : scenario.remarked (fun _ => none) = scenario := by
  simp [remarked, Testbook.remarked_none]

theorem hasStep_iff : scenario.hasStep id = true ↔ id ∈ scenario.steps.map (·.id) := by
  simp [hasStep]

theorem hasStep_remarked (scenario : Scenario) (given : Results) (id : String) :
    (scenario.remarked given).hasStep id = scenario.hasStep id := by
  rw [Bool.eq_iff_iff, hasStep_iff, hasStep_iff, remarked_steps, map_id_remarked]

theorem remarked_update_has (has : scenario.hasStep id = true) (given : Results) (outcome : Outcome) :
    scenario.remarked (update given id (some outcome)) =
      (scenario.remarked given).marked id outcome := by
  have touched : ∃ step ∈ scenario.steps, (update given id (some outcome) step.id).isSome := by
    obtain ⟨step, member, rfl⟩ := List.mem_map.mp (hasStep_iff.mp has)
    exact ⟨step, member, by simp⟩
  rw [remarked, if_pos touched, remarked_update]
  unfold remarked
  split <;> rfl

theorem remarked_update_other (other : scenario.hasStep id = false) (given : Results)
    (result : Option Outcome) :
    scenario.remarked (update given id result) = scenario.remarked given := by
  have same : ∀ step ∈ scenario.steps, update given id result step.id = given step.id := by
    intro step member
    refine Function.update_of_ne ?_ _ _
    rintro rfl
    have has : scenario.hasStep step.id = true := hasStep_iff.mpr (List.mem_map.mpr ⟨step, member, rfl⟩)
    simp [has] at other
  have touched : (∃ step ∈ scenario.steps, (update given id result step.id).isSome) ↔
      ∃ step ∈ scenario.steps, (given step.id).isSome :=
    exists_congr fun step => and_congr_right fun member => by rw [same step member]
  simp only [remarked, touched, remarked_congr same]

end Scenario

/-! ### All scenarios -/

def Scenario.passes (scenario : Scenario) (given : Results) : Results :=
  fun step => if scenario.hasStep step then none else given step

def remarkEach (given : Results) : List Scenario → List Scenario
  | [] => []
  | scenario :: rest => scenario.remarked given :: remarkEach (scenario.passes given) rest

section Scenarios

variable {given : Results} {id : String}

theorem remarkEach_none (scenarios : List Scenario) :
    remarkEach (fun _ => none) scenarios = scenarios := by
  induction scenarios with
  | nil => rfl
  | cons scenario rest ih =>
    have still : scenario.passes (fun _ => none) = fun _ => none := by
      funext step
      simp [Scenario.passes]
    simp [remarkEach, Scenario.remarked_none, still, ih]

theorem any_hasStep_remarkEach (given : Results) (scenarios : List Scenario) (id : String) :
    (remarkEach given scenarios).any (·.hasStep id) = scenarios.any (·.hasStep id) := by
  induction scenarios generalizing given with
  | nil => rfl
  | cons scenario rest ih => simp [remarkEach, Scenario.hasStep_remarked, ih]

theorem remarkEach_update (given : Results) (id : String) (outcome : Outcome)
    (scenarios : List Scenario) :
    remarkEach (update given id (some outcome)) scenarios =
      modifyFirst (·.hasStep id) (·.marked id outcome) (remarkEach given scenarios) := by
  induction scenarios generalizing given with
  | nil => rfl
  | cons scenario rest ih =>
    simp only [remarkEach, modifyFirst, Scenario.hasStep_remarked]
    cases has : scenario.hasStep id with
    | true =>
      have taken : scenario.passes (update given id (some outcome)) = scenario.passes given := by
        funext step
        by_cases same : step = id
        · simp [Scenario.passes, same, has]
        · simp [Scenario.passes, same]
      simp [taken, Scenario.remarked_update_has has]
    | false =>
      have passed : scenario.passes (update given id (some outcome)) =
          update (scenario.passes given) id (some outcome) := by
        funext step
        by_cases same : step = id
        · simp [Scenario.passes, same, has]
        · simp [Scenario.passes, same]
      simp [passed, Scenario.remarked_update_other has, ih]

/-- The first step of an id bears the result that the id is given. -/
theorem find?_remarkEach (given : Results) (scenarios : List Scenario) :
    ((remarkEach given scenarios).flatMap (·.steps)).find? (·.id = id) =
      ((scenarios.flatMap (·.steps)).find? (·.id = id)).map fun step =>
        { step with result := (given id).getD step.result } := by
  induction scenarios generalizing given with
  | nil => rfl
  | cons scenario rest ih =>
    simp only [remarkEach, List.flatMap_cons, List.find?_append, Scenario.remarked_steps,
      find?_remarked, ih]
    cases found : scenario.steps.find? (·.id = id) with
    | some step => rfl
    | none =>
      have other : scenario.hasStep id = false := by
        simpa [Scenario.hasStep] using List.find?_eq_none.mp found
      simp [Scenario.passes, other]

end Scenarios

/-! ### Runs -/

namespace Run

variable {run : Run} {marks first second : List (String × Outcome)}

def markEach (run : Run) (marks : List (String × Outcome)) : Except Error Unit × Run :=
  run.calls (fun mark run => run.setStepResult mark.1 mark.2) marks

theorem setStepResult_eq {step : String} (takes : run.isMutable = true)
    (has : run.hasStep step = true) (outcome : Outcome) :
    run.setStepResult step outcome = (.ok true, run.withScenarios
      (modifyFirst (·.hasStep step) (·.marked step outcome) run.scenarios)) := by
  simp [setStepResult, takes, has]

-- The induction takes the marks from the end: all that is asked of the run before the last mark is which
-- results its steps have been given so far.
/-- A row of marks on steps that the run has can be made, and leaves the last result of each step. -/
theorem markEach_eq (takes : run.isMutable = true)
    (known : ∀ mark ∈ marks, run.hasStep mark.1 = true) (some_marks : marks ≠ []) :
    run.markEach marks =
      (.ok (), run.withScenarios (remarkEach (lastMark? marks) run.scenarios)) := by
  induction marks using List.reverseRecOn with
  | nil => exact absurd rfl some_marks
  | append_singleton marks mark ih =>
    obtain ⟨step, outcome⟩ := mark
    have has : run.hasStep step = true := known (step, outcome) (by simp)
    rw [lastMark?_append, remarkEach_update]
    by_cases nothing : marks = []
    · subst nothing
      have none_given : lastMark? [] = fun _ => none := rfl
      rw [none_given, remarkEach_none]
      exact calls_cons_of_ok (setStepResult_eq takes has outcome) []
    · have before := ih (fun mark member => known mark (by simp [member])) nothing
      let later := run.withScenarios (remarkEach (lastMark? marks) run.scenarios)
      have has' : later.hasStep step = true := (any_hasStep_remarkEach _ _ _).trans has
      have takes' : later.isMutable = true := takes
      exact (calls_append before _).trans (calls_cons_of_ok (setStepResult_eq takes' has' outcome) [])

/-- Marks on steps that the run has can all be made. Each step then shows the last result that it was
given, or what it showed before. -/
theorem markEach_shows (takes : run.isMutable = true)
    (known : ∀ mark ∈ marks, run.hasStep mark.1 = true) :
    ∃ final, run.markEach marks = (.ok (), final) ∧ ∀ step, final.findStep? step =
      (run.findStep? step).map fun s => { s with result := (lastMark? marks step).getD s.result } := by
  by_cases nothing : marks = []
  · subst nothing
    refine ⟨run, rfl, ?_⟩
    intro step
    simp [lastMark?]
  · exact ⟨_, markEach_eq takes known nothing, fun step => find?_remarkEach _ _⟩

theorem markEach_congr (takes : run.isMutable = true)
    (known : ∀ mark ∈ first ++ second, run.hasStep mark.1 = true)
    (same : lastMark? first = lastMark? second) : run.markEach first = run.markEach second := by
  have nothing : first = [] ↔ second = [] := by
    rw [← lastMark?_eq_nothing, same, lastMark?_eq_nothing]
  by_cases empty : first = []
  · rw [empty, nothing.mp empty]
  · rw [markEach_eq takes (fun mark member => known mark (List.mem_append_left _ member)) empty,
      markEach_eq takes (fun mark member => known mark (List.mem_append_right _ member))
        (empty ∘ nothing.mpr), same]

theorem hasStep_iff {step : String} :
    run.hasStep step = true ↔ ∃ scenario ∈ run.scenarios, ∃ s ∈ scenario.steps, s.id = step := by
  simp [hasStep, Scenario.hasStep]

/-- Marks on the same steps that give each step the same result in the end make the same run, in whatever
order they are made and however often they are corrected on the way. Every step that was marked shows its
last result, and every other step what it showed before. -/
theorem marks_in_any_order (takes : run.isMutable = true)
    (known : ∀ mark ∈ first ++ second,
      ∃ scenario ∈ run.scenarios, ∃ step ∈ scenario.steps, step.id = mark.1)
    (same : ∀ step, step ∈ first.map (·.1) ↔ step ∈ second.map (·.1))
    (agree : ∀ step ∈ first.map (·.1), lastMark? first step = lastMark? second step) :
    ∃ final, run.markEach first = (.ok (), final) ∧ run.markEach second = (.ok (), final) ∧
      ∀ step, final.findStep? step =
        (run.findStep? step).map fun s => { s with result := (lastMark? first step).getD s.result } := by
  have has : ∀ mark ∈ first ++ second, run.hasStep mark.1 = true :=
    fun mark member => hasStep_iff.mpr (known mark member)
  have results : lastMark? first = lastMark? second := by
    funext step
    by_cases marked : step ∈ first.map (·.1)
    · exact agree step marked
    · rw [lastMark?_eq_none.mpr marked, lastMark?_eq_none.mpr (marked ∘ (same step).mpr)]
  obtain ⟨final, made, shows⟩ :=
    markEach_shows takes fun mark member => has mark (List.mem_append_left _ member)
  exact ⟨final, made, (markEach_congr takes has results).symm.trans made, shows⟩

-- The ids of steps are repeated: only the first step takes the marks of its id.
/-- A scenario whose step is corrected, before or after the step of a scenario that was asserted. -/
theorem marks_in_any_order_sample :
    let step (id : String) : Step := { id, keyword := .given, text := "a user" }
    let run : Run :=
      { id := "r-1", featureId := "login", createdAt := .epoch, environment := .staging
        version := "1.0"
        scenarios := [{ id := "plain", name := "Plain", steps := [step "a", step "b", step "a"] },
          { id := "guest", name := "Guest", steps := [step "a", step "c"], status := .skipped }] }
    let first := [("a", Outcome.failed), ("b", .passed), ("c", .failed), ("a", .passed)]
    let second := [("c", Outcome.failed), ("a", .passed), ("b", .passed)]
    ∃ final, run.markEach first = (.ok (), final) ∧ run.markEach second = (.ok (), final) ∧
      final.scenarios.map (·.status) = [.untested, .failed] ∧
      (final.findStep? "a").map (·.result) = some .passed := by
  intro step run first second
  have takes : run.isMutable = true := by decide
  have known : ∀ mark ∈ first ++ second,
      ∃ scenario ∈ run.scenarios, ∃ step ∈ scenario.steps, step.id = mark.1 := by decide
  have same (step : String) : step ∈ first.map (·.1) ↔ step ∈ second.map (·.1) := by
    simp [first, second]
    tauto
  obtain ⟨final, made, made', shows⟩ := marks_in_any_order takes known same (by decide)
  refine ⟨final, made, made', ?_, ?_⟩
  · cases made
    decide
  · rw [shows]
    decide

end Run

end Testbook
