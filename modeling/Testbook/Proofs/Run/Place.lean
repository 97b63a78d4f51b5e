import Testbook.Proofs.Run.Annotation

/-! What is meant by the id of a step or of a scenario. Ids may be repeated, in imported documents within a
scenario or across scenarios; the first in the order of the document is meant, whoever asks. It is looked for
among the steps of all scenarios in a row, or scenario by scenario, and both ways lead to one place. -/

set_option autoImplicit false

namespace Testbook

variable {α β Place : Type}

/-- The place in a run of the first step with an id. -/
structure StepPlace (run : Run) (id : String) where
  front : List Scenario
  scenario : Scenario
  back : List Scenario
  before : List Step
  step : Step
  after : List Step
  scenarios : run.scenarios = front ++ scenario :: back
  steps : scenario.steps = before ++ step :: after
  named : step.id = id
  first : ∀ other ∈ front.flatMap (·.steps) ++ before, other.id ≠ id

structure ScenarioPlace (run : Run) (id : String) where
  front : List Scenario
  scenario : Scenario
  back : List Scenario
  scenarios : run.scenarios = front ++ scenario :: back
  named : scenario.id = id
  first : ∀ other ∈ front, other.id ≠ id

/-- A call that goes by what is found. If nothing is, it fails and leaves the run as it was; else it answers,
and leaves what it makes of the place in which that stands. -/
def AsFound (run : Run) (found? : Option β) (missing : Missing) (content : Place → β)
    (result : Except Error α × Run) (answer : α) (made : Place → Run) : Prop :=
  (result = (.error (.missing missing), run) ↔ found? = none) ∧
    ∀ found, found? = some found →
      ∃ place, content place = found ∧ result = (.ok answer, made place)

variable {run : Run} {id : String}

theorem asFound_of {found? : Option β} {missing : Missing} {content : Place → β}
    {result : Except Error α × Run} {answer : α} {made : Place → Run}
    (stands : ∀ found, found? = some found → ∃ place, content place = found)
    (absent : found? = none → result = (.error (.missing missing), run))
    (present : ∀ place, result = (.ok answer, made place)) :
    AsFound run found? missing content result answer made := by
  refine ⟨⟨fun failed => ?_, absent⟩, fun found is_found => ?_⟩
  · cases is_found : found? with
    | none => rfl
    | some found =>
      obtain ⟨place, _⟩ := stands found is_found
      rw [present place] at failed
      cases failed
  · obtain ⟨place, same⟩ := stands found is_found
    exact ⟨place, same, present place⟩

/-! ### Steps -/

namespace StepPlace

def withStep (place : StepPlace run id) (step : Step) : Scenario :=
  { place.scenario with steps := place.before ++ step :: place.after }

def within (place : StepPlace run id) (scenario : Scenario) : List Scenario :=
  place.front ++ scenario :: place.back

/-- The steps of all scenarios in a row, those before this place and those after it. -/
theorem row (place : StepPlace run id) : run.scenarios.flatMap (·.steps) =
    (place.front.flatMap (·.steps) ++ place.before) ++
      place.step :: (place.after ++ place.back.flatMap (·.steps)) := by
  simp [place.scenarios, place.steps]

theorem unnamed (place : StepPlace run id) :
    ∀ other ∈ place.front.flatMap (·.steps) ++ place.before, decide (other.id = id) = false :=
  fun other member => decide_eq_false (place.first other member)

theorem findStep?_eq (place : StepPlace run id) : run.findStep? id = some place.step := by
  refine List.find?_eq_some_iff_append.mpr ⟨by simp [place.named], _, _, place.row, ?_⟩
  intro other member
  simpa using place.first other member

theorem front_hasStep (place : StepPlace run id) : ∀ other ∈ place.front, other.hasStep id = false := by
  intro other member
  refine List.any_eq_false.mpr fun step has => ?_
  have apart := place.first step
    (List.mem_append_left _ (List.mem_flatMap.mpr ⟨other, member, has⟩))
  simpa using apart

theorem scenario_hasStep (place : StepPlace run id) : place.scenario.hasStep id = true := by
  simp [Scenario.hasStep, place.steps, place.named]

theorem run_hasStep (place : StepPlace run id) : run.hasStep id = true := by
  simp [Run.hasStep, place.scenarios, place.scenario_hasStep]

theorem modifyFirst_eq (place : StepPlace run id) (f : Scenario → Scenario) :
    modifyFirst (·.hasStep id) f run.scenarios = place.within (f place.scenario) := by
  rw [place.scenarios, modifyFirst_first place.front_hasStep place.scenario_hasStep, within]

theorem modifyStep_eq (place : StepPlace run id) (f : Step → Step) :
    place.scenario.modifyStep id f = place.withStep (f place.step) := by
  have others : ∀ other ∈ place.before, decide (other.id = id) = false :=
    fun other member => place.unnamed other (List.mem_append_right _ member)
  rw [Scenario.modifyStep, place.steps, modifyFirst_first others (by simp [place.named]), withStep]

theorem findStep?_within (place : StepPlace run id) (step : Step) (named : step.id = id) :
    Run.findStep? { run with scenarios := place.within (place.withStep step) } id = some step := by
  let later : StepPlace { run with scenarios := place.within (place.withStep step) } id :=
    { place with
      scenario := place.withStep step
      step
      scenarios := rfl
      steps := rfl
      named }
  exact later.findStep?_eq

end StepPlace

namespace Run

-- Among the steps in a row, the first that is named stands after all steps of some scenarios and some
-- steps of the next one.
theorem exists_stepPlace {step : Step} (found : run.findStep? id = some step) :
    ∃ place : StepPlace run id, place.step = step := by
  unfold findStep? at found
  rw [List.find?_flatMap] at found
  obtain ⟨front, scenario, back, scenarios, here, earlier⟩ := List.findSome?_eq_some_iff.mp found
  obtain ⟨named, before, after, steps, others⟩ := List.find?_eq_some_iff_append.mp here
  have first : ∀ other ∈ front.flatMap (·.steps) ++ before, other.id ≠ id := by
    intro other member
    rcases List.mem_append.mp member with ahead | beside
    · obtain ⟨owner, stands, has⟩ := List.mem_flatMap.mp ahead
      simpa using List.find?_eq_none.mp (earlier owner stands) other has
    · simpa using others other beside
  exact ⟨⟨front, scenario, back, before, step, after, scenarios, steps, by simpa using named, first⟩,
    rfl⟩

theorem hasStep_eq_isSome (run : Run) (id : String) : run.hasStep id = (run.findStep? id).isSome := by
  rw [Bool.eq_iff_iff, findStep?, List.find?_isSome, ← List.any_eq_true, List.any_flatMap]
  rfl

/-- A call that means the step of an id: what it answers, and what it makes of the place of that step. -/
def MeansStep (run : Run) (id : String) (result : Except Error α × Run) (answer : α)
    (made : StepPlace run id → Run) : Prop :=
  AsFound run (run.findStep? id) (.step id) StepPlace.step result answer made

theorem modifyStep_means (run : Run) (id : String) (f : Step → Step) :
    run.MeansStep id (run.modifyStep id f) () fun place =>
      { run with scenarios := place.within (place.withStep (f place.step)) } := by
  refine asFound_of (fun _ => exists_stepPlace) ?_ ?_
  · intro absent
    simp [modifyStep_eq, hasStep_eq_isSome, absent]
  · intro place
    rw [modifyStep_eq, if_pos place.run_hasStep, place.modifyFirst_eq, place.modifyStep_eq]

/-- Only the scenario of this place takes its status from its steps. -/
theorem setStepResult_means (takes : run.isMutable = true) (id : String) (outcome : Outcome) :
    run.MeansStep id (run.setStepResult id outcome) true fun place =>
      let scenario := place.withStep { place.step with result := outcome }
      run.withScenarios (place.within { scenario with status := scenario.derivedStatus }) := by
  refine asFound_of (fun _ => exists_stepPlace) ?_ ?_
  · intro absent
    simp [setStepResult, takes, hasStep_eq_isSome, absent]
  · intro place
    simp only [setStepResult, takes, place.run_hasStep, place.modifyFirst_eq, Scenario.marked,
      place.modifyStep_eq]
    rfl

end Run

/-! ### Scenarios -/

namespace ScenarioPlace

def within (place : ScenarioPlace run id) (scenario : Scenario) : List Scenario :=
  place.front ++ scenario :: place.back

theorem findScenario?_eq (place : ScenarioPlace run id) :
    run.findScenario? id = some place.scenario := by
  refine List.find?_eq_some_iff_append.mpr
    ⟨by simp [place.named], place.front, place.back, place.scenarios, ?_⟩
  intro other member
  simpa using place.first other member

theorem run_hasScenario (place : ScenarioPlace run id) : run.hasScenario id = true := by
  simp [Run.hasScenario, place.scenarios, place.named]

theorem modifyFirst_eq (place : ScenarioPlace run id) (f : Scenario → Scenario) :
    modifyFirst (·.id = id) f run.scenarios = place.within (f place.scenario) := by
  have others : ∀ other ∈ place.front, decide (other.id = id) = false := by
    intro other member
    simpa using place.first other member
  rw [place.scenarios, modifyFirst_first others (by simp [place.named]), within]

theorem findScenario?_within (place : ScenarioPlace run id) (scenario : Scenario)
    (named : scenario.id = id) :
    Run.findScenario? { run with scenarios := place.within scenario } id = some scenario := by
  let later : ScenarioPlace { run with scenarios := place.within scenario } id :=
    { place with scenario, scenarios := rfl, named }
  exact later.findScenario?_eq

end ScenarioPlace

namespace Run

theorem exists_scenarioPlace {scenario : Scenario} (found : run.findScenario? id = some scenario) :
    ∃ place : ScenarioPlace run id, place.scenario = scenario := by
  obtain ⟨named, front, back, scenarios, others⟩ := List.find?_eq_some_iff_append.mp found
  have first : ∀ other ∈ front, other.id ≠ id := by
    intro other member
    simpa using others other member
  exact ⟨⟨front, scenario, back, scenarios, by simpa using named, first⟩, rfl⟩

theorem hasScenario_eq_isSome (run : Run) (id : String) :
    run.hasScenario id = (run.findScenario? id).isSome := by
  rw [Bool.eq_iff_iff, findScenario?, List.find?_isSome, ← List.any_eq_true]
  rfl

def MeansScenario (run : Run) (id : String) (result : Except Error α × Run) (answer : α)
    (made : ScenarioPlace run id → Run) : Prop :=
  AsFound run (run.findScenario? id) (.scenario id) ScenarioPlace.scenario result answer made

theorem modifyScenario_means (run : Run) (id : String) (f : Scenario → Scenario) :
    run.MeansScenario id (run.modifyScenario id f) () fun place =>
      { run with scenarios := place.within (f place.scenario) } := by
  refine asFound_of (fun _ => exists_scenarioPlace) ?_ ?_
  · intro absent
    simp [modifyScenario, hasScenario_eq_isSome, absent]
  · intro place
    rw [modifyScenario, if_pos place.run_hasScenario, place.modifyFirst_eq]

theorem setScenarioResult_means (takes : run.isMutable = true) (id : String) (outcome : Outcome) :
    run.MeansScenario id (run.setScenarioResult id outcome) true fun place =>
      run.withScenarios (place.within (place.scenario.asserted outcome)) := by
  refine asFound_of (fun _ => exists_scenarioPlace) ?_ ?_
  · intro absent
    simp [setScenarioResult, takes, hasScenario_eq_isSome, absent]
  · intro place
    simp only [setScenarioResult, takes, place.run_hasScenario, place.modifyFirst_eq]
    rfl

end Run

end Testbook
