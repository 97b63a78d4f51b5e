import Testbook.Proofs.Run.Edited

/-! What a scenario says, apart from how it was tested. A run has this in common with its feature, and
none of the store's own operations on a run changes it. -/

set_option autoImplicit false

namespace Testbook

def Step.outline (step : Step) : Step where
  id := step.id
  keyword := step.keyword
  text := step.text

def Scenario.outline (scenario : Scenario) : Scenario where
  id := scenario.id
  name := scenario.name
  steps := scenario.steps.map Step.outline
  tags := scenario.tags

def Run.outlines (run : Run) : List Scenario := run.scenarios.map Scenario.outline

/-! ### Scenarios -/

namespace Scenario

theorem asserted_outline (scenario : Scenario) (outcome : Outcome) :
    (scenario.asserted outcome).outline = scenario.outline := by
  simp [outline, asserted, Step.outline, Function.comp_def]

theorem cleared_outline (scenario : Scenario) : scenario.cleared.outline = scenario.outline :=
  asserted_outline scenario .untested

theorem marked_outline (scenario : Scenario) (step : String) (outcome : Outcome) :
    (scenario.marked step outcome).outline = scenario.outline := by
  have each (step : Step) : Step.outline { step with result := outcome } = step.outline := rfl
  simp [outline, marked, modifyStep, map_modifyFirst each]

theorem Tested.outline {scenario later : Scenario} (tested : scenario.Tested later) :
    later.outline = scenario.outline := by
  cases tested with
  | kept => rfl
  | marked step outcome => exact scenario.marked_outline step outcome
  | asserted outcome => exact scenario.asserted_outline outcome

theorem Annotated.outline {scenario later : Scenario} (annotated : scenario.Annotated later) :
    later.outline = scenario.outline := by
  have each (step later : Step) (same : step.Annotated later) : later.outline = step.outline := by
    rw [Step.outline, same.id, same.keyword, same.text, Step.outline]
  have steps : later.steps.map Step.outline = scenario.steps.map Step.outline :=
    map_eq_of_forall₂ each annotated.steps
  rw [Scenario.outline, annotated.id, annotated.name, steps, annotated.tags, Scenario.outline]

end Scenario

/-! ### Runs -/

namespace Run

variable {run changed : Run}

theorem snapshot_outlines (feature : Feature) (environment : Environment) (version id : String)
    (now : Instant) :
    (snapshot feature environment version id now).outlines =
      feature.scenarios.map Scenario.outline := by
  simp [snapshot, outlines, Scenario.cleared_outline]

theorem reset_outlines (run : Run) : run.reset.outlines = run.outlines := by
  simp [reset, outlines, Scenario.asserted_outline]

theorem complete_outlines (run : Run) (now : Instant) :
    (run.complete now).2.outlines = run.outlines := by
  unfold complete
  split <;> rfl

theorem Annotated.outlines (annotated : run.Annotated changed) : changed.outlines = run.outlines :=
  map_eq_of_forall₂ (fun _ _ same => Scenario.Annotated.outline same) annotated.scenarios

theorem Tested.outlines (tested : run.Tested changed) : changed.outlines = run.outlines := by
  cases tested with
  | kept => rfl
  | counted _ each => exact map_eq_of_forall₂ (fun _ _ same => Scenario.Tested.outline same) each

end Run

theorem Operation.edit?_outlines {op : Operation} (own : op.IsOwn) {project id : String}
    {f : Run → Except Error Run} (edits : op.edit? = some (project, id, f)) {run changed : Run}
    (result : f run = .ok changed) : changed.outlines = run.outlines := by
  rcases Operation.tested_or_annotated own edits result with tested | annotated
  · exact tested.outlines
  · exact annotated.outlines

end Testbook
