import Testbook.Proofs.First
import Testbook.Proofs.Pairwise
import Testbook.Run.Lifecycle

/-! Notes and attachments say something about a run without changing it: all but the notes stays, and
each list of attachments grows at its end. -/

set_option autoImplicit false

namespace Testbook

/-- The step later, when nothing but its note has changed and attachments were added. -/
structure Step.Annotated (step later : Step) : Prop where
  id : later.id = step.id
  keyword : later.keyword = step.keyword
  text : later.text = step.text
  result : later.result = step.result
  attachments : step.attachments <+: later.attachments

structure Scenario.Annotated (scenario later : Scenario) : Prop where
  id : later.id = scenario.id
  name : later.name = scenario.name
  steps : List.Forall₂ Step.Annotated scenario.steps later.steps
  status : later.status = scenario.status
  tags : later.tags = scenario.tags
  attachments : scenario.attachments <+: later.attachments

structure Run.Annotated (run later : Run) : Prop where
  id : later.id = run.id
  featureId : later.featureId = run.featureId
  createdAt : later.createdAt = run.createdAt
  environment : later.environment = run.environment
  version : later.version = run.version
  scenarios : List.Forall₂ Scenario.Annotated run.scenarios later.scenarios
  summary : later.summary = run.summary
  status : later.status = run.status
  completedAt : later.completedAt = run.completedAt
  locked : later.locked = run.locked

/-! ### From step to step -/

theorem Step.Annotated.refl (step : Step) : step.Annotated step :=
  ⟨rfl, rfl, rfl, rfl, List.prefix_rfl⟩

theorem Step.Annotated.trans {a b c : Step} (first : a.Annotated b) (second : b.Annotated c) :
    a.Annotated c where
  id := second.id.trans first.id
  keyword := second.keyword.trans first.keyword
  text := second.text.trans first.text
  result := second.result.trans first.result
  attachments := first.attachments.trans second.attachments

theorem Scenario.Annotated.refl (scenario : Scenario) : scenario.Annotated scenario :=
  ⟨rfl, rfl, List.forall₂_same.mpr fun step _ => .refl step, rfl, rfl, List.prefix_rfl⟩

theorem Scenario.Annotated.trans {a b c : Scenario} (first : a.Annotated b)
    (second : b.Annotated c) : a.Annotated c where
  id := second.id.trans first.id
  name := second.name.trans first.name
  steps := forall₂_trans (fun _ _ _ left right => left.trans right) first.steps second.steps
  status := second.status.trans first.status
  tags := second.tags.trans first.tags
  attachments := first.attachments.trans second.attachments

theorem Run.Annotated.refl (run : Run) : run.Annotated run :=
  ⟨rfl, rfl, rfl, rfl, rfl, List.forall₂_same.mpr fun scenario _ => .refl scenario, rfl, rfl, rfl,
    rfl⟩

theorem Run.Annotated.trans {a b c : Run} (first : a.Annotated b) (second : b.Annotated c) :
    a.Annotated c where
  id := second.id.trans first.id
  featureId := second.featureId.trans first.featureId
  createdAt := second.createdAt.trans first.createdAt
  environment := second.environment.trans first.environment
  version := second.version.trans first.version
  scenarios := forall₂_trans (fun _ _ _ left right => left.trans right) first.scenarios second.scenarios
  summary := second.summary.trans first.summary
  status := second.status.trans first.status
  completedAt := second.completedAt.trans first.completedAt
  locked := second.locked.trans first.locked

/-! ### The operations -/

theorem Scenario.modifyStep_annotated {f : Step → Step} (each : ∀ step : Step, step.Annotated (f step))
    (scenario : Scenario) (step : String) : scenario.Annotated (scenario.modifyStep step f) :=
  { Annotated.refl scenario with steps := forall₂_modifyFirst Step.Annotated.refl each scenario.steps }

/-- The step that is found in the row of all is the first one of the first scenario that has one. -/
theorem modifyInRow?_eq (step : String) (f : Step → Step) (scenarios : List Scenario) :
    modifyInRow? step f scenarios =
      if scenarios.any (·.hasStep step) then
        some (modifyFirst (·.hasStep step) (·.modifyStep step f) scenarios)
      else none := by
  induction scenarios with
  | nil => rfl
  | cons scenario rest ih =>
    have here : scenario.steps.any (·.id = step) = scenario.hasStep step := rfl
    rw [modifyInRow?, modifyFirst?_eq, here, ih, List.any_cons, modifyFirst]
    cases scenario.hasStep step with
    | true => rfl
    | false => cases rest.any (·.hasStep step) <;> rfl

namespace Run

variable (run : Run)

theorem modifyStep_eq (step : String) (f : Step → Step) : run.modifyStep step f =
    if run.hasStep step then
      (.ok (), { run with
        scenarios := modifyFirst (·.hasStep step) (·.modifyStep step f) run.scenarios })
    else (.error (.missing (.step step)), run) := by
  rw [modifyStep, modifyInRow?_eq, hasStep]
  cases run.scenarios.any (·.hasStep step) <;> rfl

theorem modifyStep_annotated {f : Step → Step} (each : ∀ step : Step, step.Annotated (f step))
    (step : String) : run.Annotated (run.modifyStep step f).2 := by
  rw [modifyStep_eq]
  split
  · exact { Annotated.refl run with
      scenarios := forall₂_modifyFirst Scenario.Annotated.refl
        (fun scenario => scenario.modifyStep_annotated each step) run.scenarios }
  · exact .refl run

theorem modifyScenario_annotated {f : Scenario → Scenario}
    (each : ∀ scenario : Scenario, scenario.Annotated (f scenario)) (scenario : String) :
    run.Annotated (run.modifyScenario scenario f).2 := by
  unfold modifyScenario
  split
  · exact { Annotated.refl run with
      scenarios := forall₂_modifyFirst Scenario.Annotated.refl each run.scenarios }
  · exact .refl run

theorem setStepNote_annotated (step text : String) : run.Annotated (run.setStepNote step text).2 := by
  refine run.modifyStep_annotated ?_ step
  intro step
  exact { Step.Annotated.refl step with }

theorem setScenarioNote_annotated (scenario text : String) :
    run.Annotated (run.setScenarioNote scenario text).2 := by
  refine run.modifyScenario_annotated ?_ scenario
  intro scenario
  exact { Scenario.Annotated.refl scenario with }

theorem addStepAttachment_annotated (step : String) (attachment : Attachment) :
    run.Annotated (run.addStepAttachment step attachment).2 := by
  refine run.modifyStep_annotated ?_ step
  intro step
  exact { Step.Annotated.refl step with attachments := List.prefix_append _ _ }

theorem addScenarioAttachment_annotated (scenario : String) (attachment : Attachment) :
    run.Annotated (run.addScenarioAttachment scenario attachment).2 := by
  refine run.modifyScenario_annotated ?_ scenario
  intro scenario
  exact { Scenario.Annotated.refl scenario with attachments := List.prefix_append _ _ }

end Run

end Testbook
