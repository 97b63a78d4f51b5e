import Testbook.Proofs.Run.Move

/-! Annotations and moves do not see each other. An annotation looks at ids only, which no move changes,
and changes what no result depends on; so of the two either may come first, and both answer the same. -/

set_option autoImplicit false

namespace Testbook

theorem Step.noted (step : Step) (note : Option String) : step.Annotated { step with note } :=
  { Annotated.refl step with }

theorem Step.attached (step : Step) (attachment : Attachment) :
    step.Annotated { step with attachments := step.attachments ++ [attachment] } :=
  { Annotated.refl step with attachments := List.prefix_append _ _ }

namespace Scenario

variable {scenario later : Scenario}

theorem hasStep_outline (scenario : Scenario) (step : String) :
    scenario.outline.hasStep step = scenario.hasStep step := by
  simp only [hasStep, outline, List.any_map]
  rfl

theorem Annotated.hasStep (annotated : scenario.Annotated later) (step : String) :
    later.hasStep step = scenario.hasStep step := by
  rw [← hasStep_outline, annotated.outline, hasStep_outline]

variable {f : Step → Step} (each : ∀ step : Step, step.Annotated (f step))
  (beside : ∀ (step : Step) (outcome : Outcome), f (step.bearing outcome) = (f step).bearing outcome)

include beside

/-- A change of a step that does not touch results, before or after they are asserted. -/
theorem modifyStep_asserted (scenario : Scenario) (step : String) (outcome : Outcome) :
    (scenario.asserted outcome).modifyStep step f = (scenario.modifyStep step f).asserted outcome :=
  congrArg (fun steps => { scenario with status := outcome, steps })
    (modifyFirst_map (g := (·.bearing outcome)) (fun _ => rfl) (beside · outcome) scenario.steps)

include each

-- The mark derives the status from the steps that have been changed, whose results are the same.
theorem modifyStep_marked (scenario : Scenario) (changed step : String) (outcome : Outcome) :
    (scenario.marked step outcome).modifyStep changed f =
      (scenario.modifyStep changed f).marked step outcome := by
  have steps := modifyFirst_comm (p := (·.id = changed)) (q := (·.id = step)) (g := (·.bearing outcome))
    (fun _ => rfl) (fun s => by rw [(each s).id]) (beside · outcome) scenario.steps
  have status : (scenario.modifyStep step (·.bearing outcome)).derivedStatus =
      ((scenario.modifyStep changed f).modifyStep step (·.bearing outcome)).derivedStatus := by
    refine derivedStatus_congr ?_
    simp only [modifyStep]
    rw [← steps, map_modifyFirst fun s => (each s).result]
  exact congrArg₂ (fun steps status => { scenario with steps, status }) steps status

end Scenario

/-! ### Annotations -/

namespace Annotation

def place : Annotation → Scenario → Bool
  | setStepNote step _, scenario => scenario.hasStep step
  | setScenarioNote id _, scenario => scenario.id = id
  | addStepAttachment step _, scenario => scenario.hasStep step
  | addScenarioAttachment id _, scenario => scenario.id = id

def change : Annotation → Scenario → Scenario
  | setStepNote step text, scenario =>
    scenario.modifyStep step fun s => { s with note := noteText? text }
  | setScenarioNote _ text, scenario => { scenario with note := noteText? text }
  | addStepAttachment step attachment, scenario =>
    scenario.modifyStep step fun s => { s with attachments := s.attachments ++ [attachment] }
  | addScenarioAttachment _ attachment, scenario =>
    { scenario with attachments := scenario.attachments ++ [attachment] }

def target : Annotation → Missing
  | setStepNote step _ => .step step
  | setScenarioNote scenario _ => .scenario scenario
  | addStepAttachment step _ => .step step
  | addScenarioAttachment scenario _ => .scenario scenario

def edit (remark : Annotation) (scenarios : List Scenario) : List Scenario :=
  modifyFirst remark.place remark.change scenarios

def edited (remark : Annotation) (run : Run) : Run :=
  { run with scenarios := remark.edit run.scenarios }

variable (remark : Annotation) {scenario later : Scenario} {scenarios : List Scenario}

theorem perform_eq (run : Run) : remark.perform run =
    if run.scenarios.any remark.place then (.ok (), remark.edited run)
    else (.error (.missing remark.target), run) := by
  cases remark with
  | setStepNote step text => exact run.modifyStep_eq step _
  | setScenarioNote => rfl
  | addStepAttachment step attachment => exact run.modifyStep_eq step _
  | addScenarioAttachment => rfl

theorem edited_absent {run : Run} (absent : run.scenarios.any remark.place = false) :
    remark.edited run = run := by
  have none : run.scenarios.find? remark.place = none := by simpa using absent
  rw [edited, edit, modifyFirst_absent _ none]

-- Where the annotation finds no place, it is as good as made.
theorem perform_eq_edited (run : Run) : remark.perform run =
    (if run.scenarios.any remark.place then .ok () else .error (.missing remark.target),
      remark.edited run) := by
  rw [perform_eq]
  cases known : run.scenarios.any remark.place with
  | true => rfl
  | false =>
    rw [remark.edited_absent known]
    rfl

theorem place_congr (same : later.outline = scenario.outline) :
    remark.place later = remark.place scenario := by
  have has (step : String) : later.hasStep step = scenario.hasStep step := by
    rw [← Scenario.hasStep_outline, same, Scenario.hasStep_outline]
  have id : later.id = scenario.id := by simpa [Scenario.outline] using congrArg (·.id) same
  cases remark <;> simp only [place, has, id]

theorem change_annotated (scenario : Scenario) : scenario.Annotated (remark.change scenario) := by
  cases remark with
  | setStepNote step text =>
    exact scenario.modifyStep_annotated (Step.noted · (noteText? text)) step
  | setScenarioNote id text => exact { Scenario.Annotated.refl scenario with }
  | addStepAttachment step attachment =>
    exact scenario.modifyStep_annotated (Step.attached · attachment) step
  | addScenarioAttachment id attachment =>
    exact { Scenario.Annotated.refl scenario with attachments := List.prefix_append _ _ }

theorem change_asserted (scenario : Scenario) (outcome : Outcome) :
    remark.change (scenario.asserted outcome) = (remark.change scenario).asserted outcome := by
  cases remark with
  | setStepNote step text => exact Scenario.modifyStep_asserted (fun _ _ => rfl) scenario step outcome
  | setScenarioNote id text => rfl
  | addStepAttachment step attachment =>
    exact Scenario.modifyStep_asserted (fun _ _ => rfl) scenario step outcome
  | addScenarioAttachment id attachment => rfl

theorem change_marked (scenario : Scenario) (step : String) (outcome : Outcome) :
    remark.change (scenario.marked step outcome) =
      (remark.change scenario).marked step outcome := by
  cases remark with
  | setStepNote changed text =>
    exact Scenario.modifyStep_marked (Step.noted · (noteText? text)) (fun _ _ => rfl) scenario changed
      step outcome
  | setScenarioNote id text => rfl
  | addStepAttachment changed attachment =>
    exact Scenario.modifyStep_marked (Step.attached · attachment) (fun _ _ => rfl) scenario changed step
      outcome
  | addScenarioAttachment id attachment => rfl

/-! ### Among scenarios -/

theorem edit_modifyFirst {p : Scenario → Bool} {f : Scenario → Scenario}
    (unseen : ∀ scenario later : Scenario, scenario.Annotated later → p later = p scenario)
    (kept : ∀ scenario, (f scenario).outline = scenario.outline)
    (comm : ∀ scenario, remark.change (f scenario) = f (remark.change scenario))
    (scenarios : List Scenario) :
    remark.edit (modifyFirst p f scenarios) = modifyFirst p f (remark.edit scenarios) :=
  modifyFirst_comm (fun scenario => remark.place_congr (kept scenario))
    (fun scenario => unseen _ _ (remark.change_annotated scenario)) comm scenarios

theorem edit_map {f : Scenario → Scenario} (kept : ∀ scenario, (f scenario).outline = scenario.outline)
    (comm : ∀ scenario, remark.change (f scenario) = f (remark.change scenario))
    (scenarios : List Scenario) : remark.edit (scenarios.map f) = (remark.edit scenarios).map f :=
  modifyFirst_map (fun scenario => remark.place_congr (kept scenario)) comm scenarios

theorem edited_withScenarios (run : Run) (scenarios : List Scenario) :
    (remark.edited run).withScenarios (remark.edit scenarios) =
      remark.edited (run.withScenarios scenarios) := by
  have statuses : (remark.edit scenarios).map (·.status) = scenarios.map (·.status) :=
    map_modifyFirst (fun scenario => (remark.change_annotated scenario).status) _ _
  simp [edited, Run.withScenarios, ofScenarios_congr statuses]

theorem hasStep_edited (run : Run) (step : String) :
    (remark.edited run).hasStep step = run.hasStep step :=
  any_modifyFirst (fun scenario => (remark.change_annotated scenario).hasStep step) _ _

theorem hasScenario_edited (run : Run) (id : String) :
    (remark.edited run).hasScenario id = run.hasScenario id :=
  any_modifyFirst (fun scenario => by rw [(remark.change_annotated scenario).id]) _ _

/-- The annotation finds its place as long as the scenarios say the same. -/
theorem any_place_congr {run later : Run} (same : later.outlines = run.outlines) :
    later.scenarios.any remark.place = run.scenarios.any remark.place := by
  have read (scenarios : List Scenario) :
      (scenarios.map Scenario.outline).any remark.place = scenarios.any remark.place := by
    have each (scenario : Scenario) :
        remark.place scenario.outline = remark.place scenario :=
      remark.place_congr (by simp [Scenario.outline, Step.outline, Function.comp_def])
    simp [List.any_map, Function.comp_def, each]
  calc later.scenarios.any remark.place
      = later.outlines.any remark.place := (read later.scenarios).symm
    _ = run.outlines.any remark.place := by rw [same]
    _ = run.scenarios.any remark.place := read run.scenarios

end Annotation

/-! ### Moves -/

namespace Move

variable (move : Move) (remark : Annotation) (run : Run)

theorem perform_outlines : (move.perform run).2.outlines = run.outlines := by
  cases move with
  | setStepResult step outcome => exact (run.setStepResult_tested step outcome).outlines
  | setScenarioResult scenario outcome => exact (run.setScenarioResult_tested scenario outcome).outlines
  | bulkSetResult scenarios outcome => exact (run.bulkSetResult_tested scenarios outcome).outlines
  | complete now => exact run.complete_outlines now
  | reset => exact run.reset_outlines

theorem perform_edited : move.perform (remark.edited run) =
    ((move.perform run).1, remark.edited (move.perform run).2) := by
  have takes : (remark.edited run).isMutable = run.isMutable := rfl
  cases move with
  | setStepResult step outcome =>
    have scenarios := remark.edit_modifyFirst (p := (·.hasStep step))
      (fun _ _ annotated => annotated.hasStep step) (·.marked_outline step outcome)
      (remark.change_marked · step outcome) run.scenarios
    simp only [perform, Run.setStepResult, takes, remark.hasStep_edited]
    split
    · rfl
    split
    · rw [← remark.edited_withScenarios, scenarios]
      rfl
    · rfl
  | setScenarioResult id outcome =>
    have scenarios := remark.edit_modifyFirst (p := (·.id = id))
      (fun _ _ annotated => by rw [annotated.id]) (·.asserted_outline outcome)
      (remark.change_asserted · outcome) run.scenarios
    simp only [perform, Run.setScenarioResult, takes, remark.hasScenario_edited]
    split
    · rfl
    split
    · rw [← remark.edited_withScenarios, scenarios]
      rfl
    · rfl
  | bulkSetResult ids outcome =>
    let give (scenario : Scenario) : Scenario :=
      if ids.contains scenario.id then scenario.asserted outcome else scenario
    have kept (scenario : Scenario) : (give scenario).outline = scenario.outline := by
      simp only [give]
      split
      · exact scenario.asserted_outline outcome
      · rfl
    have comm (scenario : Scenario) :
        remark.change (give scenario) = give (remark.change scenario) := by
      simp only [give, (remark.change_annotated scenario).id]
      split
      · exact remark.change_asserted scenario outcome
      · rfl
    have scenarios := remark.edit_map kept comm run.scenarios
    simp only [perform, Run.bulkSetResult, takes, remark.hasScenario_edited]
    split
    · rfl
    split
    · rfl
    · rw [← remark.edited_withScenarios, scenarios]
      rfl
  | complete now =>
    have status : (remark.edited run).status = run.status := rfl
    simp only [perform, Run.complete, status]
    split <;> rfl
  | reset =>
    have scenarios := remark.edit_map (·.asserted_outline .untested)
      (remark.change_asserted · .untested) run.scenarios
    have length : (remark.edit run.scenarios).length = run.scenarios.length :=
      length_modifyFirst _ _ _
    simp [perform, Run.reset, Annotation.edited, scenarios, length]

end Move

/-- Whatever the run, an annotation and a move come to the same in either order: what each of them answers
does not depend on whether the other came before it, and neither does the run that they leave. -/
theorem annotations_beside_moves (run : Run) (remark : Annotation) (move : Move) :
    (move.perform (remark.perform run).2).1 = (move.perform run).1 ∧
      (remark.perform (move.perform run).2).1 = (remark.perform run).1 ∧
      (move.perform (remark.perform run).2).2 = (remark.perform (move.perform run).2).2 := by
  have place := remark.any_place_congr (move.perform_outlines run)
  simp only [remark.perform_eq_edited, move.perform_edited, place, and_self]

end Testbook
