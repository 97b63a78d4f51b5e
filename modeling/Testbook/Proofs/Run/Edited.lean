import Testbook.Proofs.Operation
import Testbook.Proofs.Run.Status

/-! What the operations on results, notes and attachments make of a run. Either it is annotated only, or
it took results and was counted anew. -/

set_option autoImplicit false

namespace Testbook

inductive Scenario.Tested (scenario : Scenario) : Scenario → Prop where
  | kept : Tested scenario scenario
  | marked (step : String) (outcome : Outcome) : Tested scenario (scenario.marked step outcome)
  | asserted (outcome : Outcome) : Tested scenario (scenario.asserted outcome)

/-- What recording results makes of a run: it is as it was, or takes results and is counted anew. -/
inductive Run.Tested (run : Run) : Run → Prop where
  | kept : Tested run run
  | counted {scenarios : List Scenario} (takes : run.isMutable = true)
      (each : List.Forall₂ Scenario.Tested run.scenarios scenarios) :
      Tested run (run.withScenarios scenarios)

-- A scenario that took a result is current on its own, whatever it was before; the others are as they
-- were. So a run with repeated ids is no special case.
inductive Run.Edited (run : Run) : Run → Prop where
  | annotated {later : Run} (annotated : run.Annotated later) : Edited run later
  | marked {scenarios : List Scenario} (takes : run.isMutable = true)
      (length : scenarios.length = run.scenarios.length)
      (each : ∀ scenario ∈ scenarios, scenario ∈ run.scenarios ∨ scenario.Current) :
      Edited run (run.withScenarios scenarios)

theorem Scenario.Tested.same_or_current {scenario later : Scenario} (tested : scenario.Tested later) :
    later = scenario ∨ later.Current := by
  cases tested with
  | kept => exact Or.inl rfl
  | marked step outcome => exact Or.inr (scenario.marked_current step outcome)
  | asserted outcome => exact Or.inr (scenario.asserted_current outcome)

namespace Run

variable {run changed : Run}

/-! ### Results -/

theorem setStepResult_tested (run : Run) (step : String) (outcome : Outcome) :
    run.Tested (run.setStepResult step outcome).2 := by
  unfold setStepResult
  split
  · exact .kept
  rename_i takes
  split
  · exact .counted (by simpa using takes)
      (forall₂_modifyFirst (fun _ => .kept) (fun _ => .marked step outcome) _)
  · exact .kept

theorem setScenarioResult_tested (run : Run) (scenario : String) (outcome : Outcome) :
    run.Tested (run.setScenarioResult scenario outcome).2 := by
  unfold setScenarioResult
  split
  · exact .kept
  rename_i takes
  split
  · exact .counted (by simpa using takes)
      (forall₂_modifyFirst (fun _ => .kept) (fun _ => .asserted outcome) _)
  · exact .kept

theorem bulkSetResult_tested (run : Run) (scenarios : List String) (outcome : Outcome) :
    run.Tested (run.bulkSetResult scenarios outcome).2 := by
  unfold bulkSetResult
  split
  · exact .kept
  rename_i takes
  split
  · exact .kept
  · refine .counted (by simpa using takes) ?_
    refine List.forall₂_map_right_iff.mpr (List.forall₂_same.mpr ?_)
    intro scenario _
    split
    · exact .asserted outcome
    · exact .kept

theorem Tested.edited (tested : run.Tested changed) : run.Edited changed := by
  cases tested with
  | kept => exact .annotated (.refl run)
  | counted takes each =>
    refine .marked takes each.length_eq.symm ?_
    intro scenario member
    obtain ⟨stood, before, tested⟩ := exists_of_mem_right each member
    rcases tested.same_or_current with rfl | current
    · exact Or.inl before
    · exact Or.inr current

/-- Whether it was annotated or marked, a run is the same one in the same state. -/
structure SameFrame (run later : Run) : Prop where
  id : later.id = run.id
  featureId : later.featureId = run.featureId
  environment : later.environment = run.environment
  version : later.version = run.version
  status : later.status = run.status
  completedAt : later.completedAt = run.completedAt
  locked : later.locked = run.locked

theorem Edited.sameFrame (edited : run.Edited changed) : run.SameFrame changed := by
  cases edited with
  | annotated same =>
    exact ⟨same.id, same.featureId, same.environment, same.version, same.status, same.completedAt,
      same.locked⟩
  | marked => exact ⟨rfl, rfl, rfl, rfl, rfl, rfl, rfl⟩

theorem Edited.current (edited : run.Edited changed) (current : run.Current) : changed.Current := by
  cases edited with
  | annotated same => exact same.current current
  | marked _ _ each =>
    refine ⟨rfl, ?_⟩
    intro scenario member
    rcases each scenario member with stood | current'
    · exact current.scenarios scenario stood
    · exact current'

theorem Edited.annotated_of_not_mutable (edited : run.Edited changed)
    (closed : run.isMutable = false) : run.Annotated changed := by
  cases edited with
  | annotated same => exact same
  | marked takes => exact absurd takes (by simp [closed])

/-! ### Completion -/

theorem complete_eq {run : Run} (unfinished : run.status ≠ .completed) (now : Instant) :
    run.complete now =
      (true, { run with status := .completed, completedAt := some now, locked := true }) := by
  rw [complete, if_neg unfinished]

end Run

/-- The store's own operations record results on a run, or annotate it. -/
theorem Operation.tested_or_annotated {op : Operation} (own : op.IsOwn) {project id : String}
    {f : Run → Except Error Run} (edits : op.edit? = some (project, id, f)) {run changed : Run}
    (result : f run = .ok changed) : run.Tested changed ∨ run.Annotated changed := by
  cases op with
  | mutateRun => exact own.elim
  | setStepResult _ _ step outcome =>
    cases edits
    exact Or.inl (Run.left_of_kept result ▸ run.setStepResult_tested step outcome)
  | setScenarioResult _ _ scenario outcome =>
    cases edits
    exact Or.inl (Run.left_of_kept result ▸ run.setScenarioResult_tested scenario outcome)
  | bulkSetResult _ _ scenarios outcome =>
    cases edits
    exact Or.inl (Run.left_of_kept result ▸ run.bulkSetResult_tested scenarios outcome)
  | setStepNote _ _ step text =>
    cases edits
    exact Or.inr (Run.left_of_kept result ▸ run.setStepNote_annotated step text)
  | setScenarioNote _ _ scenario text =>
    cases edits
    exact Or.inr (Run.left_of_kept result ▸ run.setScenarioNote_annotated scenario text)
  | addStepAttachment _ _ step attachment =>
    cases edits
    exact Or.inr (Run.left_of_kept result ▸ run.addStepAttachment_annotated step attachment)
  | addScenarioAttachment _ _ scenario attachment =>
    cases edits
    exact Or.inr (Run.left_of_kept result ▸ run.addScenarioAttachment_annotated scenario attachment)
  | _ => cases edits

theorem Operation.edited {op : Operation} (own : op.IsOwn) {project id : String}
    {f : Run → Except Error Run} (edits : op.edit? = some (project, id, f)) {run changed : Run}
    (result : f run = .ok changed) : run.Edited changed := by
  rcases Operation.tested_or_annotated own edits result with tested | annotated
  · exact tested.edited
  · exact .annotated annotated

end Testbook
