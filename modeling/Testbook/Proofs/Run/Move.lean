import Testbook.Proofs.First
import Testbook.Proofs.Run.Outline

/-! The calls on a run as data. A move decides on results or on the life of the run, an annotation writes
a note or adds an attachment. A reset forgets all moves that were made before it. -/

set_option autoImplicit false

namespace Testbook

inductive Move where
  | setStepResult (step : String) (outcome : Outcome)
  | setScenarioResult (scenario : String) (outcome : Outcome)
  | bulkSetResult (scenarios : List String) (outcome : Outcome)
  | complete (now : Instant)
  | reset

inductive Annotation where
  | setStepNote (step text : String)
  | setScenarioNote (scenario text : String)
  | addStepAttachment (step : String) (attachment : Attachment)
  | addScenarioAttachment (scenario : String) (attachment : Attachment)

namespace Move

def Answer : Move → Type
  | reset => Unit
  | _ => Bool

def perform : (move : Move) → Run → Except Error move.Answer × Run
  | setStepResult step outcome, run => run.setStepResult step outcome
  | setScenarioResult scenario outcome, run => run.setScenarioResult scenario outcome
  | bulkSetResult scenarios outcome, run => run.bulkSetResult scenarios outcome
  | complete now, run => (.ok (run.complete now).1, (run.complete now).2)
  | reset, run => (.ok (), run.reset)

end Move

def Annotation.perform : Annotation → Run → Except Error Unit × Run
  | setStepNote step text, run => run.setStepNote step text
  | setScenarioNote scenario text, run => run.setScenarioNote scenario text
  | addStepAttachment step attachment, run => run.addStepAttachment step attachment
  | addScenarioAttachment scenario attachment, run => run.addScenarioAttachment scenario attachment

namespace Run

variable {run : Run}

def afterMoves (run : Run) (moves : List Move) : Run :=
  moves.foldl (fun run move => (move.perform run).2) run

@[simp] theorem afterMoves_cons (run : Run) (move : Move) (moves : List Move) :
    run.afterMoves (move :: moves) = (move.perform run).2.afterMoves moves := rfl

/-! ### Reset -/

/-- A run that has other scenarios is reset to the same, if these are asserted the same. -/
theorem reset_withScenarios {changed : List Scenario}
    (same : changed.map (·.asserted .untested) = run.scenarios.map (·.asserted .untested)) :
    (run.withScenarios changed).reset = run.reset := by
  have length : changed.length = run.scenarios.length := by simpa using congrArg List.length same
  simp [reset, withScenarios, same, length]

end Run

def Step.bearing (step : Step) (outcome : Outcome) : Step := { step with result := outcome }

theorem Scenario.asserted_asserted (scenario : Scenario) (first second : Outcome) :
    (scenario.asserted first).asserted second = scenario.asserted second := by
  simp [asserted]

theorem Scenario.marked_asserted (scenario : Scenario) (step : String) (marked outcome : Outcome) :
    (scenario.marked step marked).asserted outcome = scenario.asserted outcome := by
  have steps := map_modifyFirst (g := (Step.bearing · outcome)) (f := (Step.bearing · marked))
    (fun _ => rfl) (·.id = step) scenario.steps
  exact congrArg (fun steps => { scenario with status := outcome, steps }) steps

theorem Scenario.Tested.asserted_eq {scenario later : Scenario} (tested : scenario.Tested later)
    (outcome : Outcome) : later.asserted outcome = scenario.asserted outcome := by
  cases tested with
  | kept => rfl
  | marked step before => exact scenario.marked_asserted step before outcome
  | asserted before => exact scenario.asserted_asserted before outcome

namespace Run

variable {run changed : Run}

theorem Tested.reset (tested : run.Tested changed) : changed.reset = run.reset := by
  cases tested with
  | kept => rfl
  | counted _ each =>
    exact reset_withScenarios
      (map_eq_of_forall₂ (fun _ _ same => Scenario.Tested.asserted_eq same .untested) each)

end Run

/-- No move leaves anything that a reset does not take back. -/
theorem Move.perform_reset (move : Move) (run : Run) : (move.perform run).2.reset = run.reset := by
  cases move with
  | setStepResult step outcome => exact (run.setStepResult_tested step outcome).reset
  | setScenarioResult scenario outcome => exact (run.setScenarioResult_tested scenario outcome).reset
  | bulkSetResult scenarios outcome => exact (run.bulkSetResult_tested scenarios outcome).reset
  | complete now =>
    simp only [perform, Run.complete]
    split <;> rfl
  | reset => simp [perform, Run.reset, Scenario.asserted_asserted]

theorem Run.reset_afterMoves (run : Run) (moves : List Move) :
    (run.afterMoves moves).reset = run.reset := by
  induction moves generalizing run with
  | nil => rfl
  | cons move moves ih => rw [afterMoves_cons, ih, move.perform_reset]

end Testbook
