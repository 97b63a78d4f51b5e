import Testbook.Error
import Testbook.Feature
import Testbook.First
import Testbook.Run.Status
import Testbook.Text.Blank

/-! The life of a run: it begins as an untested copy of its feature, takes results until it is
completed, and can be reset to where it began. A completed run keeps its results, but still takes
notes and attachments.

A call on a run gives what it answers and the run that it leaves, and it leaves one even if it fails. -/

set_option autoImplicit false

namespace Testbook

/-- The scenario as if nothing had been tested. Notes and attachments stay. -/
def Scenario.cleared (scenario : Scenario) : Scenario :=
  { scenario with
    status := .untested
    steps := scenario.steps.map fun step => { step with result := .untested } }

def Scenario.asserted (scenario : Scenario) (outcome : Outcome) : Scenario :=
  { scenario with
    status := outcome
    steps := scenario.steps.map fun step => { step with result := outcome } }

def Scenario.modifyStep (scenario : Scenario) (step : String) (f : Step → Step) : Scenario :=
  { scenario with steps := modifyFirst (·.id = step) f scenario.steps }

/-- Change the first step with this id in the row of all steps of the scenarios. -/
def modifyInRow? (step : String) (f : Step → Step) : List Scenario → Option (List Scenario)
  | [] => none
  | scenario :: rest =>
    match modifyFirst? (·.id = step) f scenario.steps with
    | some steps => some ({ scenario with steps } :: rest)
    | none => (modifyInRow? step f rest).map (scenario :: ·)

/-- Record a step's result, and take the scenario's status from its steps. -/
def Scenario.marked (scenario : Scenario) (step : String) (outcome : Outcome) : Scenario :=
  let scenario := scenario.modifyStep step fun s => { s with result := outcome }
  { scenario with status := scenario.derivedStatus }

/-- The text of a note; nothing when it is blank. -/
def noteText? (text : String) : Option String := Text.trimmed? text

namespace Run

def snapshot (feature : Feature) (environment : Environment) (version id : String) (now : Instant) :
    Run where
  id
  featureId := feature.id
  createdAt := now
  environment
  version
  scenarios := feature.scenarios.map Scenario.cleared
  summary := .allUntested feature.scenarios.length

def withScenarios (run : Run) (scenarios : List Scenario) : Run :=
  { run with scenarios, summary := .ofScenarios scenarios }

def hasStep (run : Run) (step : String) : Bool := run.scenarios.any (·.hasStep step)

def hasScenario (run : Run) (scenario : String) : Bool := run.scenarios.any (·.id = scenario)

/-- Record a step's result. On a run that takes no results nothing happens; the answer says whether
something did. -/
def setStepResult (run : Run) (step : String) (outcome : Outcome) : Except Error Bool × Run :=
  if !run.isMutable then (.ok false, run)
  else if run.hasStep step then
    (.ok true, run.withScenarios (modifyFirst (·.hasStep step) (·.marked step outcome) run.scenarios))
  else (.error (.missing (.step step)), run)

/-- Assert a scenario's outcome, whatever its steps said. -/
def setScenarioResult (run : Run) (scenario : String) (outcome : Outcome) : Except Error Bool × Run :=
  if !run.isMutable then (.ok false, run)
  else if run.hasScenario scenario then
    (.ok true, run.withScenarios (modifyFirst (·.id = scenario) (·.asserted outcome) run.scenarios))
  else (.error (.missing (.scenario scenario)), run)

/-- Assert one outcome for several scenarios. All of them are looked for before any is changed. -/
def bulkSetResult (run : Run) (scenarios : List String) (outcome : Outcome) :
    Except Error Bool × Run :=
  if !run.isMutable then (.ok false, run)
  else
    match scenarios.find? (!run.hasScenario ·) with
    | some absent => (.error (.missing (.scenario absent)), run)
    | none =>
      (.ok true, run.withScenarios <| run.scenarios.map fun s =>
        if scenarios.contains s.id then s.asserted outcome else s)

/-- Forget every result, and take results again. -/
def reset (run : Run) : Run :=
  { run with
    scenarios := run.scenarios.map (·.asserted .untested)
    summary := .allUntested run.scenarios.length
    status := .inProgress
    completedAt := none
    locked := false }

def complete (run : Run) (now : Instant) : Bool × Run :=
  if run.status = .completed then (false, run)
  else (true, { run with status := .completed, completedAt := some now, locked := true })

def modifyStep (run : Run) (step : String) (f : Step → Step) : Except Error Unit × Run :=
  match modifyInRow? step f run.scenarios with
  | some scenarios => (.ok (), { run with scenarios })
  | none => (.error (.missing (.step step)), run)

def modifyScenario (run : Run) (scenario : String) (f : Scenario → Scenario) :
    Except Error Unit × Run :=
  if run.hasScenario scenario then
    (.ok (), { run with scenarios := modifyFirst (·.id = scenario) f run.scenarios })
  else (.error (.missing (.scenario scenario)), run)

/-- Write a step's note; a blank text takes it away. -/
def setStepNote (run : Run) (step text : String) : Except Error Unit × Run :=
  run.modifyStep step fun s => { s with note := noteText? text }

def setScenarioNote (run : Run) (scenario text : String) : Except Error Unit × Run :=
  run.modifyScenario scenario fun s => { s with note := noteText? text }

def addStepAttachment (run : Run) (step : String) (attachment : Attachment) :
    Except Error Unit × Run :=
  run.modifyStep step fun s => { s with attachments := s.attachments ++ [attachment] }

def addScenarioAttachment (run : Run) (scenario : String) (attachment : Attachment) :
    Except Error Unit × Run :=
  run.modifyScenario scenario fun s => { s with attachments := s.attachments ++ [attachment] }

end Run

end Testbook
