import Testbook.Environment
import Testbook.Scenario

/-! A run: one execution of a feature's scenarios by hand, against an environment and a version. It
holds its own copy of the scenarios. -/

set_option autoImplicit false

namespace Testbook

inductive RunStatus where
  | inProgress
  | completed
  /-- Read from documents; nothing here pauses a run. -/
  | paused
  deriving DecidableEq, Repr

namespace RunStatus

def all : List RunStatus := [.inProgress, .completed, .paused]

def name : RunStatus → String
  | inProgress => "in_progress"
  | completed => "completed"
  | paused => "paused"

def ofName? (s : String) : Option RunStatus := all.find? (·.name = s)

end RunStatus

structure RunSummary where
  total : Nat := 0
  passed : Nat := 0
  failed : Nat := 0
  skipped : Nat := 0
  untested : Nat := 0
  deriving DecidableEq, Repr

namespace RunSummary

def allUntested (total : Nat) : RunSummary := { total, untested := total }

def count (summary : RunSummary) : Outcome → Nat
  | .passed => summary.passed
  | .failed => summary.failed
  | .skipped => summary.skipped
  | .untested => summary.untested

end RunSummary

structure Run where
  id : String
  featureId : String
  createdAt : Instant
  environment : Environment
  version : String
  scenarios : List Scenario := []
  summary : RunSummary := {}
  status : RunStatus := .inProgress
  completedAt : Option Instant := none
  locked : Bool := false
  deriving DecidableEq

namespace Run

def isMutable (run : Run) : Bool := !run.locked && run.status ≠ .completed

/-- Whether the run executes this feature in this environment for this version. -/
def isFor (run : Run) (feature : String) (environment : Environment) (version : String) : Bool :=
  run.featureId = feature && run.environment = environment && run.version = version

def findScenario? (run : Run) (scenario : String) : Option Scenario :=
  run.scenarios.find? (·.id = scenario)

def findStep? (run : Run) (step : String) : Option Step :=
  (run.scenarios.flatMap (·.steps)).find? (·.id = step)

end Run

end Testbook
