import Testbook.Error
import Testbook.Project

/-! Comparing two runs scenario by scenario, and two versions by their newest completed runs. -/

set_option autoImplicit false

namespace Testbook.Report

inductive Change where
  | improved
  | regressed
  | newlyTested
  | untestedNow
  | changed
  deriving DecidableEq, Repr

namespace Change

def name : Change → String
  | improved => "improved"
  | regressed => "regressed"
  | newlyTested => "newly_tested"
  | untestedNow => "untested_now"
  | changed => "changed"

def label : Change → String
  | improved => "↗️ Improved"
  | regressed => "↘️ Regressed"
  | newlyTested => "🆕 Newly Tested"
  | untestedNow => "🔄 Untested Now"
  | changed => "🔄 Changed"

def between? (before after : Outcome) : Option Change :=
  if before = after then none
  else
    match before, after with
    | .failed, .passed => some improved
    | .passed, .failed => some regressed
    | .untested, _ => some newlyTested
    | _, .untested => some untestedNow
    | _, _ => some changed

end Change

structure Row where
  scenario : String
  name : String
  before : Outcome
  after : Outcome
  deriving DecidableEq, Repr

def Row.change? (row : Row) : Option Change := Change.between? row.before row.after

structure Comparison where
  beforeRun : String
  beforeVersion : String
  beforeSummary : RunSummary
  afterRun : String
  afterVersion : String
  afterSummary : RunSummary
  rows : List Row
  deriving DecidableEq, Repr

namespace Comparison

def changedRows (comparison : Comparison) : List Row := comparison.rows.filter (·.change?.isSome)

/-- A row for each scenario of the run before; one that the run after lacks counts as untested
there. -/
def ofRuns (before after : Run) : Comparison where
  beforeRun := before.id
  beforeVersion := before.version
  beforeSummary := before.summary
  afterRun := after.id
  afterVersion := after.version
  afterSummary := after.summary
  rows := before.scenarios.map fun scenario =>
    { scenario := scenario.id
      name := scenario.name
      before := scenario.status
      after := (after.findScenario? scenario.id).elim .untested (·.status) }

/-- The newest run; of those created at the same time the last stored. -/
def newest? : List Run → Option Run
  | [] => none
  | run :: runs =>
    some (runs.foldl (fun best r => if best.createdAt.notAfter r.createdAt then r else best) run)

def completedRun? (project : Project) (feature : String) (environment : Environment)
    (version : String) : Option Run :=
  newest? <| (project.runsOf feature).filter fun run =>
    run.environment = environment && run.status = .completed && run.version = version

def ofVersions (project : Project) (feature : String) (environment : Environment)
    (before after : String) : Except Error Comparison :=
  if (project.findFeature? feature).isNone then .error (.missing (.feature feature))
  else
    match completedRun? project feature environment before,
        completedRun? project feature environment after with
    | none, _ => .error (.missing (.completedRun before environment))
    | _, none => .error (.missing (.completedRun after environment))
    | some b, some a => .ok (ofRuns b a)

end Comparison

end Testbook.Report
