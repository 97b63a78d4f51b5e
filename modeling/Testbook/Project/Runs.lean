import Testbook.Project
import Testbook.Run.Lifecycle

/-! The runs of a project. For one feature, environment and version at most one run should be in
progress: opening a version takes up the run in progress, starting one refuses a known version, and a
reset stops where it would reopen a run beside one in progress. -/

set_option autoImplicit false

namespace Testbook

/-- A version as it is stored: trimmed, and not blank. -/
def versionOf (text : String) : Except Error String :=
  match Text.trimmed? text with
  | some version => .ok version
  | none => .error (.refused .emptyVersion)

def openSibling? (runs : List Run) (run : Run) : Option Run :=
  runs.find? fun r =>
    r.id ≠ run.id && r.isFor run.featureId run.environment run.version && r.status = .inProgress

/-- Reset the runs of a feature one after another, but none that has an open sibling by then. The runs
in `done` have had their turn. The number is that of the runs reset. -/
def resetEach (feature : String) (done : List Run) : List Run → List Run × Nat
  | [] => (done, 0)
  | run :: rest =>
    if run.featureId = feature ∧ (openSibling? (done ++ run :: rest) run).isNone then
      let (runs, count) := resetEach feature (done ++ [run.reset]) rest
      (runs, count + 1)
    else resetEach feature (done ++ [run]) rest

namespace Project

def getFeature (project : Project) (feature : String) : Except Error Feature :=
  match project.findFeature? feature with
  | some found => .ok found
  | none => .error (.missing (.feature feature))

def getRun (project : Project) (run : String) : Except Error Run :=
  match project.findRun? run with
  | some found => .ok found
  | none => .error (.missing (.run run))

def openRun? (project : Project) (feature : String) (environment : Environment) (version : String) :
    Option Run :=
  project.runs.find? fun run => run.isFor feature environment version && run.status = .inProgress

def hasVersion (project : Project) (feature : String) (environment : Environment)
    (version : String) : Bool :=
  project.runs.any (·.isFor feature environment version)

def addRun (project : Project) (run : Run) : Project :=
  { project with runs := project.runs ++ [run] }

/-- Put a run in the place of the one with its id, else at the end. -/
def updateRun (project : Project) (run : Run) : Project :=
  { project with runs := replaceOrAppend (·.id = run.id) run project.runs }

def replaceRun (project : Project) (run : Run) : Project :=
  { project with runs := modifyFirst (·.id = run.id) (fun _ => run) project.runs }

/-- Change one run by a call on it. What a call that fails has left is dropped. -/
def mutateRun {α : Type} (project : Project) (run : String) (f : Run → Except Error α × Run) :
    Except Error ((α × Run) × Project) := do
  let (answer, changed) := f (← project.getRun run)
  let answer ← answer
  .ok ((answer, changed), project.replaceRun changed)

/-- Reset a run, unless that would leave two in progress. -/
def resetRun (project : Project) (run : String) : Except Error (Run × Project) := do
  let found ← project.getRun run
  match openSibling? project.runs found with
  | some sibling => .error (.clash (.runOpen sibling.id found.environment found.version))
  | none => .ok (found.reset, project.replaceRun found.reset)

/-- Complete a run. A missing run is no error. The project is given only if it changes. -/
def completeRun (project : Project) (run : String) (now : Instant) : Option Run × Option Project :=
  match project.findRun? run with
  | none => (none, none)
  | some found =>
    let (changes, completed) := found.complete now
    (some completed, if changes then some (project.replaceRun completed) else none)

def resetFeatureRuns (project : Project) (feature : String) : Except Error (Nat × Project) := do
  let _ ← project.getFeature feature
  let (runs, count) := resetEach feature [] project.runs
  .ok (count, { project with runs })

def resetAllRuns (project : Project) : Nat × Project :=
  (project.runs.length, { project with runs := [] })

/-- Runs of a feature and of an environment, or of all; the newest first, and those created at the
same time in the order in which they are stored. -/
def listRuns (project : Project) (feature : Option String) (environment : Option Environment) :
    List Run :=
  (project.runs.filter fun run =>
      feature.all (run.featureId = ·) && environment.all (run.environment = ·)).mergeSort
    fun a b => b.createdAt.notAfter a.createdAt

end Project

end Testbook
