import Testbook.Store.Features

/-! Runs in the store. -/

set_option autoImplicit false

namespace Testbook.Store

variable {α : Type}

/-- Take up the run in progress of a version, or begin one. A run in progress is answered as it is. -/
def openRun (store : Store) (project feature : String) (environment : Environment) (version : String)
    (now : Instant) : Except Error Run × Store :=
  match versionOf version, store.load project with
  | .error e, _ => (.error e, store)
  | _, .error e => (.error e, store)
  | .ok version, .ok p =>
    match p.openRun? feature environment version with
    | some run => (.ok run, store)
    | none =>
      match p.getFeature feature with
      | .error e => (.error e, store)
      | .ok template =>
        let (id, store) := store.takeId
        let run := Run.snapshot template environment version id now
        store.save (p.addRun run) run

def startRun (store : Store) (project feature : String) (environment : Environment) (version : String)
    (now : Instant) : Except Error Run × Store :=
  match versionOf version, store.load project with
  | .error e, _ => (.error e, store)
  | _, .error e => (.error e, store)
  | .ok version, .ok p =>
    if p.hasVersion feature environment version then
      (.error (.clash (.versionTaken version environment)), store)
    else store.openRun project feature environment version now

def getRun (store : Store) (project run : String) : Except Error Run := do
  (← store.load project).getRun run

def listRuns (store : Store) (project : String) (feature : Option String)
    (environment : Option Environment) : Except Error (List Run) :=
  (store.load project).map (·.listRuns feature environment)

def updateRun (store : Store) (project : String) (run : Run) : Except Error Unit × Store :=
  store.rewrite project fun p => .ok ((), p.updateRun run)

/-- Change one run. Nothing is stored if the call on it fails. -/
def mutateRun (store : Store) (project run : String) (f : Run → Except Error α × Run) :
    Except Error (α × Run) × Store :=
  store.rewrite project fun p => p.mutateRun run f

def annotate (store : Store) (project run : String) (f : Run → Except Error Unit × Run) :
    Except Error Run × Store :=
  store.rewrite project fun p =>
    (p.mutateRun run f).map fun (answer, changed) => (answer.2, changed)

/-! ### Results

The first part of an answer says whether the run still took results. -/

def setStepResult (store : Store) (project run step : String) (outcome : Outcome) :
    Except Error (Bool × Run) × Store :=
  store.mutateRun project run (·.setStepResult step outcome)

def setScenarioResult (store : Store) (project run scenario : String) (outcome : Outcome) :
    Except Error (Bool × Run) × Store :=
  store.mutateRun project run (·.setScenarioResult scenario outcome)

def bulkSetResult (store : Store) (project run : String) (scenarios : List String)
    (outcome : Outcome) : Except Error (Bool × Run) × Store :=
  store.mutateRun project run (·.bulkSetResult scenarios outcome)

/-! ### Notes and attachments -/

def setStepNote (store : Store) (project run step text : String) : Except Error Run × Store :=
  store.annotate project run (·.setStepNote step text)

def setScenarioNote (store : Store) (project run scenario text : String) : Except Error Run × Store :=
  store.annotate project run (·.setScenarioNote scenario text)

def addStepAttachment (store : Store) (project run step : String) (attachment : Attachment) :
    Except Error Run × Store :=
  store.annotate project run (·.addStepAttachment step attachment)

def addScenarioAttachment (store : Store) (project run scenario : String) (attachment : Attachment) :
    Except Error Run × Store :=
  store.annotate project run (·.addScenarioAttachment scenario attachment)

/-! ### Completion and reset -/

def resetRun (store : Store) (project run : String) : Except Error Run × Store :=
  store.rewrite project (·.resetRun run)

/-- Complete a run. The answer is the run as it is then stored, if there is one. -/
def completeRun (store : Store) (project run : String) (now : Instant) :
    Except Error (Option Run) × Store :=
  store.edit project fun p => .ok (p.completeRun run now)

def resetFeatureRuns (store : Store) (project feature : String) : Except Error Nat × Store :=
  store.rewrite project (·.resetFeatureRuns feature)

def resetAllRuns (store : Store) (project : String) : Except Error Nat × Store :=
  store.rewrite project fun p => .ok p.resetAllRuns

end Testbook.Store
