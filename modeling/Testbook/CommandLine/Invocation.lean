import Testbook.CommandLine.Reader
import Testbook.Request.Basic

/-! What a command line asks for: a request, and the options that hold for every request. -/

set_option autoImplicit false

namespace Testbook

structure Invocation where
  /-- Whether plain text is asked for. -/
  human : Bool
  dataFolder : Option String
  backend : Option BackendKind
  request : Request

namespace CommandLine

def Values.one? (values : Values) (name : String) : Option String :=
  (values.lookup name).bind (·.head?)

def Values.many (values : Values) (name : String) : List String := (values.lookup name).getD []

def Values.environment? (values : Values) : Option Environment :=
  (values.one? "environment").bind Environment.ofName?

def Values.outcome? (values : Values) (name : String) : Option Outcome :=
  (values.one? name).bind Outcome.ofName?

def Values.target? (values : Values) : Option Target :=
  (Target.ofOptions (values.one? "step") (values.one? "scenario")).toOption

def actionLimit : Nat := 20

def storeRequest? (v : Values) : List String → Option StoreRequest
  | ["project", "create"] => do some (.createProject (← v.one? "name") (v.one? "description"))
  | ["project", "list"] => some .listProjects
  | ["project", "show"] => do some (.showProject (← v.one? "project"))
  | ["project", "delete"] => do some (.deleteProject (← v.one? "project"))
  | ["project", "export"] => do some (.exportProject (← v.one? "project") (v.one? "output"))
  | ["project", "import"] => do some (.importProject (← v.one? "file"))
  | ["feature", "upload"] => do some (.uploadFeature (← v.one? "project") (← v.one? "file"))
  | ["feature", "list"] => do some (.listFeatures (← v.one? "project"))
  | ["feature", "show"] => do some (.showFeature (← v.one? "project") (← v.one? "feature"))
  | ["run", "start"] => do
    some (.startRun (← v.one? "project") (← v.one? "feature") v.environment? (← v.one? "version"))
  | ["run", "open"] => do
    some (.openRun (← v.one? "project") (← v.one? "feature") v.environment? (← v.one? "version"))
  | ["run", "list"] => do
    some (.listRuns (← v.one? "project") (v.one? "feature") v.environment?)
  | ["run", "show"] => do
    some (.showRun (← v.one? "project") (← v.one? "run") (v.outcome? "status"))
  | ["run", "step"] => do
    some (.markStep (← v.one? "project") (← v.one? "run") (← v.one? "step") (← v.outcome? "outcome"))
  | ["run", "scenario"] => do
    some (.markScenario (← v.one? "project") (← v.one? "run") (← v.one? "scenario")
      (← v.outcome? "outcome"))
  | ["run", "bulk"] => do
    some (.markScenarios (← v.one? "project") (← v.one? "run") (← v.outcome? "outcome")
      (v.many "scenarios"))
  | ["run", "note"] => do
    some (.note (← v.one? "project") (← v.one? "run") (← v.target?) (← v.one? "text"))
  | ["run", "attach"] => do
    some (.attach (← v.one? "project") (← v.one? "run") (← v.target?) (← v.one? "file")
      (v.one? "mime"))
  | ["run", "complete"] => do some (.completeRun (← v.one? "project") (← v.one? "run"))
  | ["run", "reset"] => do some (.resetRun (← v.one? "project") (← v.one? "run"))
  | ["run", "reset-feature"] => do
    some (.resetFeatureRuns (← v.one? "project") (← v.one? "feature"))
  | ["run", "reset-all"] => do some (.resetAllRuns (← v.one? "project"))
  | ["report", "history"] => do
    some (.history (← v.one? "project") (← v.one? "feature") v.environment?)
  | ["report", "compare"] => do
    some (.compare (← v.one? "project") (← v.one? "feature") v.environment? (← v.one? "before")
      (← v.one? "after"))
  | ["docs"] => do some (.render (← v.one? "project") (← v.one? "feature") (v.one? "run"))
  | ["system", "info"] => some .systemInfo
  | _ => none

def folderRequest? (v : Values) : List String → Option FolderRequest
  | ["config", "get"] => do some (.getSetting (← v.one? "key"))
  | ["config", "set"] => do some (.setSetting (← v.one? "key") (← v.one? "value"))
  | ["config", "list"] => some .listSettings
  | ["system", "compact"] => some .compactLog
  | ["system", "actions"] =>
    some (.recentActions (((v.one? "limit").bind readNumber?).getD actionLimit))
  | _ => none

/-- The value of an option that every command takes: the one given farthest down. -/
def Given.shared? (given : Given) (name : String) : Option String :=
  given.levels.reverse.findSome? (·.one? name)

def Given.invocation? (given : Given) (env : Variables) : Option Invocation := do
  let values := (given.levels.getLast?).getD []
  let request ←
    ((storeRequest? values given.path).map Request.store).or
      ((folderRequest? values given.path).map Request.folder)
  some
    { human := given.levels.any fun level => (level.lookup "human").isSome
      dataFolder := (given.shared? "data-dir").or (env.get? dataFolderVariable)
      backend := (given.shared? "backend").bind BackendKind.ofName?
      request }

end CommandLine

def Invocation.ofWords (env : Variables) (words : List String) :
    Except CommandLine.Fault Invocation := do
  match (← CommandLine.read env words).invocation? env with
  | some invocation => .ok invocation
  | none => .error .missingValue

end Testbook
