import Testbook.Environment
import Testbook.Json.Basic
import Testbook.Outcome
import Testbook.Target

/-! What can be asked of the program, with the name of each request and its arguments as the action
log keeps them. -/

set_option autoImplicit false

namespace Testbook

/-- A request that is carried out on the store. Where no environment is named, the one of the settings
is meant, or none. -/
inductive StoreRequest where
  | createProject (name : String) (description : Option String)
  | listProjects
  | showProject (project : String)
  | deleteProject (project : String)
  | exportProject (project : String) (output : Option String)
  | importProject (file : String)
  | uploadFeature (project file : String)
  | listFeatures (project : String)
  | showFeature (project feature : String)
  | startRun (project feature : String) (environment : Option Environment) (version : String)
  | openRun (project feature : String) (environment : Option Environment) (version : String)
  | listRuns (project : String) (feature : Option String) (environment : Option Environment)
  | showRun (project run : String) (status : Option Outcome)
  | markStep (project run step : String) (outcome : Outcome)
  | markScenario (project run scenario : String) (outcome : Outcome)
  | markScenarios (project run : String) (outcome : Outcome) (scenarios : List String)
  | note (project run : String) (target : Target) (text : String)
  | attach (project run : String) (target : Target) (file : String) (mime : Option String)
  | completeRun (project run : String)
  | resetRun (project run : String)
  | resetFeatureRuns (project feature : String)
  | resetAllRuns (project : String)
  | history (project feature : String) (environment : Option Environment)
  | compare (project feature : String) (environment : Option Environment) (before after : String)
  | render (project feature : String) (run : Option String)
  | systemInfo

inductive FolderRequest where
  | getSetting (key : String)
  | setSetting (key value : String)
  | listSettings
  | compactLog
  | recentActions (limit : Nat)

inductive Request where
  | store (request : StoreRequest)
  | folder (request : FolderRequest)

namespace StoreRequest

def name : StoreRequest → String
  | createProject .. => "project create"
  | listProjects => "project list"
  | showProject .. => "project show"
  | deleteProject .. => "project delete"
  | exportProject .. => "project export"
  | importProject .. => "project import"
  | uploadFeature .. => "feature upload"
  | listFeatures .. => "feature list"
  | showFeature .. => "feature show"
  | startRun .. => "run start"
  | openRun .. => "run open"
  | listRuns .. => "run list"
  | showRun .. => "run show"
  | markStep .. => "run step"
  | markScenario .. => "run scenario"
  | markScenarios .. => "run bulk"
  | note .. => "run note"
  | attach .. => "run attach"
  | completeRun .. => "run complete"
  | resetRun .. => "run reset"
  | resetFeatureRuns .. => "run reset-feature"
  | resetAllRuns .. => "run reset-all"
  | history .. => "report history"
  | compare .. => "report compare"
  | render .. => "docs"
  | systemInfo => "system info"

def textOrNull (s : Option String) : Json := Json.orNull (s.map .text)

def environmentOrNull (e : Option Environment) : Json := textOrNull (e.map (·.name))

def args : StoreRequest → List (String × Json)
  | createProject name description =>
    [("name", .text name), ("description", textOrNull description)]
  | listProjects => []
  | showProject project => [("project", .text project)]
  | deleteProject project => [("project", .text project)]
  | exportProject project output => [("project", .text project), ("output", textOrNull output)]
  | importProject file => [("file", .text file)]
  | uploadFeature project file => [("project", .text project), ("file", .text file)]
  | listFeatures project => [("project", .text project)]
  | showFeature project feature => [("project", .text project), ("feature", .text feature)]
  | startRun project feature environment version =>
    [("project", .text project), ("feature", .text feature),
      ("environment", environmentOrNull environment), ("version", .text version)]
  | openRun project feature environment version =>
    [("project", .text project), ("feature", .text feature),
      ("environment", environmentOrNull environment), ("version", .text version)]
  | listRuns project feature environment =>
    [("project", .text project), ("feature", textOrNull feature),
      ("environment", environmentOrNull environment)]
  | showRun project run status =>
    [("project", .text project), ("run", .text run), ("status", textOrNull (status.map (·.name)))]
  | markStep project run step outcome =>
    [("project", .text project), ("run", .text run), ("step", .text step),
      ("outcome", .text outcome.name)]
  | markScenario project run scenario outcome =>
    [("project", .text project), ("run", .text run), ("scenario", .text scenario),
      ("outcome", .text outcome.name)]
  | markScenarios project run outcome scenarios =>
    [("project", .text project), ("run", .text run), ("outcome", .text outcome.name),
      ("scenarios", .list (scenarios.map .text))]
  | note project run target text =>
    [("project", .text project), ("run", .text run), ("step", textOrNull target.step?),
      ("scenario", textOrNull target.scenario?), ("text", .text text)]
  | attach project run target file mime =>
    [("project", .text project), ("run", .text run), ("step", textOrNull target.step?),
      ("scenario", textOrNull target.scenario?), ("file", .text file), ("mime", textOrNull mime)]
  | completeRun project run => [("project", .text project), ("run", .text run)]
  | resetRun project run => [("project", .text project), ("run", .text run)]
  | resetFeatureRuns project feature => [("project", .text project), ("feature", .text feature)]
  | resetAllRuns project => [("project", .text project)]
  | history project feature environment =>
    [("project", .text project), ("feature", .text feature),
      ("environment", environmentOrNull environment)]
  | compare project feature environment before after =>
    [("project", .text project), ("feature", .text feature),
      ("environment", environmentOrNull environment), ("before", .text before),
      ("after", .text after)]
  | render project feature run =>
    [("project", .text project), ("feature", .text feature), ("run", textOrNull run)]
  | systemInfo => []

end StoreRequest

namespace FolderRequest

def name : FolderRequest → String
  | getSetting .. => "config get"
  | setSetting .. => "config set"
  | listSettings => "config list"
  | compactLog => "system compact"
  | recentActions .. => "system actions"

def args : FolderRequest → List (String × Json)
  | getSetting key => [("key", .text key)]
  | setSetting key value => [("key", .text key), ("value", .text value)]
  | listSettings => []
  | compactLog => []
  | recentActions limit => [("limit", .nat limit)]

end FolderRequest

namespace Request

def name : Request → String
  | store request => request.name
  | folder request => request.name

def args : Request → Json
  | store request => .sorted request.args
  | folder request => .sorted request.args

end Request

end Testbook
