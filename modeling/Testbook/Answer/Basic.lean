import Testbook.Action
import Testbook.Build
import Testbook.Project.Features
import Testbook.Report.Comparison
import Testbook.Run.Status
import Testbook.Settings.Resolved
import Testbook.Store.Log
import Testbook.Target

/-! What the program answers to a request that succeeds. -/

set_option autoImplicit false

namespace Testbook

structure SystemInfo where
  build : Build
  dataFolder : String
  settingsFolder : String
  backend : BackendKind
  backendSource : SettingSource
  location : String
  projects : Nat

inductive Answer where
  | project (project : Project)
  | projects (projects : List Project)
  | projectInFull (project : Project)
  | projectDeleted (project : String)
  /-- A document to be given out as it is. -/
  | document (text : String)
  | exported (project path : String) (bytes : Nat)
  | uploaded (upload : Upload) (feature : Feature) (file : String)
  | features (features : List Feature)
  | feature (feature : Feature)
  /-- A run under the name of its feature, with all scenarios or those of one status. -/
  | run (feature : String) (run : Run) (shown : Option Outcome)
  | runs (runs : List Run)
  /-- Whether the outcome was recorded, and the run as it then is. -/
  | recorded (applied : Bool) (run : Run) (target : String) (outcome : Outcome)
  | noted (run : String) (target : Target) (note : Option String)
  | attached (run : String) (target : Target) (attachment : Attachment) (mime : String) (bytes : Nat)
  /-- The run as it is completed, if there is one. -/
  | completed (run : String) (found : Option Run)
  /-- Runs of a feature that were reset, or all runs of a project that were deleted. -/
  | runsReset (project : String) (feature : Option String) (count : Nat)
  | history (feature : Feature) (runs : List Run)
  | comparison (feature : String) (environment : Environment) (comparison : Report.Comparison)
  | documentation (feature : String) (run : Option String) (markdown : String)
  | setting (key : String) (value : Option String)
  | settingStored (key value path : String)
  | settings (path : String) (settings : ResolvedSettings)
  | info (info : SystemInfo)
  | compacted (path : String) (lines : Log.Shrinkage)
  | actions (actions : List Action)

def Run.showing (run : Run) (shown : Option Outcome) : Run :=
  { run with scenarios := run.withStatus shown }

end Testbook
