import Testbook.BackendKind
import Testbook.Environment

/-! Why something cannot be done, and how that is said. A cause carries what its wording names; the
wording is in one function for each kind of cause. -/

set_option autoImplicit false

namespace Testbook

/-- Why a file cannot be read or written. -/
inductive FileFault where
  | missing
  | exists
  | notFolder
  | isFolder
  | nameTooLong
  | nulInPath
  | notText
  deriving DecidableEq, Repr

def FileFault.message : FileFault → String
  | missing => "No such file or directory (os error 2)"
  | .exists => "File exists (os error 17)"
  | notFolder => "Not a directory (os error 20)"
  | isFolder => "Is a directory (os error 21)"
  | nameTooLong => "File name too long (os error 36)"
  | nulInPath => "file name contained an unexpected NUL byte"
  | notText => "stream did not contain valid UTF-8"

inductive Missing where
  | project (id : String)
  | feature (id : String)
  | run (id : String)
  | scenario (id : String)
  | step (id : String)
  | completedRun (version : String) (environment : Environment)
  deriving DecidableEq, Repr

def Missing.message : Missing → String
  | project id => "Project not found: " ++ id
  | feature id => "Feature not found: " ++ id
  | run id => "Run not found: " ++ id
  | scenario id => "Scenario not found: " ++ id
  | step id => "Step not found: " ++ id
  | completedRun version environment =>
    "No completed run for version " ++ version ++ " in " ++ environment.name

inductive Clash where
  | versionTaken (version : String) (environment : Environment)
  | runOpen (run : String) (environment : Environment) (version : String)
  deriving DecidableEq, Repr

def Clash.message : Clash → String
  | versionTaken version environment =>
    "Version " ++ version ++ " already exists for this feature in " ++ environment.name
  | runOpen run environment version =>
    "Run " ++ run ++ " is already in progress for " ++ environment.name ++ " " ++ version

inductive Refusal where
  | emptyProjectName
  | emptyVersion
  | emptyMime
  | importWithoutId
  | unknownOutcome (word : String)
  | unknownEnvironment (word : String)
  | notFeatureFile (path : String)
  | unclearTarget
  | foreignRun (run owner asked : String)
  | notCompactable (backend : BackendKind)
  | unknownKey (key : String) (known : List String)
  | badFormat (key value : String)
  | badBackend (key value : String)
  | badSwitch (key value : String)
  deriving DecidableEq, Repr

def Refusal.message : Refusal → String
  | emptyProjectName => "Project name cannot be empty"
  | emptyVersion => "Version cannot be empty"
  | emptyMime => "MIME type cannot be empty"
  | importWithoutId => "Imported project has no id"
  | unknownOutcome word => "Unknown outcome: " ++ word
  | unknownEnvironment word => "Unknown environment: " ++ word
  | notFeatureFile path => "Only .feature files can be uploaded: " ++ path
  | unclearTarget => "Specify exactly one of --step or --scenario"
  | foreignRun run owner asked =>
    "Run " ++ run ++ " belongs to feature " ++ owner ++ ", not " ++ asked
  | notCompactable backend =>
    "Compaction only applies to the file backend (current backend: " ++ backend.name ++ ")"
  | unknownKey key known =>
    "Unknown config key: " ++ key ++ " (expected one of: " ++ String.intercalate ", " known ++ ")"
  | badFormat key value => key ++ " must be \"json\" or \"human\", got " ++ value
  | badBackend key value => key ++ " must be sqlite, file or memory, got " ++ value
  | badSwitch key value => key ++ " must be true or false, got " ++ value

inductive Misconfiguration where
  | badVariable (name value : String)
  | unreadable (path : String)
  deriving DecidableEq, Repr

def Misconfiguration.message : Misconfiguration → String
  | badVariable name value => "Invalid value for " ++ name ++ ": " ++ value
  | unreadable path => "Failed to parse " ++ path ++ ": Failed to parse KDL document"

inductive Error where
  | file (fault : FileFault)
  | document
  | database
  | missing (what : Missing)
  | clash (what : Clash)
  | refused (what : Refusal)
  | config (what : Misconfiguration)
  | noDataFolder
  | noConfigFolder
  deriving DecidableEq, Repr

def Error.message : Error → String
  | file fault => "IO error: " ++ fault.message
  | document => "JSON error: not a document of the expected form"
  | database => "Database error: not a database of projects"
  | missing what => "Not found: " ++ what.message
  | clash what => "Conflict: " ++ what.message
  | refused what => "Invalid input: " ++ what.message
  | config what => "Config error: " ++ what.message
  | noDataFolder => "Could not determine data directory"
  | noConfigFolder => "Could not determine config directory"

end Testbook
