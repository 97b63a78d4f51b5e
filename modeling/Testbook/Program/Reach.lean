import Testbook.Program

/-! What an invocation can see of the disk: the files of the program in its folders, and the files
that the request names. -/

set_option autoImplicit false

namespace Testbook

def StoreRequest.files : StoreRequest → List String
  | exportProject _ output => output.toList
  | importProject file => [file]
  | uploadFeature _ file => [file]
  | attach _ _ _ file _ => [file]
  | _ => []

def Request.files : Request → List String
  | store request => request.files
  | folder _ => []

namespace Program

def variableNames : List String :=
  ["HOME", "USER", "USERNAME", "XDG_DATA_HOME", "XDG_CONFIG_HOME", "BDT_DATA_DIR", "BDT_CONFIG_DIR",
    "BDT_OUTPUT_FORMAT", "BDT_BACKEND", "BDT_ENVIRONMENT"]

def dataFiles (folder : String) : List String :=
  [FilePath.join folder Medium.logName, FilePath.join folder Medium.databaseName,
    ActionLog.path folder]

def reach (env : Variables) (words : List String) : List String :=
  match Invocation.ofWords env words with
  | .error _ => []
  | .ok invocation =>
    (Folders.data invocation.dataFolder env).toOption.elim [] dataFiles ++
      (Folders.settings env).toOption.elim [] (fun folder => [SettingsFile.path folder]) ++
      invocation.request.files

end Program

end Testbook
