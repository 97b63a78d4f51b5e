import Testbook.Error
import Testbook.FilePath
import Testbook.Variables

/-! The folders of the program: one for its data and one for its settings. Each is named by whoever
calls, or by an environment variable, or lies where the platform keeps such things. -/

set_option autoImplicit false

namespace Testbook.Folders

def ownName : String := "bddtrack"

def named? (env : Variables) (name : String) : Option String :=
  (env.get? name).filter fun value => !Text.allBlank value

/-- A folder of the platform: the one that a variable names by a rooted path, else one within the home
folder. -/
def platform? (env : Variables) (name inHome : String) : Option String :=
  match (env.get? name).filter FilePath.isRooted with
  | some path => some path
  | none => ((env.get? "HOME").filter (· ≠ "")).map (FilePath.join · inHome)

def data (explicit : Option String) (env : Variables) : Except Error String :=
  match explicit.or (named? env "BDT_DATA_DIR"),
      platform? env "XDG_DATA_HOME" ".local/share" with
  | some path, _ => .ok path
  | none, some folder => .ok (FilePath.join folder ownName)
  | none, none => .error .noDataFolder

def settings (env : Variables) : Except Error String :=
  match named? env "BDT_CONFIG_DIR", platform? env "XDG_CONFIG_HOME" ".config" with
  | some path, _ => .ok path
  | none, some folder => .ok (FilePath.join folder ownName)
  | none, none => .error .noConfigFolder

end Testbook.Folders
