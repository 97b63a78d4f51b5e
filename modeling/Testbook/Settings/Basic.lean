import Testbook.Error
import Testbook.Kdl.Reader
import Testbook.OutputFormat

/-! The settings that a user keeps in a file, each of which may lack. The file is a KDL document with
one node for each setting; other nodes, and values that are no settings, are passed over. -/

set_option autoImplicit false

namespace Testbook

inductive SettingKey where
  | outputFormat
  | backend
  | environment
  | actionLog
  deriving DecidableEq, Repr

namespace SettingKey

def all : List SettingKey := [.outputFormat, .backend, .environment, .actionLog]

def name : SettingKey → String
  | outputFormat => "output-format"
  | backend => "backend"
  | environment => "default-environment"
  | actionLog => "action-log"

def ofName? (s : String) : Option SettingKey := all.find? (·.name = s)

def ofName (s : String) : Except Refusal SettingKey :=
  match ofName? s with
  | some key => .ok key
  | none => .error (.unknownKey s (all.map name))

end SettingKey

structure Settings where
  outputFormat : Option OutputFormat := none
  backend : Option BackendKind := none
  /-- The environment of runs for which none is named. -/
  environment : Option Environment := none
  /-- Whether the action log is kept. -/
  actionLog : Option Bool := none
  deriving DecidableEq, Repr

namespace Settings

def boolName (b : Bool) : String := if b then "true" else "false"

def boolOfWord? (s : String) : Option Bool :=
  let word := Text.lower s
  if ["true", "on", "yes", "1"].contains word then some true
  else if ["false", "off", "no", "0"].contains word then some false
  else none

def valueAt (settings : Settings) : SettingKey → Option String
  | .outputFormat => settings.outputFormat.map (·.name)
  | .backend => settings.backend.map (·.name)
  | .environment => settings.environment.map (·.name)
  | .actionLog => settings.actionLog.map boolName

def get (settings : Settings) (key : String) : Except Refusal (Option String) :=
  (SettingKey.ofName key).map settings.valueAt

def set (settings : Settings) (key value : String) : Except Refusal Settings := do
  match ← SettingKey.ofName key with
  | .outputFormat =>
    match OutputFormat.ofWord? value with
    | some format => .ok { settings with outputFormat := some format }
    | none => .error (.badFormat key value)
  | .backend =>
    match BackendKind.ofWord? value with
    | some kind => .ok { settings with backend := some kind }
    | none => .error (.badBackend key value)
  | .environment =>
    match Environment.ofWord? value with
    | some environment => .ok { settings with environment := some environment }
    | none => .error (.unknownEnvironment value)
  | .actionLog =>
    match boolOfWord? value with
    | some enabled => .ok { settings with actionLog := some enabled }
    | none => .error (.badSwitch key value)

/-- The settings of `other`, and for what it lacks those of `settings`. -/
def merge (settings other : Settings) : Settings where
  outputFormat := other.outputFormat.or settings.outputFormat
  backend := other.backend.or settings.backend
  environment := other.environment.or settings.environment
  actionLog := other.actionLog.or settings.actionLog

/-! ### The file -/

def wordAt? (document : List Kdl.Node) (key : SettingKey) : Option String :=
  match Kdl.firstValue? document key.name with
  | some (.text s) => some s
  | _ => none

def boolAt? (document : List Kdl.Node) (key : SettingKey) : Option Bool :=
  match Kdl.firstValue? document key.name with
  | some (.bool b) => some b
  | _ => none

def ofKdl (document : List Kdl.Node) : Settings where
  outputFormat := (wordAt? document .outputFormat).bind OutputFormat.ofWord?
  backend := (wordAt? document .backend).bind BackendKind.ofWord?
  environment := (wordAt? document .environment).bind Environment.ofWord?
  actionLog := boolAt? document .actionLog

def ofText? (text : String) : Option Settings := (Kdl.ofText? text).map ofKdl

/-- A value as it stands in the file. Truth values are keywords, all others are bare words. -/
def writtenAt (settings : Settings) (key : SettingKey) : Option String :=
  match key with
  | .actionLog => settings.actionLog.map fun b => "#" ++ boolName b
  | key => settings.valueAt key

def written (settings : Settings) : String :=
  String.join <| SettingKey.all.map fun key =>
    (settings.writtenAt key).elim "" fun value => key.name ++ " " ++ value ++ "\n"

end Settings

end Testbook
