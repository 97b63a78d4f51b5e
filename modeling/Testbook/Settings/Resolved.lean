import Testbook.Settings.Basic
import Testbook.Text.Blank
import Testbook.Variables

/-! The settings in force, each with the place that it comes from: an option of the command line wins
over an environment variable, that over the file, and that over what holds by default. -/

set_option autoImplicit false

namespace Testbook

inductive SettingSource where
  | option
  | exported (name : String)
  | file
  | default
  deriving DecidableEq, Repr

def SettingSource.name : SettingSource → String
  | option => "cli"
  | exported name => "env:" ++ name
  | file => "config"
  | default => "default"

structure Sourced (α : Type) where
  value : α
  source : SettingSource
  deriving DecidableEq, Repr

structure Overrides where
  outputFormat : Option OutputFormat := none
  backend : Option BackendKind := none
  environment : Option Environment := none
  deriving DecidableEq, Repr

structure ResolvedSettings where
  outputFormat : Sourced OutputFormat
  backend : Sourced BackendKind
  environment : Sourced Environment
  actionLog : Sourced Bool
  deriving DecidableEq, Repr

namespace ResolvedSettings

/-- The value of an environment variable. A blank one is none; one that means nothing is an error. -/
def exported? {α : Type} (env : Variables) (name : String) (ofWord? : String → Option α) :
    Except Error (Option α) :=
  match env.get? name with
  | none => .ok none
  | some text =>
    if Text.allBlank text then .ok none
    else
      match ofWord? (Text.trim text) with
      | some value => .ok (some value)
      | none => .error (.config (.badVariable name text))

/-- The value that wins. Where an option is given, the variable is not looked at. -/
def choose {α : Type} (option : Option α) (env : Variables) (name : String)
    (ofWord? : String → Option α) (file : Option α) (default : α) : Except Error (Sourced α) :=
  match option with
  | some value => .ok ⟨value, .option⟩
  | none => do
    match ← exported? env name ofWord? with
    | some value => .ok ⟨value, .exported name⟩
    | none => .ok (file.elim ⟨default, .default⟩ (⟨·, .file⟩))

/-- The settings in force. Of several bad variables the first in this order is complained of. -/
def resolve (file : Settings) (overrides : Overrides) (env : Variables) :
    Except Error ResolvedSettings := do
  let outputFormat ←
    choose overrides.outputFormat env "BDT_OUTPUT_FORMAT" OutputFormat.ofWord?
      file.outputFormat .json
  let backend ←
    choose overrides.backend env "BDT_BACKEND" BackendKind.ofWord? file.backend .sqlite
  let environment ←
    choose overrides.environment env "BDT_ENVIRONMENT" Environment.ofWord? file.environment
      .staging
  let actionLog := file.actionLog.elim ⟨true, .default⟩ (⟨·, .file⟩)
  .ok { outputFormat, backend, environment, actionLog }

def isHuman (settings : ResolvedSettings) : Bool := settings.outputFormat.value = .human

def entries (settings : ResolvedSettings) : List (SettingKey × String × String) :=
  [(.outputFormat, settings.outputFormat.value.name, settings.outputFormat.source.name),
    (.backend, settings.backend.value.name, settings.backend.source.name),
    (.environment, settings.environment.value.name, settings.environment.source.name),
    (.actionLog, Settings.boolName settings.actionLog.value, settings.actionLog.source.name)]

end ResolvedSettings

end Testbook
