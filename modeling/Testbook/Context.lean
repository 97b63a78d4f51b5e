import Testbook.Build
import Testbook.Folders
import Testbook.Instant.Basic
import Testbook.Settings.File
import Testbook.Settings.Resolved

/-! What a request is carried out under: the folders of the program, the settings in force, and the
time. -/

set_option autoImplicit false

namespace Testbook

structure Context where
  build : Build
  dataFolder : String
  settingsFolder : String
  overrides : Overrides
  settings : ResolvedSettings
  now : Instant

namespace Context

def load (build : Build) (directory : Directory) (env : Variables) (now : Instant)
    (dataFolder : Option String) (overrides : Overrides) : Except Error Context := do
  let dataFolder ← Folders.data dataFolder env
  let settingsFolder ← Folders.settings env
  let file ← SettingsFile.load directory settingsFolder
  let settings ← ResolvedSettings.resolve file overrides env
  .ok { build, dataFolder, settingsFolder, overrides, settings, now }

def environment (context : Context) (named : Option Environment) : Environment :=
  named.getD context.settings.environment.value

end Context

end Testbook
