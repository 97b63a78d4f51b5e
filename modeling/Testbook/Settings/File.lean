import Testbook.Directory
import Testbook.Settings.Basic

/-! The file of settings in its folder. Without a file no setting is there. -/

set_option autoImplicit false

namespace Testbook.SettingsFile

def fileName : String := "config.kdl"

def path (folder : String) : String := FilePath.join folder fileName

def load (directory : Directory) (folder : String) : Except Error Settings :=
  if directory.holds (path folder) then do
    let text ← (directory.readText (path folder)).mapError .file
    match Settings.ofText? text with
    | some settings => .ok settings
    | none => .error (.config (.unreadable (path folder)))
  else .ok {}

def save (directory : Directory) (folder : String) (settings : Settings) :
    Except Error Unit × Directory :=
  match directory.makeFolders folder with
  | (.error fault, made) => (.error (.file fault), made)
  | (.ok (), made) =>
    match made.writeText (path folder) settings.written with
    | .ok written => (.ok (), written)
    | .error fault => (.error (.file fault), made)

def withKey (directory : Directory) (folder key value : String) : Except Error (Settings × String) := do
  let settings ← load directory folder
  let changed ← (settings.set key (Text.trim value)).mapError .refused
  let stored ← (changed.get key).mapError .refused
  .ok (changed, stored.getD "")

def set (directory : Directory) (folder key value : String) : Except Error String × Directory :=
  match withKey directory folder key value with
  | .error e => (.error e, directory)
  | .ok (changed, stored) =>
    let (saved, directory) := save directory folder changed
    (saved.map fun _ => stored, directory)

def get (directory : Directory) (folder key : String) : Except Error (Option String) := do
  ((← load directory folder).get key).mapError .refused

end Testbook.SettingsFile
