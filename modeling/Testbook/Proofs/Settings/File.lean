import Testbook.Proofs.Directory.Way
import Testbook.Proofs.Settings.Written
import Testbook.Settings.File

/-! Setting one key in the file of settings. It fails before anything is written, or afterwards the file says
what it said before, but for this key; whatever the file does not say any longer did not count before. -/

set_option autoImplicit false

namespace Testbook

inductive SettingValue where
  | outputFormat (format : OutputFormat)
  | backend (kind : BackendKind)
  | environment (stage : Environment)
  | actionLog (enabled : Bool)

namespace SettingValue

def key : SettingValue → SettingKey
  | outputFormat _ => .outputFormat
  | backend _ => .backend
  | environment _ => .environment
  | actionLog _ => .actionLog

def name : SettingValue → String
  | outputFormat format => format.name
  | backend kind => kind.name
  | environment stage => stage.name
  | actionLog enabled => Settings.boolName enabled

def words : SettingValue → List String
  | outputFormat format => [format.name]
  | backend kind => kind.words
  | environment stage => stage.words
  | actionLog enabled => Settings.switchWords enabled

def IsMeant (value : SettingValue) (key word : String) : Prop :=
  key = value.key.name ∧ Text.lower word ∈ value.words

theorem trim_name (value : SettingValue) : Text.trim value.name = value.name := by
  have noBlanks : Text.trimChars value.name.toList = value.name.toList := by
    cases value with
    | outputFormat format => cases format <;> decide
    | backend kind => cases kind <;> decide
    | environment stage => cases stage <;> decide
    | actionLog enabled => cases enabled <;> decide
  rw [Text.trim, noBlanks, String.ofList_toList]

theorem name_isMeant (value : SettingValue) : value.IsMeant value.key.name (Text.trim value.name) := by
  rw [trim_name]
  refine ⟨rfl, ?_⟩
  cases value with
  | outputFormat format => exact OutputFormat.ofWord?_eq_some.mp format.ofWord?_name
  | backend kind => exact BackendKind.ofWord?_eq_some.mp kind.ofWord?_name
  | environment stage => exact Environment.ofWord?_eq_some.mp stage.ofWord?_name
  | actionLog enabled =>
    exact Settings.boolOfWord?_eq_some.mp (Settings.boolOfWord?_boolName enabled)

end SettingValue

theorem SettingKey.ofName_eq_ok {name : String} {key : SettingKey} :
    SettingKey.ofName name = .ok key ↔ name = key.name := by
  constructor
  · intro found
    unfold ofName at found
    split at found
    · rename_i named
      cases found
      simpa [eq_comm] using List.find?_some named
    · cases found
  · rintro rfl
    cases key <;> rfl

namespace Settings

variable {settings changed : Settings} {key word : String} {value : SettingValue}

/-- The settings with this value, whatever was set in its place. -/
def having (settings : Settings) : SettingValue → Settings
  | .outputFormat format => { settings with outputFormat := some format }
  | .backend kind => { settings with backend := some kind }
  | .environment stage => { settings with environment := some stage }
  | .actionLog enabled => { settings with actionLog := some enabled }

theorem having_having : (settings.having value).having value = settings.having value := by
  cases value <;> rfl

theorem set_eq_ok :
    settings.set key word = .ok changed ↔
      ∃ value : SettingValue, value.IsMeant key word ∧ changed = settings.having value := by
  constructor
  · intro done
    obtain ⟨named, found, done⟩ := bind_eq_ok.mp done
    obtain rfl := SettingKey.ofName_eq_ok.mp found
    cases named with
    | outputFormat =>
      dsimp only at done
      split at done
      · rename_i read
        cases done
        exact ⟨.outputFormat _, ⟨rfl, OutputFormat.ofWord?_eq_some.mp read⟩, rfl⟩
      · cases done
    | backend =>
      dsimp only at done
      split at done
      · rename_i read
        cases done
        exact ⟨.backend _, ⟨rfl, BackendKind.ofWord?_eq_some.mp read⟩, rfl⟩
      · cases done
    | environment =>
      dsimp only at done
      split at done
      · rename_i read
        cases done
        exact ⟨.environment _, ⟨rfl, Environment.ofWord?_eq_some.mp read⟩, rfl⟩
      · cases done
    | actionLog =>
      dsimp only at done
      split at done
      · rename_i read
        cases done
        exact ⟨.actionLog _, ⟨rfl, boolOfWord?_eq_some.mp read⟩, rfl⟩
      · cases done
  · rintro ⟨value, ⟨rfl, meant⟩, rfl⟩
    have found : SettingKey.ofName value.key.name = .ok value.key := SettingKey.ofName_eq_ok.mpr rfl
    rw [set, found]
    cases value with
    | outputFormat format =>
      have read := OutputFormat.ofWord?_eq_some.mpr meant
      simp [SettingValue.key, read, having]
    | backend kind =>
      have read := BackendKind.ofWord?_eq_some.mpr meant
      simp [SettingValue.key, read, having]
    | environment stage =>
      have read := Environment.ofWord?_eq_some.mpr meant
      simp [SettingValue.key, read, having]
    | actionLog enabled =>
      have read := boolOfWord?_eq_some.mpr meant
      simp [SettingValue.key, read, having]

theorem valueAt_having (settings : Settings) (value : SettingValue) (key : SettingKey) :
    (settings.having value).valueAt key =
      if key = value.key then some value.name else settings.valueAt key := by
  cases value <;> cases key <;> rfl

theorem get_having_self (settings : Settings) (value : SettingValue) :
    (settings.having value).get value.key.name = .ok (some value.name) := by
  rw [get, SettingKey.ofName_eq_ok.mpr rfl, Except.map, valueAt_having, if_pos rfl]

theorem get_having_other (settings : Settings) {value : SettingValue} {other : String}
    (apart : other ≠ value.key.name) : (settings.having value).get other = settings.get other := by
  unfold get
  cases named : SettingKey.ofName other with
  | error => rfl
  | ok key =>
    obtain rfl := SettingKey.ofName_eq_ok.mp named
    have apart_keys : key ≠ value.key := fun same => apart (same ▸ rfl)
    rw [Except.map, Except.map, valueAt_having, if_neg apart_keys]

end Settings

namespace SettingsFile

open Directory FilePath

variable {d after : Directory} {folder text : String} {settings : Settings}

/-! ### The file in its folder -/

inductive Holds (d : Directory) (folder : String) : Option String → Prop where
  | absent (nothing : d.holds (path folder) = false) : Holds d folder none
  | text {text : String} (read : d.readText (path folder) = .ok text) : Holds d folder (some text)

/-- The settings that count for what a file holds, if it is a document at all. -/
def settingsOf? : Option String → Option Settings
  | none => some {}
  | some text => (Kdl.ofText? text).map Settings.ofKdl

/-- The folder can be made, and the file can then be written there. -/
structure Writable (d : Directory) (folder : String) : Prop where
  made : (d.makeFolders folder).1 = .ok ()
  reached : ∃ place, (d.makeFolders folder).2.filePlace (path folder) = .ok place

theorem load_text (read : d.readText (path folder) = .ok text) :
    load d folder = match Settings.ofText? text with
      | some settings => .ok settings
      | none => .error (.config (.unreadable (path folder))) := by
  obtain ⟨entry, found, _⟩ := readText_eq_ok read
  simp only [load, holds_of_find found, if_true, read]
  rfl

theorem Holds.load_eq {content : Option String} (holds : Holds d folder content) :
    load d folder = match settingsOf? content with
      | some settings => .ok settings
      | none => .error (.config (.unreadable (path folder))) := by
  cases holds with
  | absent nothing =>
    simp only [load, nothing]
    rfl
  | text read => exact load_text read

/-- The file holds the settings as they are written, and to save them again changes nothing. -/
structure Saved (d : Directory) (folder : String) (settings : Settings) : Prop where
  read : d.readText (path folder) = .ok settings.written
  again : save d folder settings = (.ok (), d)

theorem Saved.load_eq (saved : Saved d folder settings) : load d folder = .ok settings := by
  rw [load_text saved.read, settings.ofText?_written]

theorem save_writable (writable : Writable d folder) (settings : Settings) :
    ∃ after, save d folder settings = (.ok (), after) ∧ Saved after folder settings := by
  obtain ⟨place, reached⟩ := writable.reached
  rcases done : d.makeFolders folder with ⟨answer, made⟩
  obtain rfl : answer = .ok () := by simpa [done] using writable.made
  rw [done] at reached
  dsimp only at reached
  have written : made.writeText (path folder) settings.written =
      .ok (made.put place (.file settings.written.toByteArray)) := by
    rw [writeText, write, reached]
    rfl
  obtain ⟨_, _, _, free⟩ := filePlace_eq_ok.mp reached
  have stands := stands_put_file reached settings.written.toByteArray
  refine ⟨_, by simp only [save, done, written], stands.readText, ?_⟩
  -- The folder is there now, and the file is put where it stands.
  have folders := makeFolders_of_hasFolder
    ((foldersStay_put free (.file settings.written.toByteArray)).hasFolder (makeFolders_hasFolder done))
  have written_again : writeText (made.put place (.file settings.written.toByteArray)) (path folder)
      settings.written = .ok (made.put place (.file settings.written.toByteArray)) := by
    rw [writeText, write, filePlace_put_file reached]
    exact congrArg Except.ok stands.put_same
  simp only [save, folders, written_again]

theorem save_blocked (blocked : ¬Writable d folder) (settings : Settings) :
    ∃ fault, save d folder settings = (.error (.file fault), (d.makeFolders folder).2) := by
  rcases done : d.makeFolders folder with ⟨answer | answer, made⟩
  · exact ⟨answer, by simp only [save, done]⟩
  cases written : made.writeText (path folder) settings.written with
  | error fault => exact ⟨fault, by simp only [save, done, written]⟩
  | ok after =>
    obtain ⟨place, reached, _⟩ := map_eq_ok.mp written
    exact absurd ⟨by rw [done], place, by rw [done]; exact reached⟩ blocked

/-! ### Setting one key -/

/-- What may come of setting a key, by the settings that the file gave before. Where the file cannot be
written, folders on the way to it may have been made, but the file itself is the one that stood there, if one
did. -/
inductive Sets (d : Directory) (folder key value : String) :
    Option Settings → Except Error String × Directory → Prop where
  | unreadable : Sets d folder key value none (.error (.config (.unreadable (path folder))), d)
  | refused {previous : Settings} (refusal : Refusal)
      (unmeant : ∀ setting : SettingValue, ¬setting.IsMeant key (Text.trim value)) :
      Sets d folder key value (some previous) (.error (.refused refusal), d)
  | blocked {previous : Settings} {after : Directory} (fault : FileFault)
      (unwritable : ¬Writable d folder) (grown : Grown (way folder) d after)
      (unchanged : ∀ bytes, after.entry? (goal (path folder)) = some (.file bytes) ↔
        d.entry? (goal (path folder)) = some (.file bytes)) :
      Sets d folder key value (some previous) (.error (.file fault), after)
  | stored {previous : Settings} {after : Directory} (setting : SettingValue)
      (meant : setting.IsMeant key (Text.trim value)) (before : load d folder = .ok previous)
      (loads : load after folder = .ok (previous.having setting))
      (own : get after folder key = .ok (some setting.name))
      (others : ∀ other, other ≠ key → get after folder other = get d folder other)
      (again : set after folder key setting.name = (.ok setting.name, after)) :
      Sets d folder key value (some previous) (.ok setting.name, after)

theorem get_of_load (loaded : load d folder = .ok settings) (key : String) :
    get d folder key = (settings.get key).mapError .refused := by
  rw [get, loaded]
  rfl

/-- Setting a key that is meant saves the settings with the value that is meant. -/
theorem set_meant {key value : String} {setting : SettingValue} (loaded : load d folder = .ok settings)
    (meant : setting.IsMeant key (Text.trim value)) :
    set d folder key value =
      ((save d folder (settings.having setting)).1.map fun _ => setting.name,
        (save d folder (settings.having setting)).2) := by
  have changed : settings.set key (Text.trim value) = .ok (settings.having setting) :=
    Settings.set_eq_ok.mpr ⟨setting, meant, rfl⟩
  have stored : (settings.having setting).get key = .ok (some setting.name) :=
    meant.1 ▸ settings.get_having_self setting
  have kept : withKey d folder key value = .ok (settings.having setting, setting.name) := by
    rw [withKey, loaded, bind_eq_ok]
    refine ⟨settings, rfl, ?_⟩
    rw [changed, bind_eq_ok]
    refine ⟨settings.having setting, rfl, ?_⟩
    rw [stored]
    rfl
  unfold set
  rw [kept]

/-- Setting a key that is not there, or to what it cannot be, is refused. -/
theorem set_unmeant {key value : String} (loaded : load d folder = .ok settings)
    (unmeant : ∀ setting : SettingValue, ¬setting.IsMeant key (Text.trim value)) :
    ∃ refusal, set d folder key value = (.error (.refused refusal), d) := by
  cases changed : settings.set key (Text.trim value) with
  | error refusal =>
    have refused : withKey d folder key value = .error (.refused refusal) := by
      rw [withKey, loaded, bind_eq_error]
      refine Or.inr ⟨settings, rfl, ?_⟩
      rw [changed]
      rfl
    refine ⟨refusal, ?_⟩
    unfold set
    rw [refused]
  | ok changed =>
    obtain ⟨setting, meant, _⟩ := Settings.set_eq_ok.mp changed
    exact absurd meant (unmeant setting)

/-- Whatever text the file holds, if it is there at all: to set one key either fails and the file is as it
was, or what counts then is what counted before, but for this key. -/
theorem set_sets_one_key {content : Option String} (holds : Holds d folder content) (key value : String) :
    Sets d folder key value (settingsOf? content) (set d folder key value) := by
  have loaded := holds.load_eq
  cases counted : settingsOf? content with
  | none =>
    rw [counted] at loaded
    have kept : withKey d folder key value = .error (.config (.unreadable (path folder))) := by
      rw [withKey, loaded]
      rfl
    unfold set
    rw [kept]
    exact .unreadable
  | some previous =>
    rw [counted] at loaded
    by_cases unmeant : ∀ setting : SettingValue, ¬setting.IsMeant key (Text.trim value)
    · obtain ⟨refusal, refused⟩ := set_unmeant loaded unmeant
      exact refused ▸ .refused refusal unmeant
    obtain ⟨setting, meant⟩ := Classical.not_forall_not.mp unmeant
    rw [set_meant loaded meant]
    by_cases writable : Writable d folder
    · obtain ⟨after, saved_eq, saved⟩ := save_writable writable (previous.having setting)
      rw [saved_eq]
      have own_key : key = setting.key.name := meant.1
      refine .stored setting meant loaded saved.load_eq ?_ ?_ ?_
      · rw [get_of_load saved.load_eq, own_key, Settings.get_having_self]
        rfl
      · intro other apart
        rw [get_of_load saved.load_eq, get_of_load loaded,
          Settings.get_having_other previous (own_key ▸ apart)]
      · have again : (previous.having setting).having setting = previous.having setting :=
          Settings.having_having
        rw [own_key, set_meant saved.load_eq setting.name_isMeant, again, saved.again]
        rfl
    · obtain ⟨fault, blocked⟩ := save_blocked writable (previous.having setting)
      have grown := makeFolders_grown d folder
      rw [blocked]
      exact .blocked fault writable grown fun _ => grown.file_iff

/-- A file with a node that means nothing, one that is repeated, and one with a value of another kind. -/
theorem set_sets_one_key_sample :
    let text := "theme 3; backend \"jsonl\"; backend 7\naction-log \"on\"\n"
    let d : Directory := ⟨[(["settings"], .folder), (["settings", "config.kdl"], .file text.toByteArray)]⟩
    Holds d "settings" (some text) ∧
      settingsOf? (some text) = some { backend := some .file } ∧
      (set d "settings" "default-environment" " UAT ").1.toOption = some "uat" ∧
      Sets d "settings" "default-environment" " UAT " (settingsOf? (some text))
        (set d "settings" "default-environment" " UAT ") := by
  intro text d
  have stands : d.Stands (path "settings") ["settings", "config.kdl"] (.file text.toByteArray) :=
    ⟨by rfl, by rfl, nofun⟩
  have holds : Holds d "settings" (some text) := .text stands.readText
  exact ⟨holds, by decide +kernel, by decide +kernel, set_sets_one_key holds _ _⟩

end SettingsFile

end Testbook
