import Testbook.Proofs.Except
import Testbook.Proofs.Settings.Words
import Testbook.Settings.Resolved

/-! The settings in force are decided by rank: by an option if one is given, else by a variable that is not
blank, else by the file, else by what holds by default. What stands below the place that decides is not
looked at, and neither is what decides another setting; only a variable that is looked at can mislead. -/

set_option autoImplicit false

namespace Testbook

/-- The settings that an option or a variable may decide. -/
inductive Ranked where
  | outputFormat
  | backend
  | environment

namespace Ranked

def Value : Ranked → Type
  | outputFormat => OutputFormat
  | backend => BackendKind
  | environment => Environment

def before : Ranked → List Ranked
  | outputFormat => []
  | backend => [outputFormat]
  | environment => [outputFormat, backend]

def variableName : Ranked → String
  | outputFormat => "BDT_OUTPUT_FORMAT"
  | backend => "BDT_BACKEND"
  | environment => "BDT_ENVIRONMENT"

def words : (setting : Ranked) → setting.Value → List String
  | outputFormat, format => [OutputFormat.name format]
  | backend, kind => BackendKind.words kind
  | environment, value => Environment.words value

def ofWord? : (setting : Ranked) → String → Option setting.Value
  | outputFormat => OutputFormat.ofWord?
  | backend => BackendKind.ofWord?
  | environment => Environment.ofWord?

def byDefault : (setting : Ranked) → setting.Value
  | outputFormat => OutputFormat.json
  | backend => BackendKind.sqlite
  | environment => Environment.staging

def option (overrides : Overrides) : (setting : Ranked) → Option setting.Value
  | outputFormat => overrides.outputFormat
  | backend => overrides.backend
  | environment => overrides.environment

def kept (file : Settings) : (setting : Ranked) → Option setting.Value
  | outputFormat => file.outputFormat
  | backend => file.backend
  | environment => file.environment

def inForce (settings : ResolvedSettings) : (setting : Ranked) → Sourced setting.Value
  | outputFormat => settings.outputFormat
  | backend => settings.backend
  | environment => settings.environment

/-- The text, without blanks around it and in capitals or not, is a name of the value. -/
def Means (setting : Ranked) (text : String) (value : setting.Value) : Prop :=
  Text.lower (Text.trim text) ∈ setting.words value

theorem ofWord?_eq_some {setting : Ranked} {text : String} {value : setting.Value} :
    setting.ofWord? (Text.trim text) = some value ↔ setting.Means text value := by
  cases setting with
  | outputFormat => exact @OutputFormat.ofWord?_eq_some (Text.trim text) value
  | backend => exact @BackendKind.ofWord?_eq_some (Text.trim text) value
  | environment => exact @Environment.ofWord?_eq_some (Text.trim text) value

end Ranked

structure Sources where
  overrides : Overrides := {}
  env : Variables := []
  file : Settings := {}

namespace Sources

open ResolvedSettings

variable {sources later : Sources} {setting : Ranked}

def Says (sources : Sources) (setting : Ranked) (text : String) : Prop :=
  sources.env.get? setting.variableName = some text ∧ Text.allBlank text = false

structure Misleads (sources : Sources) (setting : Ranked) (text : String) : Prop where
  noOption : setting.option sources.overrides = none
  tells : sources.Says setting text
  nameless : ∀ value, ¬setting.Means text value

def MisleadsFirst (sources : Sources) (setting : Ranked) (text : String) : Prop :=
  sources.Misleads setting text ∧ ∀ other ∈ setting.before, ∀ text, ¬sources.Misleads other text

/-- The value that is present at the highest rank, and where it comes from. -/
inductive Decides (sources : Sources) (setting : Ranked) : Sourced setting.Value → Prop where
  | option {value : setting.Value} (given : setting.option sources.overrides = some value) :
      Decides sources setting ⟨value, .option⟩
  | exported {text : String} {value : setting.Value}
      (noOption : setting.option sources.overrides = none) (tells : sources.Says setting text)
      (means : setting.Means text value) : Decides sources setting ⟨value, .exported setting.variableName⟩
  | file {value : setting.Value} (noOption : setting.option sources.overrides = none)
      (silent : ∀ text, ¬sources.Says setting text) (kept : setting.kept sources.file = some value) :
      Decides sources setting ⟨value, .file⟩
  | default (noOption : setting.option sources.overrides = none)
      (silent : ∀ text, ¬sources.Says setting text) (nothing : setting.kept sources.file = none) :
      Decides sources setting ⟨setting.byDefault, .default⟩

/-! ### One setting -/

def chosen (sources : Sources) (setting : Ranked) : Except Error (Sourced setting.Value) :=
  choose (setting.option sources.overrides) sources.env setting.variableName setting.ofWord?
    (setting.kept sources.file) setting.byDefault

theorem exported?_means {text : String} {value : setting.Value} (tells : sources.Says setting text)
    (means : setting.Means text value) :
    exported? sources.env setting.variableName setting.ofWord? = .ok (some value) := by
  simp [exported?, tells.1, tells.2, Ranked.ofWord?_eq_some.mpr means]

theorem exported?_nameless {text : String} (tells : sources.Says setting text)
    (nameless : ∀ value, ¬setting.Means text value) :
    exported? sources.env setting.variableName setting.ofWord? =
      .error (.config (.badVariable setting.variableName text)) := by
  have none : setting.ofWord? (Text.trim text) = none :=
    Option.eq_none_iff_forall_ne_some.mpr fun value meant =>
      nameless value (Ranked.ofWord?_eq_some.mp meant)
  simp [exported?, tells.1, tells.2, none]

theorem exported?_silent (silent : ∀ text, ¬sources.Says setting text) :
    exported? sources.env setting.variableName setting.ofWord? = .ok none := by
  unfold exported?
  split
  · rfl
  · rename_i text exported
    cases blank : Text.allBlank text with
    | true => rfl
    | false => exact absurd ⟨exported, blank⟩ (silent text)

theorem Decides.chosen {value : Sourced setting.Value} (decides : sources.Decides setting value) :
    sources.chosen setting = .ok value := by
  cases decides with
  | option given => simp [Sources.chosen, choose, given]
  | exported noOption tells means =>
    simp [Sources.chosen, choose, noOption, exported?_means tells means, bind, Except.bind]
  | file noOption silent kept =>
    simp [Sources.chosen, choose, noOption, exported?_silent silent, kept, bind, Except.bind]
  | default noOption silent nothing =>
    simp [Sources.chosen, choose, noOption, exported?_silent silent, nothing, bind, Except.bind]

theorem Misleads.chosen {text : String} (misleads : sources.Misleads setting text) :
    sources.chosen setting = .error (.config (.badVariable setting.variableName text)) := by
  simp [Sources.chosen, choose, misleads.noOption, exported?_nameless misleads.tells misleads.nameless,
    bind, Except.bind]

-- The cases are those of the ranks; of a variable it is asked too whether it names a value.
theorem decides_or_misleads (sources : Sources) (setting : Ranked) :
    (∃ value, sources.Decides setting value) ∨ ∃ text, sources.Misleads setting text := by
  cases given : setting.option sources.overrides with
  | some value => exact Or.inl ⟨_, .option given⟩
  | none =>
    by_cases said : ∃ text, sources.Says setting text
    · obtain ⟨text, tells⟩ := said
      by_cases named : ∃ value, setting.Means text value
      · obtain ⟨value, means⟩ := named
        exact Or.inl ⟨_, .exported given tells means⟩
      · exact Or.inr ⟨text, given, tells, not_exists.mp named⟩
    · have silent := not_exists.mp said
      cases kept : setting.kept sources.file with
      | some value => exact Or.inl ⟨_, .file given silent kept⟩
      | none => exact Or.inl ⟨_, .default given silent kept⟩

theorem chosen_eq_ok {value : Sourced setting.Value} :
    sources.chosen setting = .ok value ↔ sources.Decides setting value := by
  refine ⟨fun found => ?_, Decides.chosen⟩
  rcases sources.decides_or_misleads setting with ⟨other, decides⟩ | ⟨text, misleads⟩
  · cases decides.chosen.symm.trans found
    exact decides
  · cases misleads.chosen.symm.trans found

theorem chosen_eq_error {e : Error} :
    sources.chosen setting = .error e ↔
      ∃ text, sources.Misleads setting text ∧ e = .config (.badVariable setting.variableName text) := by
  constructor
  · intro failed
    rcases sources.decides_or_misleads setting with ⟨value, decides⟩ | ⟨text, misleads⟩
    · cases decides.chosen.symm.trans failed
    · cases misleads.chosen.symm.trans failed
      exact ⟨text, misleads, rfl⟩
  · rintro ⟨text, misleads, rfl⟩
    exact misleads.chosen

/-- As long as nothing misleads, something decides. -/
theorem exists_chosen_iff :
    (∃ value, sources.chosen setting = .ok value) ↔ ∀ text, ¬sources.Misleads setting text := by
  constructor
  · rintro ⟨value, found⟩ text misleads
    cases misleads.chosen.symm.trans found
  · intro clear
    obtain ⟨value, decides⟩ :=
      (sources.decides_or_misleads setting).resolve_right fun ⟨text, misleads⟩ => clear text misleads
    exact ⟨value, decides.chosen⟩

/-! ### All settings -/

def resolved (sources : Sources) : Except Error ResolvedSettings :=
  resolve sources.file sources.overrides sources.env

theorem resolved_eq_ok {settings : ResolvedSettings} :
    sources.resolved = .ok settings ↔
      (∀ setting, sources.chosen setting = .ok (setting.inForce settings)) ∧
        settings.actionLog = sources.file.actionLog.elim ⟨true, .default⟩ (⟨·, .file⟩) := by
  constructor
  · intro found
    obtain ⟨format, first, found⟩ := bind_eq_ok.mp found
    obtain ⟨kind, second, found⟩ := bind_eq_ok.mp found
    obtain ⟨environment, third, found⟩ := bind_eq_ok.mp found
    cases found
    refine ⟨fun setting => ?_, rfl⟩
    cases setting with
    | outputFormat => exact first
    | backend => exact second
    | environment => exact third
  · rintro ⟨each, log⟩
    obtain ⟨format, kind, environment, actionLog⟩ := settings
    cases log
    refine bind_eq_ok.mpr ⟨_, each .outputFormat, ?_⟩
    refine bind_eq_ok.mpr ⟨_, each .backend, ?_⟩
    exact bind_eq_ok.mpr ⟨_, each .environment, rfl⟩

-- Each setting is resolved when those before it have been.
theorem resolved_fails_iff {e : Error} :
    sources.resolved = .error e ↔ ∃ setting, sources.chosen setting = .error e ∧
      ∀ other ∈ setting.before, ∃ value, sources.chosen other = .ok value := by
  constructor
  · intro failed
    rcases bind_eq_error.mp failed with first | ⟨_, first, failed⟩
    · exact ⟨.outputFormat, first, by simp [Ranked.before]⟩
    rcases bind_eq_error.mp failed with second | ⟨_, second, failed⟩
    · exact ⟨.backend, second, by simpa [Ranked.before] using ⟨_, first⟩⟩
    rcases bind_eq_error.mp failed with third | ⟨_, _, failed⟩
    · exact ⟨.environment, third, by simpa [Ranked.before] using ⟨⟨_, first⟩, ⟨_, second⟩⟩⟩
    · cases failed
  · rintro ⟨setting, failed, before⟩
    cases setting with
    | outputFormat => exact bind_eq_error.mpr (Or.inl failed)
    | backend =>
      obtain ⟨_, first⟩ := before .outputFormat (by simp [Ranked.before])
      exact bind_eq_error.mpr (Or.inr ⟨_, first, bind_eq_error.mpr (Or.inl failed)⟩)
    | environment =>
      obtain ⟨_, first⟩ := before .outputFormat (by simp [Ranked.before])
      obtain ⟨_, second⟩ := before .backend (by simp [Ranked.before])
      refine bind_eq_error.mpr (Or.inr ⟨_, first, ?_⟩)
      exact bind_eq_error.mpr (Or.inr ⟨_, second, bind_eq_error.mpr (Or.inl failed)⟩)

theorem resolved_eq_error {e : Error} :
    sources.resolved = .error e ↔ ∃ setting text, sources.MisleadsFirst setting text ∧
      e = .config (.badVariable setting.variableName text) := by
  simp only [resolved_fails_iff, chosen_eq_error, exists_chosen_iff, MisleadsFirst]
  constructor
  · rintro ⟨setting, ⟨text, misleads, same⟩, before⟩
    exact ⟨setting, text, ⟨misleads, before⟩, same⟩
  · rintro ⟨setting, text, ⟨misleads, before⟩, same⟩
    exact ⟨setting, ⟨text, misleads, same⟩, before⟩

/-! ### What does not matter -/

def rank : SettingSource → Nat
  | .option => 0
  | .exported _ => 1
  | .file => 2
  | .default => 3

/-- For this setting the same is found down to a rank. -/
structure SameDownTo (lowest : Nat) (setting : Ranked) (sources later : Sources) : Prop where
  option : setting.option later.overrides = setting.option sources.overrides
  exported : 1 ≤ lowest →
    later.env.get? setting.variableName = sources.env.get? setting.variableName
  file : 2 ≤ lowest → setting.kept later.file = setting.kept sources.file

theorem Decides.carry {value : Sourced setting.Value} (decides : sources.Decides setting value)
    (same : SameDownTo (rank value.source) setting sources later) : later.Decides setting value := by
  have silence (looked : later.env.get? setting.variableName = sources.env.get? setting.variableName)
      (silent : ∀ text, ¬sources.Says setting text) : ∀ text, ¬later.Says setting text :=
    fun text tells => silent text ⟨looked ▸ tells.1, tells.2⟩
  cases decides with
  | option given => exact .option (same.option.trans given)
  | exported noOption tells means =>
    have tells' := (same.exported (by simp [rank])).trans tells.1
    exact .exported (same.option.trans noOption) ⟨tells', tells.2⟩ means
  | file noOption silent kept =>
    exact .file (same.option.trans noOption) (silence (same.exported (by simp [rank])) silent)
      ((same.file (by simp [rank])).trans kept)
  | default noOption silent nothing =>
    exact .default (same.option.trans noOption) (silence (same.exported (by simp [rank])) silent)
      ((same.file (by simp [rank])).trans nothing)

/-- Resolving fails just when a variable that is looked at names no value, and complains of the first.
Otherwise the highest rank decides each setting, the file alone the action log, and nothing else matters. -/
theorem settings_by_rank (sources : Sources) :
    (∀ e, resolve sources.file sources.overrides sources.env = .error e ↔
      ∃ setting text, sources.MisleadsFirst setting text ∧
        e = .config (.badVariable setting.variableName text)) ∧
    ∀ settings, resolve sources.file sources.overrides sources.env = .ok settings →
      (∀ setting, sources.Decides setting (setting.inForce settings)) ∧
      settings.actionLog = sources.file.actionLog.elim ⟨true, .default⟩ (⟨·, .file⟩) ∧
      ∀ later settings', resolve later.file later.overrides later.env = .ok settings' →
        (∀ setting, SameDownTo (rank (setting.inForce settings).source) setting sources later →
          setting.inForce settings' = setting.inForce settings) ∧
        (later.file.actionLog = sources.file.actionLog → settings'.actionLog = settings.actionLog) := by
  refine ⟨fun e => resolved_eq_error, fun settings found => ?_⟩
  obtain ⟨each, log⟩ := resolved_eq_ok.mp found
  have decides (setting : Ranked) := chosen_eq_ok.mp (each setting)
  refine ⟨decides, log, fun later settings' found' => ?_⟩
  obtain ⟨each', log'⟩ := resolved_eq_ok.mp found'
  refine ⟨fun setting same => ?_, fun same => ?_⟩
  · have carried := ((decides setting).carry same).chosen
    exact Except.ok.inj ((each' setting).symm.trans carried)
  · rw [log', log, same]

/-- A variable in capitals wins over the file, and a bad one is passed over beside an option. Without the
option it is complained of. -/
theorem settings_by_rank_sample :
    let sources : Sources :=
      { overrides := { backend := some .file }
        env := [("BDT_BACKEND", "mysql"), ("BDT_OUTPUT_FORMAT", " HUMAN ")]
        file := { outputFormat := some .json, environment := some .uat } }
    let later : Sources := { sources with env := sources.env.unset "BDT_BACKEND", file := {} }
    let bare : Sources := { sources with overrides := {} }
    (∃ settings settings', sources.resolved = .ok settings ∧ later.resolved = .ok settings' ∧
      settings.environment = ⟨.uat, .file⟩ ∧ settings'.environment = ⟨.staging, .default⟩ ∧
      sources.Decides .outputFormat settings.outputFormat ∧
      settings'.outputFormat = settings.outputFormat ∧ settings'.backend = settings.backend) ∧
    ∃ setting text, bare.MisleadsFirst setting text ∧
      .config (.badVariable "BDT_BACKEND" "mysql") =
        Error.config (.badVariable setting.variableName text) := by
  intro sources later bare
  refine ⟨⟨_, _, rfl, rfl, rfl, rfl, ?_⟩, ((settings_by_rank bare).1 _).mp rfl⟩
  obtain ⟨decides, -, alone⟩ := (settings_by_rank sources).2 _ rfl
  have same := (alone later _ rfl).1
  -- The file is of a lower rank than both, and the variable than the option.
  refine ⟨decides .outputFormat, same .outputFormat ⟨rfl, fun _ => rfl, ?_⟩,
    same .backend ⟨rfl, ?_, ?_⟩⟩
  all_goals exact fun within => absurd within (by decide)

end Sources

end Testbook
