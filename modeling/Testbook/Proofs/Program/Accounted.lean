import Testbook.Proofs.Request.Spares

/-! Each launch of the program is accounted for: by what it prints, by its exit code, and by one line in
the action log, which is added when the command has been carried out. -/

set_option autoImplicit false

namespace Testbook

open Directory

/-! ### The name of a command

A request and the words that it was read from go by one name. -/

namespace CommandLine

variable {α β : Type} {name : α → String} {text : String}

def Named (name : α → String) (text : String) (read : Option α) : Prop :=
  ∀ a, read = some a → name a = text

theorem Named.some {a : α} (named : name a = text) : Named name text (some a) := by
  rintro _ ⟨⟩
  exact named

theorem Named.none : Named name text none := by
  rintro _ ⟨⟩

theorem Named.bind {part : Option β} {f : β → Option α} (each : ∀ b, Named name text (f b)) :
    Named name text (part >>= f) := by
  intro a read
  obtain ⟨b, _, read⟩ := Option.bind_eq_some_iff.mp read
  exact each b a read

theorem storeRequest?_named (values : Values) (path : List String) :
    Named StoreRequest.name (String.intercalate " " path) (storeRequest? values path) := by
  unfold storeRequest?
  split
  case h_27 => exact .none
  all_goals
    repeat refine .bind fun _ => ?_
    exact .some rfl

theorem folderRequest?_named (values : Values) (path : List String) :
    Named FolderRequest.name (String.intercalate " " path) (folderRequest? values path) := by
  unfold folderRequest?
  split
  case h_6 => exact .none
  all_goals
    repeat refine .bind fun _ => ?_
    exact .some rfl

end CommandLine

/-- An invocation is named by the commands that were given. -/
theorem Invocation.ofWords_name {env : Variables} {words : List String} {invocation : Invocation}
    (read : Invocation.ofWords env words = .ok invocation) :
    ∃ given, CommandLine.read env words = .ok given ∧
      invocation.request.name = String.intercalate " " given.path := by
  obtain ⟨given, parsed, result⟩ := bind_eq_ok.mp read
  refine ⟨given, parsed, ?_⟩
  split at result
  · rename_i understood
    cases result
    obtain ⟨request, found, same⟩ := Option.bind_eq_some_iff.mp understood
    cases same
    rcases Option.or_eq_some_iff.mp found with store | ⟨_, folder⟩
    · obtain ⟨_, asked, rfl⟩ := Option.map_eq_some_iff.mp store
      exact CommandLine.storeRequest?_named _ _ _ asked
    · obtain ⟨_, asked, rfl⟩ := Option.map_eq_some_iff.mp folder
      exact CommandLine.folderRequest?_named _ _ _ asked
  · cases result

namespace Program

/-! ### Launches -/

/-- What the program is launched with: how it was built, the environment, the time, how long it took in
milliseconds, and the words after its name. -/
structure Launch where
  build : Build
  env : Variables
  now : Instant
  elapsed : Nat
  words : List String

namespace Launch

def run (launch : Launch) (world : World) : Result × World :=
  Program.run launch.build launch.env launch.now launch.elapsed world launch.words

def context (launch : Launch) (directory : Directory) (invocation : Invocation) :
    Except Error Context :=
  Context.load launch.build directory launch.env launch.now invocation.dataFolder
    (overrides invocation)

def KeepsApart (launch : Launch) (folder : String) : Prop :=
  ∀ invocation data settings, Invocation.ofWords launch.env launch.words = .ok invocation →
    Folders.data invocation.dataFolder launch.env = .ok data →
    Folders.settings launch.env = .ok settings → invocation.request.Apart folder data settings

end Launch

def after (world : World) (launches : List Launch) : World :=
  launches.foldl (fun world launch => (launch.run world).2) world

/-! ### Accounts -/

structure Tells (launch : Launch) (human : Bool) (answer : Except Error Answer) (result : Result)
    (action : Action) : Prop where
  command : ∃ given, CommandLine.read launch.env launch.words = .ok given ∧
    action.command = String.intercalate " " given.path
  success : action.success = true ↔ result.code = 0
  noError : result.code = 0 → action.error = none
  error : result.code = 1 →
    ∃ error, answer = .error error ∧ action.error = some error.message ∧
      result.err = complain human error

/-- How a launch in a context is accounted for. The command finds the log as it was before; what it has
done is done before its own line is added. -/
structure Carried (folder : String) (launch : Launch) (context : Context) (request : Request)
    (before : World) (result : Result) (later : World) : Prop where
  concluded : result = conclude context.settings.isHuman (perform context before request).1
  spared : ActionLog.written (perform context before request).2.directory folder =
    ActionLog.written before.directory folder
  silent : context.settings.actionLog.value = false → later = (perform context before request).2
  logged : context.settings.actionLog.value = true →
    ∃ action, Tells launch context.settings.isHuman (perform context before request).1 result action ∧
      later.ids = (perform context before request).2.ids ∧
      later.directory = ActionLog.add (perform context before request).2.directory folder action ∧
      ActionLog.lines (ActionLog.written later.directory folder) =
        ActionLog.lines (ActionLog.written before.directory folder) ++
          [action.json.compact.toByteArray.data.toList]

/-- How a launch is accounted for whose folder for data is this one. -/
structure Accounted (folder : String) (launch : Launch) (invocation : Invocation) (before : World)
    (result : Result) (later : World) : Prop where
  told : (result.code = 0 ∧ result.err = "" ∧ ∃ human answer, result.out = print human answer) ∨
    (result.code = 1 ∧ result.out = "" ∧ ∃ human error, result.err = complain human error)
  unloaded : ∀ error, launch.context before.directory invocation = .error error →
    result.code = 1 ∧ result.err = complain invocation.human error ∧ later = before
  carried : ∀ context, launch.context before.directory invocation = .ok context →
    Carried folder launch context invocation.request before result later

variable {folder : String} {launch : Launch} {invocation : Invocation} {world : World}

theorem actionOf_tells {context : Context} {answer : Except Error Answer} {given : CommandLine.Given}
    (read : CommandLine.read launch.env launch.words = .ok given)
    (named : invocation.request.name = String.intercalate " " given.path) :
    Tells launch context.settings.isHuman answer (conclude context.settings.isHuman answer)
      (actionOf context launch.env invocation.request answer launch.elapsed) := by
  cases answer with
  | ok answer =>
    refine ⟨⟨given, read, named⟩, ?_, fun _ => rfl, fun failed => ?_⟩
    · simp [actionOf, Action.record, conclude]
    · cases failed
  | error error =>
    refine ⟨⟨given, read, named⟩, ?_, fun done => ?_, fun _ => ⟨error, rfl, rfl, rfl⟩⟩
    · simp [actionOf, Action.record, conclude]
    · cases done

theorem conclude_told (human : Bool) (answer : Except Error Answer) :
    ((conclude human answer).code = 0 ∧ (conclude human answer).err = "" ∧
      ∃ human' answer', (conclude human answer).out = print human' answer') ∨
    ((conclude human answer).code = 1 ∧ (conclude human answer).out = "" ∧
      ∃ human' error, (conclude human answer).err = complain human' error) := by
  cases answer with
  | ok answer => exact Or.inl ⟨rfl, rfl, human, answer, rfl⟩
  | error error => exact Or.inr ⟨rfl, rfl, human, error, rfl⟩

theorem load_folders {build : Build} {directory : Directory} {env : Variables} {now : Instant}
    {dataFolder : Option String} {overrides : Overrides} {context : Context}
    (loaded : Context.load build directory env now dataFolder overrides = .ok context) :
    Folders.data dataFolder env = .ok context.dataFolder ∧
      Folders.settings env = .ok context.settingsFolder := by
  obtain ⟨data, data_ok, loaded⟩ := bind_eq_ok.mp loaded
  obtain ⟨settings, settings_ok, loaded⟩ := bind_eq_ok.mp loaded
  obtain ⟨_, _, loaded⟩ := bind_eq_ok.mp loaded
  obtain ⟨_, _, loaded⟩ := bind_eq_ok.mp loaded
  cases loaded
  exact ⟨data_ok, settings_ok⟩

theorem carryOut_writable (writable : ActionLog.Writable world.directory folder)
    (read : Invocation.ofWords launch.env launch.words = .ok invocation)
    (apart : launch.KeepsApart folder) :
    ActionLog.Writable (carryOut launch.build launch.env launch.now launch.elapsed world
      invocation).2.directory folder := by
  unfold carryOut
  split
  · exact writable
  · rename_i context loaded
    obtain ⟨data, settings⟩ := load_folders loaded
    have asks := apart invocation _ _ read data settings
    have beside := asks.beside writable
    have still := writable.spared (perform_spares context writable asks)
    unfold log
    dsimp only
    split
    · exact still.add beside.folders beside.actions _
    · exact still

theorem Launch.run_writable (writable : ActionLog.Writable world.directory folder)
    (apart : launch.KeepsApart folder) :
    ActionLog.Writable (launch.run world).2.directory folder := by
  unfold Launch.run Program.run
  split
  · exact writable
  · rename_i invocation read
    exact carryOut_writable writable read apart

theorem after_writable {launches : List Launch} (writable : ActionLog.Writable world.directory folder)
    (apart : ∀ launch ∈ launches, launch.KeepsApart folder) :
    ActionLog.Writable (after world launches).directory folder := by
  induction launches generalizing world with
  | nil => exact writable
  | cons launch launches ih =>
    obtain ⟨first, others⟩ := List.forall_mem_cons.mp apart
    exact ih (Launch.run_writable writable first) others

/-- One launch, from any world in which its log can be written. -/
theorem Launch.run_accounted (writable : ActionLog.Writable world.directory folder)
    (apart : launch.KeepsApart folder)
    (read : Invocation.ofWords launch.env launch.words = .ok invocation)
    (own : ∀ data, Folders.data invocation.dataFolder launch.env = .ok data → data = folder) :
    Accounted folder launch invocation world (launch.run world).1 (launch.run world).2 := by
  have ran : launch.run world =
      carryOut launch.build launch.env launch.now launch.elapsed world invocation := by
    unfold Launch.run Program.run
    rw [read]
  rw [ran]
  cases loading : launch.context world.directory invocation with
  | error error =>
    have unloaded : carryOut launch.build launch.env launch.now launch.elapsed world invocation =
        ({ code := 1, err := complain invocation.human error }, world) := by
      have failed : Context.load launch.build world.directory launch.env launch.now
          invocation.dataFolder (overrides invocation) = .error error := loading
      simp only [carryOut, failed]
    rw [unloaded]
    refine ⟨Or.inr ⟨rfl, rfl, _, _, rfl⟩, ?_, ?_⟩
    · rintro _ same
      obtain rfl := Except.error.inj (loading.symm.trans same)
      exact ⟨rfl, rfl, rfl⟩
    · intro context loaded
      rw [loading] at loaded
      cases loaded
  | ok context =>
    have loaded : Context.load launch.build world.directory launch.env launch.now
        invocation.dataFolder (overrides invocation) = .ok context := loading
    obtain ⟨data, settings⟩ := load_folders loaded
    have here : context.dataFolder = folder := own _ data
    have asks := apart invocation _ _ read data settings
    have spares := perform_spares context writable asks
    have still := writable.spared spares
    have same : ActionLog.written (perform context world invocation.request).2.directory folder =
        ActionLog.written world.directory folder := by
      rw [ActionLog.written, spares.log, ActionLog.written]
    obtain ⟨given, parsed, named⟩ := Invocation.ofWords_name read
    simp only [carryOut, loaded]
    refine ⟨conclude_told _ _, ?_, ?_⟩
    · intro error failed
      rw [loading] at failed
      cases failed
    intro context' loaded'
    obtain rfl := Except.ok.inj (loading.symm.trans loaded')
    refine ⟨rfl, same, fun off => by simp [log, off], fun on => ?_⟩
    refine ⟨_, actionOf_tells parsed named, by simp [log, on], by simp [log, on, here], ?_⟩
    simp only [log, on, if_true, here]
    rw [ActionLog.lines_add still, same]

theorem Launch.keepsApart_of {data settings : String}
    (read : Invocation.ofWords launch.env launch.words = .ok invocation)
    (data_ok : Folders.data invocation.dataFolder launch.env = .ok data)
    (settings_ok : Folders.settings launch.env = .ok settings)
    (apart : invocation.request.Apart folder data settings) : launch.KeepsApart folder := by
  intro invocation' data' settings' read' data_ok' settings_ok'
  obtain rfl := Except.ok.inj (read.symm.trans read')
  obtain rfl := Except.ok.inj (data_ok.symm.trans data_ok')
  obtain rfl := Except.ok.inj (settings_ok.symm.trans settings_ok')
  exact apart

theorem writable_empty : ActionLog.Writable {} "data" where
  made := by decide +kernel
  reached := ⟨["data", "action.log"], by decide +kernel⟩
  log := by
    have there : ActionLog.place "data" = ["data", "action.log"] := by decide +kernel
    rw [there]
    trivial

/-- Of any row of launches each one is accounted for, if at first the log can be written, and no launch
puts a file or a folder in its place or a file on the way to it, be it an export, the settings or the
data of another folder. After each of them the log can be written again. -/
theorem launches_accounted {folder : String} {world : World}
    (writable : ActionLog.Writable world.directory folder) {launches : List Launch}
    (apart : ∀ launch ∈ launches, launch.KeepsApart folder) :
    ActionLog.Writable (after world launches).directory folder ∧
      ∀ (launch : Launch) (invocation : Invocation), launch.KeepsApart folder →
        Invocation.ofWords launch.env launch.words = .ok invocation →
        (∀ data, Folders.data invocation.dataFolder launch.env = .ok data → data = folder) →
        Accounted folder launch invocation (after world launches)
          (launch.run (after world launches)).1 (launch.run (after world launches)).2 := by
  have still := after_writable writable apart
  exact ⟨still, fun _ _ own_apart read own => Launch.run_accounted still own_apart read own⟩

/-- A project is created after the log was switched off. -/
theorem launches_accounted_sample :
    let launch (words : List String) : Launch :=
      ⟨⟨"0.1.0", "", ""⟩, [("BDT_DATA_DIR", "data"), ("BDT_CONFIG_DIR", "settings")], .epoch, 0, words⟩
    let off := launch ["config", "set", "action-log", "off"]
    let create := launch ["project", "create", "Shop"]
    let world : World := ⟨{}, .sequential "id"⟩
    ActionLog.Writable world.directory "data" ∧ (∀ launch ∈ [off], launch.KeepsApart "data") ∧
      create.KeepsApart "data" ∧
      ∃ invocation, Invocation.ofWords create.env create.words = .ok invocation ∧
        Accounted "data" create invocation (after world [off]) (create.run (after world [off])).1
          (create.run (after world [off])).2 := by
  intro launch off create world
  have settings_ok : Folders.settings off.env = .ok "settings" := by decide +kernel
  have off_read : Invocation.ofWords off.env off.words =
      .ok ⟨false, some "data", none, .folder (.setSetting "action-log" "off")⟩ := by rfl
  have create_read : Invocation.ofWords create.env create.words =
      .ok ⟨false, some "data", none, .store (.createProject "Shop" none)⟩ := by rfl
  have off_apart : off.KeepsApart "data" := by
    refine Launch.keepsApart_of off_read rfl settings_ok ⟨fun other => absurd rfl other, ?_, ?_⟩
    · exact fun _ _ _ => ⟨by decide +kernel, by decide +kernel⟩
    · rintro _ _ ⟨⟩
  have create_apart : create.KeepsApart "data" := by
    refine Launch.keepsApart_of create_read rfl settings_ok ⟨fun other => absurd rfl other, ?_, ?_⟩
    · rintro _ _ ⟨⟩
    · rintro _ _ ⟨⟩
  have apart : ∀ launch ∈ [off], launch.KeepsApart "data" := List.forall_mem_singleton.mpr off_apart
  have writable : ActionLog.Writable world.directory "data" := writable_empty
  obtain ⟨_, accounted⟩ := launches_accounted writable apart
  refine ⟨writable, apart, create_apart, _, create_read, ?_⟩
  exact accounted create _ create_apart create_read fun data same => (Except.ok.inj same).symm

-- The folder for the settings is made where the log would be.
/-- Settings that are stored below the place of the log leave no room for it. -/
theorem log_lost_to_settings :
    let launch : Launch :=
      ⟨⟨"0.1.0", "", ""⟩, [("BDT_DATA_DIR", "data"), ("BDT_CONFIG_DIR", "data/action.log")], .epoch, 0,
        ["config", "set", "backend", "file"]⟩
    let invocation : Invocation := ⟨false, some "data", none, .folder (.setSetting "backend" "file")⟩
    let world : World := ⟨{}, .sequential "id"⟩
    ActionLog.Writable world.directory "data" ∧
      Invocation.ofWords launch.env launch.words = .ok invocation ∧
      Folders.data invocation.dataFolder launch.env = .ok "data" ∧
      (launch.context world.directory invocation).toOption.map (·.settings.actionLog.value) =
        some true ∧
      (launch.run world).1.code = 0 ∧
      ¬∃ line, ActionLog.lines (ActionLog.written (launch.run world).2.directory "data") =
        ActionLog.lines (ActionLog.written world.directory "data") ++ [line] := by
  intro launch invocation world
  have none_after : ActionLog.lines (ActionLog.written (launch.run world).2.directory "data") = [] := by
    decide +kernel
  refine ⟨writable_empty, by rfl, rfl, by decide +kernel, by decide +kernel, ?_⟩
  rintro ⟨line, one⟩
  rw [none_after] at one
  simp at one

end Program

end Testbook
