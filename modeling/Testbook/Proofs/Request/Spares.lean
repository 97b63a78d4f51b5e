import Testbook.Program
import Testbook.Proofs.Action.Log
import Testbook.Proofs.Store.Writes

/-! What a request can make of the directory, and that it leaves the action log alone: a request writes
to the files of the store, to the settings or to a file that it names, and makes folders on the way to
them. -/

set_option autoImplicit false

namespace Testbook

open Directory FilePath

/-! ### What a request makes of the directory -/

inductive Session.Leaves (session : Session) : StoreRequest → Directory → Prop where
  | unchanged {request : StoreRequest} : Leaves session request session.directory
  | kept {request : StoreRequest} {backend : Backend} (writes : session.backend.Writes backend) :
      Leaves session request (session.keep backend).directory
  | exported {project path document : String} {later : Directory}
      (found : session.store.exportProject project = .ok document)
      (written : session.directory.writeText path document = .ok later) :
      Leaves session (.exportProject project (some path)) later

namespace Store

theorem note_writes (store : Store) (project run : String) (target : Target) (text : String) :
    store.backend.Writes (store.note project run target text).2.backend := by
  cases target with
  | step => exact store.edit_writes project _
  | scenario => exact store.edit_writes project _

theorem attach_writes (store : Store) (project run : String) (target : Target)
    (attachment : String → Attachment) :
    store.backend.Writes (store.attach project run target attachment).2.backend := by
  cases target with
  | step => exact store.takeId.2.edit_writes project _
  | scenario => exact store.takeId.2.edit_writes project _

end Store

namespace Session

variable {α : Type} {session : Session} {request : StoreRequest}

theorem act_leaves {f : Store → Except Error α × Store}
    (writes : ∀ store : Store, store.backend.Writes (f store).2.backend) :
    session.Leaves request (session.act f).2.directory :=
  .kept (writes session.store)

theorem answer_leaves {f : Store → Except Error α × Store}
    (writes : ∀ store : Store, store.backend.Writes (f store).2.backend) (present : α → Answer) :
    session.Leaves request (session.answer f present).2.directory :=
  act_leaves writes

theorem answerRun_leaves (project : String) {f : Store → Except Error Run × Store}
    (writes : ∀ store : Store, store.backend.Writes (f store).2.backend) :
    session.Leaves request (session.answerRun project f).2.directory :=
  act_leaves writes

theorem upload_leaves (project file : String) :
    session.Leaves request (session.upload project file).2.directory := by
  unfold upload
  split
  · exact .unchanged
  split
  · exact .unchanged
  · exact act_leaves fun store => store.uploadFeature_writes project _ _

theorem attach_leaves (project run : String) (target : Target) (file : String) (mime : Option String)
    (now : Instant) :
    session.Leaves request (session.attach project run target file mime now).2.directory := by
  unfold attach
  split
  · exact .unchanged
  · exact .unchanged
  · exact answer_leaves (fun store => store.attach_writes project run target _) _

theorem importProject_leaves (file : String) :
    session.Leaves request (session.importProject file).2.directory := by
  unfold importProject
  split
  · exact .unchanged
  · exact answer_leaves (fun store => store.importProject_writes _) _

theorem exportProject_leaves (project : String) (output : Option String) :
    session.Leaves (.exportProject project output)
      (session.exportProject project output).2.directory := by
  unfold exportProject
  split
  · exact .unchanged
  · exact .unchanged
  · rename_i found
    split
    · exact .unchanged
    · rename_i written
      exact .exported found written

end Session

theorem StoreRequest.perform_leaves (context : Context) (session : Session) (request : StoreRequest) :
    session.Leaves request (request.perform context session).2.directory := by
  cases request with
  | createProject name description =>
    exact Session.answer_leaves (fun store => store.createProject_writes name description) _
  | deleteProject project =>
    exact Session.answer_leaves (fun store => store.deleteProject_writes project) _
  | exportProject project output => exact Session.exportProject_leaves project output
  | importProject file => exact Session.importProject_leaves file
  | uploadFeature project file => exact Session.upload_leaves project file
  | startRun project feature environment version =>
    rw [perform]
    exact Session.answerRun_leaves project fun store =>
      store.startRun_writes project feature (context.environment environment) version context.now
  | openRun project feature environment version =>
    rw [perform]
    exact Session.answerRun_leaves project fun store =>
      store.openRun_writes project feature (context.environment environment) version context.now
  | markStep project =>
    exact Session.answer_leaves (fun store => store.edit_writes project _) _
  | markScenario project =>
    exact Session.answer_leaves (fun store => store.edit_writes project _) _
  | markScenarios project =>
    exact Session.answer_leaves (fun store => store.edit_writes project _) _
  | note project run target text =>
    exact Session.answer_leaves (fun store => store.note_writes project run target text) _
  | attach project run target file mime =>
    exact Session.attach_leaves project run target file mime context.now
  | completeRun project =>
    exact Session.answer_leaves (fun store => store.edit_writes project _) _
  | resetRun project =>
    rw [perform]
    exact Session.answerRun_leaves project fun store => store.edit_writes project _
  | resetFeatureRuns project =>
    exact Session.answer_leaves (fun store => store.edit_writes project _) _
  | resetAllRuns project =>
    exact Session.answer_leaves (fun store => store.edit_writes project _) _
  | listProjects | showProject | listFeatures | showFeature | listRuns | showRun | history | compare
  | render | systemInfo => exact .unchanged

/-! ### Where a store is kept -/

/-- A store was begun in a folder: in memory with nothing in it, or in a file of the folder. -/
inductive Medium.Within (folder : String) (directory : Directory) : Medium → Prop where
  | shelf : Within folder directory (.shelf [])
  | log (has : directory.HasFolder folder) : Within folder directory (.log (join folder logName))
  | database (has : directory.HasFolder folder) :
      Within folder directory (.database (join folder databaseName))

/-- A folder for data leaves room for the log of a folder, which may be another: the log is no folder on
the way to it, and no file in it takes the place of a folder on the way to the log. What stands on the way
to its own folder is a folder already. -/
structure Folders.Beside (folder data : String) : Prop where
  folders : ActionLog.place folder ∉ way data
  log : goal (join data Medium.logName) ∈ way folder → goal (join data Medium.logName) ∈ way data
  database : goal (join data Medium.databaseName) ∈ way folder →
    goal (join data Medium.databaseName) ∈ way data
  actions : ActionLog.place data ∈ way folder → ActionLog.place data ∈ way data

/-- What becomes of the directory where a store is begun: folders are made on the way to the folder, and
then perhaps a file in it, where no folder stands. -/
inductive Medium.Begun (data : String) (d : Directory) : Directory → Prop where
  | folders {made : Directory} (grown : Grown (way data) d made) : Begun data d made
  | file {made : Directory} {name : String} {entry : Entry} (grown : Grown (way data) d made)
      (has : made.HasFolder data) (own : name = logName ∨ name = databaseName)
      (free : made.entry? (goal (join data name)) ≠ some .folder) :
      Begun data d (made.put (goal (join data name)) entry)

section Files

variable {folder data name : String} {d made : Directory} {entry : Entry}

theorem Medium.logName_isFileName : IsFileName Medium.logName :=
  ⟨⟨by decide, by decide⟩, by decide, by decide⟩

theorem Medium.databaseName_isFileName : IsFileName Medium.databaseName :=
  ⟨⟨by decide, by decide⟩, by decide, by decide⟩

def Medium.BeginsWithin (data : String) (d : Directory) (begun : Except Error Medium × Directory) : Prop :=
  Medium.Begun data d begun.2 ∧ ∀ medium, begun.1 = .ok medium → medium.Within data begun.2

theorem Medium.BeginsWithin.ok {medium : Medium} (begun : Medium.Begun data d made)
    (within : medium.Within data made) : Medium.BeginsWithin data d (.ok medium, made) := by
  refine ⟨begun, ?_⟩
  rintro _ ⟨⟩
  exact within

theorem Medium.BeginsWithin.error {error : Error} (grown : Grown (way data) d made) :
    Medium.BeginsWithin data d (.error error, made) := by
  refine ⟨.folders grown, ?_⟩
  rintro _ ⟨⟩

theorem Medium.beginLog_begins (d : Directory) (data : String) :
    Medium.BeginsWithin data d (beginLog d data) := by
  have grown := makeFolders_grown d data
  have has := @makeFolders_hasFolder d (d.makeFolders data).2 data
  unfold beginLog
  rcases done : d.makeFolders data with ⟨answer, made⟩
  rw [done] at grown has
  cases answer with
  | error fault => exact .error grown
  | ok =>
    dsimp only at grown has ⊢
    split
    · exact .ok (.folders grown) (.log (has rfl))
    · split
      · rename_i begun written
        obtain ⟨there, reached, rfl⟩ := map_eq_ok.mp written
        obtain ⟨_, _, leads, free⟩ := filePlace_eq_ok.mp reached
        obtain rfl : there = goal (join data logName) := walk_goal leads
        exact .ok (.file grown (has rfl) (Or.inl rfl) free)
          (.log ((foldersStay_put free _).hasFolder (has rfl)))
      · exact .error grown

theorem Medium.beginDatabase_begins (d : Directory) (data : String) :
    Medium.BeginsWithin data d (beginDatabase d data) := by
  have grown := makeFolders_grown d data
  have has := @makeFolders_hasFolder d (d.makeFolders data).2 data
  unfold beginDatabase
  rcases done : d.makeFolders data with ⟨answer, made⟩
  rw [done] at grown has
  cases answer with
  | error fault => exact .error grown
  | ok =>
    dsimp only at grown has ⊢
    split
    · exact .error grown
    · rename_i there leads
      obtain rfl : there = goal (join data databaseName) := place_goal leads
      have put (free : made.entry? (goal (join data databaseName)) ≠ some .folder) (entry : Entry) :
          Medium.BeginsWithin data d
            (.ok (.database (join data databaseName)), made.put (goal (join data databaseName)) entry) :=
        .ok (.file grown (has rfl) (Or.inr rfl) free)
          (.database ((foldersStay_put free entry).hasFolder (has rfl)))
      split
      · exact .ok (.folders grown) (.database (has rfl))
      · rename_i bytes stands
        split
        · exact put (by simp [stands]) _
        · exact .error grown
      · exact .error grown
      · rename_i nothing
        exact put (by simp [nothing]) _

theorem Medium.begin_begins (d : Directory) (data : String) (kind : BackendKind) :
    Medium.BeginsWithin data d (Medium.begin d data kind) := by
  cases kind with
  | memory => exact .ok (.folders (.refl _ d)) .shelf
  | file => exact beginLog_begins d data
  | sqlite => exact beginDatabase_begins d data

theorem Medium.begin_within {medium : Medium} {kind : BackendKind}
    (begins : Medium.begin d data kind = (.ok medium, made)) : medium.Within data made := by
  have within := (Medium.begin_begins d data kind).2 medium
  rw [begins] at within
  exact within rfl

theorem spares_put (named : IsFileName name) (other : name ≠ ActionLog.fileName)
    (off : goal (join data name) ∉ way folder) (entry : Entry) :
    ActionLog.Spares folder d (d.put (goal (join data name)) entry) := by
  refine .put (goal_join_not_fixed data named) entry ?_ off
  rw [goal_join data named, ActionLog.place_eq]
  intro same
  exact other (by simpa using congrArg List.getLast? same)

theorem Medium.Begun.spares {later : Directory} (begun : Medium.Begun data d later)
    (beside : Folders.Beside folder data) : ActionLog.Spares folder d later := by
  cases begun with
  | folders grown => exact .of_grown grown beside.folders
  | file grown has own free =>
    have first : ActionLog.Spares folder d _ := .of_grown grown beside.folders
    rcases own with rfl | rfl
    · exact first.trans (spares_put logName_isFileName (by decide)
        (fun on => free (has.folders _ (beside.log on))) _)
    · exact first.trans (spares_put databaseName_isFileName (by decide)
        (fun on => free (has.folders _ (beside.database on))) _)

/-- What is put in the place of a file of a store. A folder that stands there is put back as it is. -/
theorem Session.place_spares {session : Session} (named : IsFileName name)
    (other : name ≠ ActionLog.fileName) (has : session.directory.HasFolder data)
    (own : goal (join data name) ∈ way folder → goal (join data name) ∈ way data)
    (steady : session.directory.find (join data name) = .ok .folder → entry = .folder) :
    ActionLog.Spares folder session.directory (session.place (join data name) entry).directory := by
  unfold Session.place
  split
  · rename_i there leads
    obtain rfl : there = goal (join data name) := place_goal leads
    by_cases on : goal (join data name) ∈ way folder
    · have stands := has.folders _ (own on)
      have found : session.directory.find (join data name) = .ok .folder := by
        simp [Directory.find, leads, stands, bind, Except.bind]
      have same (p : Place) : entry? (session.directory.put (goal (join data name)) entry) p =
          session.directory.entry? p := by
        rw [entry?_put (goal_join_not_fixed data named), steady found]
        split
        · rename_i here
          rw [here, stands]
        · rfl
      exact ⟨same _, fun p _ => Or.inl (same p)⟩
    · exact spares_put named other on entry
  · exact .refl folder session.directory

theorem Session.keep_spares {session : Session} {backend : Backend} (beside : Folders.Beside folder data)
    (within : session.medium.Within data session.directory) (writes : session.backend.Writes backend) :
    ActionLog.Spares folder session.directory (session.keep backend).directory := by
  obtain ⟨directory, medium, ids⟩ := session
  cases within with
  | shelf => cases backend <;> exact .refl folder directory
  | log has =>
    cases backend with
    | log held =>
      refine place_spares Medium.logName_isFileName (by decide) has beside.log ?_
      intro found
      have folder : Session.backend ⟨directory, .log (join data Medium.logName), ids⟩ =
          .log .folder := by
        simp only [Session.backend, found]
        rfl
      have kept := writes.of_folder (Or.inl folder)
      rw [folder] at kept
      exact Backend.log.inj kept
    | memory | table => exact .refl folder directory
  | database has =>
    cases backend with
    | table held =>
      refine place_spares Medium.databaseName_isFileName (by decide) has beside.database ?_
      intro found
      have folder : Session.backend ⟨directory, .database (join data Medium.databaseName), ids⟩ =
          .table .folder := by
        simp only [Session.backend, found]
        rfl
      have kept := writes.of_folder (Or.inr folder)
      rw [folder] at kept
      exact Backend.table.inj kept
    | memory | log => exact .refl folder directory

end Files

/-! ### Requests -/

/-- A request, with its folders for data and settings, is kept apart from the log of a folder: no folder
is made in its place, and no file is written there or on the way to it. -/
structure Request.Apart (folder data settings : String) (request : Request) : Prop where
  elsewhere : data ≠ folder → Folders.Beside folder data
  settings : ∀ key value, request = .folder (.setSetting key value) →
    ActionLog.place folder ∉ way settings ∧ goal (SettingsFile.path settings) ∉ way folder
  exports : ∀ project path, request = .store (.exportProject project (some path)) →
    goal path ≠ ActionLog.place folder ∧ (goal path ∈ way folder → goal path ∈ way data)

variable {folder data settings : String} {d : Directory}

theorem ActionLog.Writable.beside (writable : ActionLog.Writable d folder) :
    Folders.Beside folder folder where
  folders := (ActionLog.writable_iff.mp writable).2.2.1
  log := id
  database := id
  actions := id

theorem Request.Apart.beside {request : Request} (apart : Request.Apart folder data settings request)
    (writable : ActionLog.Writable d folder) : Folders.Beside folder data := by
  by_cases same : data = folder
  · rw [same]
    exact writable.beside
  · exact apart.elsewhere same

theorem Session.Leaves.spares {session : Session} {request : StoreRequest} {later : Directory}
    (leaves : session.Leaves request later) (beside : Folders.Beside folder data)
    (apart : Request.Apart folder data settings (.store request))
    (within : session.medium.Within data session.directory) :
    ActionLog.Spares folder session.directory later := by
  cases leaves with
  | unchanged => exact .refl folder _
  | kept writes => exact Session.keep_spares beside within writes
  | @exported project path document _ found written =>
    obtain ⟨other, own⟩ := apart.exports project path rfl
    obtain ⟨there, reached, rfl⟩ := map_eq_ok.mp written
    obtain ⟨_, _, leads, free⟩ := filePlace_eq_ok.mp reached
    obtain rfl : there = goal path := walk_goal leads
    have off : goal path ∉ way folder := by
      obtain ⟨directory, medium, ids⟩ := session
      cases within with
      | shelf => cases found
      | log has => exact fun on => free (has.folders _ (own on))
      | database has => exact fun on => free (has.folders _ (own on))
    exact .put (not_fixed free) _ other off

theorem SettingsFile.fileName_isFileName : IsFileName SettingsFile.fileName :=
  ⟨⟨by decide, by decide⟩, by decide, by decide⟩

theorem SettingsFile.set_spares (d : Directory) (key value : String)
    (apart : ActionLog.place folder ∉ way settings)
    (off : goal (SettingsFile.path settings) ∉ way folder) :
    ActionLog.Spares folder d (SettingsFile.set d settings key value).2 := by
  have made_spares : ActionLog.Spares folder d (d.makeFolders settings).2 :=
    .of_grown (makeFolders_grown d settings) apart
  unfold SettingsFile.set
  split
  · exact .refl folder d
  · simp only [SettingsFile.save]
    split
    · rename_i done
      simpa [done] using made_spares
    · rename_i made done
      rw [done] at made_spares
      split
      · rename_i wrote
        obtain ⟨there, reached, rfl⟩ := map_eq_ok.mp wrote
        obtain ⟨_, _, leads, _⟩ := filePlace_eq_ok.mp reached
        obtain rfl : there = goal (SettingsFile.path settings) := walk_goal leads
        exact made_spares.trans (spares_put fileName_isFileName (by decide) off _)
      · exact made_spares

theorem compactLog_spares (beside : Folders.Beside folder data) (d : Directory) :
    ActionLog.Spares folder d (compactLog d data).2 := by
  have begun_spares := (Medium.begin_begins d data .file).1.spares beside
  unfold compactLog
  split
  · rename_i begins
    simpa [begins] using begun_spares
  · rename_i medium begun begins
    rw [begins] at begun_spares
    dsimp only
    split
    · exact begun_spares
    · rename_i compacted
      exact begun_spares.trans
        (Session.keep_spares beside (Medium.begin_within begins) (.compact compacted))

theorem FolderRequest.perform_spares (context : Context) {request : FolderRequest} (d : Directory)
    (beside : Folders.Beside folder context.dataFolder)
    (apart : Request.Apart folder context.dataFolder context.settingsFolder (.folder request)) :
    ActionLog.Spares folder d (request.perform context d).2 := by
  cases request with
  | setSetting key value =>
    obtain ⟨off, off'⟩ := apart.settings key value rfl
    exact SettingsFile.set_spares d key value off off'
  | compactLog =>
    unfold perform
    dsimp only
    split
    · exact compactLog_spares beside d
    · exact .refl folder d
  | getSetting | listSettings | recentActions => exact .refl folder d

/-- A request that is kept apart from a log leaves it alone. -/
theorem Program.perform_spares (context : Context) {world : Program.World} {request : Request}
    (writable : ActionLog.Writable world.directory folder)
    (apart : Request.Apart folder context.dataFolder context.settingsFolder request) :
    ActionLog.Spares folder world.directory (Program.perform context world request).2.directory := by
  have beside := apart.beside writable
  cases request with
  | folder request => exact FolderRequest.perform_spares context world.directory beside apart
  | store request =>
    have begun_spares := (Medium.begin_begins world.directory context.dataFolder
      context.settings.backend.value).1.spares beside
    unfold Program.perform
    dsimp only
    split
    · rename_i begins
      simpa [begins] using begun_spares
    · rename_i medium begun begins
      rw [begins] at begun_spares
      exact begun_spares.trans
        ((request.perform_leaves context ⟨begun, medium, world.ids⟩).spares beside apart
          (Medium.begin_within begins))

end Testbook
