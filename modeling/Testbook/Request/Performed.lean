import Testbook.Action.Log
import Testbook.Answer.Basic
import Testbook.Base64
import Testbook.Context
import Testbook.MediaType
import Testbook.Report.History
import Testbook.Report.Markdown
import Testbook.Request.Basic
import Testbook.Session

/-! Carrying out requests. A request that fails has stored nothing. -/

set_option autoImplicit false

namespace Testbook

namespace Store

def note (store : Store) (project run : String) (target : Target) (text : String) :
    Except Error (Option String) × Store :=
  match target with
  | .step step =>
    let (answer, store) := store.setStepNote project run step text
    (answer.map fun r => (r.findStep? step).bind (·.note), store)
  | .scenario scenario =>
    let (answer, store) := store.setScenarioNote project run scenario text
    (answer.map fun r => (r.findScenario? scenario).bind (·.note), store)

def attach (store : Store) (project run : String) (target : Target)
    (attachment : String → Attachment) : Except Error Attachment × Store :=
  let (id, store) := store.takeId
  let (answer, store) :=
    match target with
    | .step step => store.addStepAttachment project run step (attachment id)
    | .scenario scenario => store.addScenarioAttachment project run scenario (attachment id)
  (answer.map fun _ => attachment id, store)

end Store

namespace Session

variable {α : Type}

/-- The name of a run's feature; empty when the feature is not there. -/
def featureName (session : Session) (project : String) (run : Run) : String :=
  match session.store.getFeature project run.featureId with
  | .ok feature => feature.name
  | .error _ => ""

def answer (session : Session) (f : Store → Except Error α × Store) (present : α → Answer) :
    Except Error Answer × Session :=
  let (result, session) := session.act f
  (result.map present, session)

def answerRun (session : Session) (project : String) (f : Store → Except Error Run × Store) :
    Except Error Answer × Session :=
  let (result, session) := session.act f
  (result.map fun run => .run (session.featureName project run) run none, session)

def ask (session : Session) (f : Store → Except Error Answer) : Except Error Answer × Session :=
  (f session.store, session)

def isFeatureFile (path : String) : Bool :=
  (FilePath.extension? path).any (·.toLower = "feature")

def upload (session : Session) (project file : String) : Except Error Answer × Session :=
  if !isFeatureFile file then (.error (.refused (.notFeatureFile file)), session)
  else
    match session.directory.readText file with
    | .error fault => (.error (.file fault), session)
    | .ok content =>
      let name := (FilePath.fileName? file).getD file
      let (result, session) := session.act (·.uploadFeature project name content)
      (do
        let upload ← result
        let feature ← session.store.getFeature project upload.feature
        .ok (.uploaded upload feature name), session)

def mimeOf (file : String) : Option String → Except Error String
  | none => .ok (MediaType.ofPath file)
  | some named =>
    match Text.trimmed? named with
    | some mime => .ok mime
    | none => .error (.refused .emptyMime)

def attach (session : Session) (project run : String) (target : Target) (file : String)
    (mime : Option String) (now : Instant) : Except Error Answer × Session :=
  match (session.directory.readBytes file).mapError Error.file, mimeOf file mime with
  | .error e, _ => (.error e, session)
  | _, .error e => (.error e, session)
  | .ok bytes, .ok mime =>
    session.answer
      (fun store => store.attach project run target fun id =>
        { id
          name := (FilePath.fileName? file).getD "attachment"
          kind := AttachmentKind.ofMime mime
          url := "data:" ++ mime ++ ";base64," ++ Base64.encode bytes
          uploadedAt := now })
      fun attachment => .attached run target attachment mime bytes.size

def exportProject (session : Session) (project : String) (output : Option String) :
    Except Error Answer × Session :=
  match session.store.exportProject project, output with
  | .error e, _ => (.error e, session)
  | .ok document, none => (.ok (.document document), session)
  | .ok document, some path =>
    match session.directory.writeText path document with
    | .error fault => (.error (.file fault), session)
    | .ok directory =>
      (.ok (.exported project path document.utf8ByteSize), { session with directory })

def importProject (session : Session) (file : String) : Except Error Answer × Session :=
  match session.directory.readText file with
  | .error fault => (.error (.file fault), session)
  | .ok document => session.answer (·.importProject document) .project

end Session

namespace Store

def documentation (store : Store) (project feature : String) (run : Option String) :
    Except Error Answer := do
  let template ← store.getFeature project feature
  match run with
  | none => .ok (.documentation template.id none (Report.Markdown.render template none))
  | some id =>
    let run ← store.getRun project id
    if run.featureId = template.id then
      .ok (.documentation template.id (some run.id) (Report.Markdown.render template (some run)))
    else .error (.refused (.foreignRun run.id run.featureId template.id))

def history (store : Store) (project feature : String) (environment : Option Environment) :
    Except Error Answer := do
  let found ← store.getProject project
  let template ← found.getFeature feature
  .ok (.history template (Report.history found feature environment))

def comparison (store : Store) (project feature : String) (environment : Environment)
    (before after : String) : Except Error Answer := do
  let found ← store.getProject project
  let comparison ←
    Report.Comparison.ofVersions found feature environment (Text.trim before) (Text.trim after)
  .ok (.comparison feature environment comparison)

end Store

def StoreRequest.perform (context : Context) (session : Session) :
    StoreRequest → Except Error Answer × Session
  | createProject name description =>
    session.answer (·.createProject name description) .project
  | listProjects => session.ask fun store => store.listProjects.map .projects
  | showProject project => session.ask fun store => (store.getProject project).map .projectInFull
  | deleteProject project =>
    session.answer (·.deleteProject project) fun _ => .projectDeleted project
  | exportProject project output => session.exportProject project output
  | importProject file => session.importProject file
  | uploadFeature project file => session.upload project file
  | listFeatures project =>
    session.ask fun store => (store.getProject project).map fun p => .features p.features
  | showFeature project feature =>
    session.ask fun store => (store.getFeature project feature).map .feature
  | startRun project feature environment version =>
    session.answerRun project
      (·.startRun project feature (context.environment environment) version context.now)
  | openRun project feature environment version =>
    session.answerRun project
      (·.openRun project feature (context.environment environment) version context.now)
  | listRuns project feature environment =>
    session.ask fun store => (store.listRuns project feature environment).map .runs
  | showRun project run status =>
    session.ask fun store => (store.getRun project run).map fun r =>
      .run (session.featureName project r) r status
  | markStep project run step outcome =>
    session.answer (·.setStepResult project run step outcome) fun (applied, r) =>
      .recorded applied r (Target.step step).label outcome
  | markScenario project run scenario outcome =>
    session.answer (·.setScenarioResult project run scenario outcome) fun (applied, r) =>
      .recorded applied r (Target.scenario scenario).label outcome
  | markScenarios project run outcome scenarios =>
    session.answer (·.bulkSetResult project run scenarios outcome) fun (applied, r) =>
      .recorded applied r (Decimal.counted scenarios.length "scenario") outcome
  | note project run target text =>
    session.answer (·.note project run target text) fun noted => .noted run target noted
  | attach project run target file mime => session.attach project run target file mime context.now
  | completeRun project run =>
    session.answer (·.completeRun project run context.now) fun found => .completed run found
  | resetRun project run => session.answerRun project (·.resetRun project run)
  | resetFeatureRuns project feature =>
    session.answer (·.resetFeatureRuns project feature) fun n => .runsReset project (some feature) n
  | resetAllRuns project =>
    session.answer (·.resetAllRuns project) fun n => .runsReset project none n
  | history project feature environment =>
    session.ask (·.history project feature environment)
  | compare project feature environment before after =>
    session.ask (·.comparison project feature (context.environment environment) before after)
  | render project feature run => session.ask (·.documentation project feature run)
  | systemInfo =>
    session.ask fun store => store.listProjects.map fun projects =>
      .info
        { build := context.build
          dataFolder := context.dataFolder
          settingsFolder := context.settingsFolder
          backend := session.medium.kind
          backendSource := context.settings.backend.source
          location := session.medium.location
          projects := projects.length }

def compactLog (directory : Directory) (folder : String) : Except Error Answer × Directory :=
  match Medium.begin directory folder .file with
  | (.error e, directory) => (.error e, directory)
  | (.ok medium, directory) =>
    let session : Session := ⟨directory, medium, .sequential ""⟩
    match session.backend.compact with
    | .error e => (.error e, directory)
    | .ok (lines, backend) => (.ok (.compacted medium.location lines), (session.keep backend).directory)

def FolderRequest.perform (context : Context) (directory : Directory) :
    FolderRequest → Except Error Answer × Directory
  | getSetting key =>
    ((SettingsFile.get directory context.settingsFolder key).map (.setting key), directory)
  | setSetting key value =>
    let (stored, directory) := SettingsFile.set directory context.settingsFolder key value
    (stored.map fun stored => .settingStored key stored (SettingsFile.path context.settingsFolder),
      directory)
  | listSettings =>
    (.ok (.settings (SettingsFile.path context.settingsFolder) context.settings), directory)
  | compactLog =>
    match context.settings.backend.value with
    | .file => Testbook.compactLog directory context.dataFolder
    | other => (.error (.refused (.notCompactable other)), directory)
  | recentActions limit =>
    (((ActionLog.read directory context.dataFolder).mapError .file).map fun actions =>
      .actions (ActionLog.recent limit actions), directory)

end Testbook
