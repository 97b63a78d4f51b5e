import Testbook.Answer.Basic

/-! Answers in plain text, for people. Every answer is one line or more, without an end of the last
one. -/

set_option autoImplicit false

namespace Testbook.Answer

def joinLines (lines : List String) : String := Text.joinWith "\n" lines

def listing (none heading : String) (lines : List String) : String :=
  if lines.isEmpty then none else joinLines (heading :: lines)

def summaryLine (s : RunSummary) : String :=
  Decimal.text s.total ++ " total: " ++ Decimal.text s.passed ++ " passed, " ++
    Decimal.text s.failed ++ " failed, " ++ Decimal.text s.skipped ++ " skipped, " ++
    Decimal.text s.untested ++ " untested"

/-- The text with blanks at the beginning of every line but the first. -/
def indented (text : String) : String :=
  String.ofList (text.toList.flatMap fun c => if c = '\n' then ['\n', ' ', ' '] else [c])

def projectLine (p : Project) : String :=
  p.id ++ " " ++ p.name ++ " (" ++ Decimal.counted p.features.length "feature" ++ ", " ++
    Decimal.counted p.runs.length "run" ++ ")" ++ p.description.elim "" ("\n  " ++ ·)

def featureOfProjectLine (f : Feature) : String :=
  "  " ++ f.id ++ " " ++ f.name ++ " [" ++ f.source.name ++ "] " ++
    Decimal.counted f.scenarios.length "scenario"

def runOfProjectLine (r : Run) : String :=
  "  " ++ r.id ++ " " ++ r.environment.name ++ " " ++ r.version ++ " " ++ r.status.name ++
    " (passed " ++ Decimal.text r.summary.passed ++ ", failed " ++ Decimal.text r.summary.failed ++
    ", untested " ++ Decimal.text r.summary.untested ++ ")"

/-- The runs stored last come first. -/
def projectLines (p : Project) : List String :=
  [p.id ++ " " ++ p.name] ++ (p.description.map ("  " ++ ·)).toList ++
    ["", "Features (" ++ Decimal.text p.features.length ++ "):"] ++
    p.features.map featureOfProjectLine ++
    ["Runs (" ++ Decimal.text p.runs.length ++ "):"] ++ p.runs.reverse.map runOfProjectLine

def uploadLine (upload : Upload) (feature : Feature) : String :=
  let counts :=
    "(" ++ Decimal.counted feature.scenarios.length "scenario" ++ ", " ++
      Decimal.counted feature.stepCount "step" ++ ")"
  let quoted (id : String) : String := id ++ " \"" ++ feature.name ++ "\" "
  match upload with
  | .added id => "Added feature " ++ quoted id ++ counts
  | .unchanged id => "Feature " ++ quoted id ++ "is unchanged"
  | .replaced id previous purged =>
    "Replaced feature " ++ previous ++ " with " ++ quoted id ++ counts ++ "; removed " ++
      Decimal.counted purged "stale run"

def featureLine (f : Feature) : String :=
  featureOfProjectLine f ++ ", " ++ Decimal.counted f.stepCount "step"

def scenarioOfFeature (s : Scenario) : List String :=
  ("  " ++ s.id ++ " Scenario: " ++ s.name) ::
    s.steps.map fun step => "    " ++ step.id ++ " " ++ step.keyword.name ++ " " ++ step.text

def featureLines (f : Feature) : List String :=
  [f.id ++ " Feature: " ++ f.name] ++ (if f.description = "" then [] else ["  " ++ f.description]) ++
    f.scenarios.flatMap scenarioOfFeature

def annotationLines (margin : String) (note : Option String) (attachments : List Attachment) :
    List String :=
  (note.map (margin ++ "note: " ++ ·)).toList ++
    attachments.map fun a => margin ++ "attachment: " ++ a.name ++ " (" ++ a.kind.name ++ ")"

def stepOfRun (s : Step) : List String :=
  ("    " ++ s.result.icon ++ " " ++ s.id ++ " " ++ s.keyword.name ++ " " ++ s.text) ::
    annotationLines "        " s.note s.attachments

def scenarioOfRun (s : Scenario) : List String :=
  ("  " ++ s.status.icon ++ " " ++ s.id ++ " " ++ s.name) ::
    annotationLines "      " s.note s.attachments ++ s.steps.flatMap stepOfRun

/-- The summary is that of the whole run, whichever scenarios are shown. -/
def runLines (feature : String) (r : Run) (shown : Option Outcome) : List String :=
  [r.id ++ " " ++ feature ++ " (" ++ r.environment.name ++ " " ++ r.version ++ ") " ++ r.status.name ++
      (if r.locked then " [locked]" else ""), "  " ++ summaryLine r.summary] ++
    (shown.map fun outcome => "  showing " ++ outcome.name ++ " scenarios only").toList ++
    (r.withStatus shown).flatMap scenarioOfRun

def runLine (r : Run) : String :=
  "  " ++ r.id ++ " " ++ r.environment.name ++ " " ++ r.version ++ " " ++ r.status.name ++ " [" ++
    summaryLine r.summary ++ "]"

def historyLine (r : Run) : String :=
  "  " ++ r.completedAt.elim "-" (·.offsetStamp) ++ " " ++ r.environment.name ++ " " ++ r.version ++
    " passed " ++ Decimal.text r.summary.passed ++ ", failed " ++ Decimal.text r.summary.failed ++
    ", skipped " ++ Decimal.text r.summary.skipped ++ ", untested " ++
    Decimal.text r.summary.untested

def shownOutcome (o : Outcome) : String := o.icon ++ " " ++ o.name

def comparisonRowLines (row : Report.Row) : List String :=
  ("  " ++ shownOutcome row.before ++ " -> " ++ shownOutcome row.after ++ " " ++ row.name) ::
    (row.change?.map fun change => "      " ++ change.label).toList

def comparisonLines (environment : Environment) (c : Report.Comparison) : List String :=
  [c.beforeVersion ++ " -> " ++ c.afterVersion ++ " in " ++ environment.name ++ " (" ++
      Decimal.counted c.changedRows.length "scenario" ++ " changed)",
    "  passed " ++ Decimal.text c.beforeSummary.passed ++ " -> " ++
      Decimal.text c.afterSummary.passed ++ ", failed " ++ Decimal.text c.beforeSummary.failed ++
      " -> " ++ Decimal.text c.afterSummary.failed] ++
    c.rows.flatMap comparisonRowLines

def settingLine : SettingKey × String × String → String
  | (key, value, source) => "  " ++ key.name ++ " = " ++ value ++ " (" ++ source ++ ")"

def infoLines (i : SystemInfo) : List String :=
  ["Version:  " ++ i.build.version, "Commit:   " ++ i.build.commit, "Built:    " ++ i.build.built,
    "Data:     " ++ i.dataFolder, "Config:   " ++ i.settingsFolder,
    "Backend:  " ++ i.backend.name ++ " (" ++ i.backendSource.name ++ ")",
    "Location: " ++ i.location, "Projects: " ++ Decimal.text i.projects]

def actionLine (a : Action) : String :=
  a.timestamp.plain ++ " " ++ a.command ++ " [" ++ (if a.success then "ok" else "failed") ++ "] " ++
    Decimal.text a.duration ++ "ms" ++ a.error.elim "" (": " ++ ·)

def plain : Answer → String
  | project p => projectLine p
  | projects ps =>
    listing "No projects." (Decimal.counted ps.length "project" ++ ":")
      (ps.map fun p => "  " ++ indented (projectLine p))
  | projectInFull p => joinLines (projectLines p)
  | projectDeleted id => "Deleted project " ++ id
  | document text => text
  | exported id path bytes =>
    "Exported project " ++ id ++ " to " ++ path ++ " (" ++ Decimal.text bytes ++ " bytes)"
  | uploaded upload f _ => uploadLine upload f
  | features fs =>
    listing "No features." (Decimal.counted fs.length "feature" ++ ":") (fs.map featureLine)
  | feature f => joinLines (featureLines f)
  | run name r shown => joinLines (runLines name r shown)
  | runs rs => listing "No runs." (Decimal.counted rs.length "run" ++ ":") (rs.map runLine)
  | recorded true r target outcome =>
    "Marked " ++ target ++ " " ++ shownOutcome outcome ++ "\n  " ++ summaryLine r.summary
  | recorded false r target _ =>
    "Run " ++ r.id ++ " is completed; " ++ target ++
      " left unchanged (reset the run to change results)"
  | noted _ target (some note) => "Note on " ++ target.label ++ ": " ++ note
  | noted _ target none => "Cleared note on " ++ target.label
  | attached _ target a _ bytes =>
    "Attached " ++ a.name ++ " (" ++ a.kind.name ++ ", " ++ Decimal.text bytes ++ " bytes) to " ++
      target.label
  | completed id found =>
    match found, found.bind (·.completedAt) with
    | some r, some time =>
      "Completed run " ++ id ++ " at " ++ time.offsetStamp ++ "\n  " ++ summaryLine r.summary
    | _, _ => "No run " ++ id ++ "; nothing completed"
  | runsReset _ (some id) n => "Reset " ++ Decimal.counted n "run" ++ " of feature " ++ id
  | runsReset id none n => "Deleted " ++ Decimal.counted n "run" ++ " from project " ++ id
  | history f rs =>
    listing ("No completed runs for " ++ f.name ++ ".")
      (f.name ++ " (" ++ Decimal.counted rs.length "completed run" ++ "):") (rs.map historyLine)
  | comparison _ environment c => joinLines (comparisonLines environment c)
  | documentation _ _ markdown => markdown
  | setting key (some value) => key ++ " = " ++ value
  | setting key none => key ++ " is not set"
  | settingStored key value path => "Set " ++ key ++ " = " ++ value ++ " in " ++ path
  | settings path resolved =>
    joinLines (("Config file: " ++ path) :: resolved.entries.map settingLine)
  | info i => joinLines (infoLines i)
  | compacted path lines =>
    "Compacted " ++ path ++ ": " ++ Decimal.counted lines.before "line" ++ " -> " ++
      Decimal.counted lines.after "line"
  | actions list =>
    if list.isEmpty then "No actions logged." else joinLines (list.map actionLine)

end Testbook.Answer
