import Testbook.Answer.Basic
import Testbook.Document.Written

/-! Answers as JSON, for programs. -/

set_option autoImplicit false

namespace Testbook.Answer

def count (n : Nat) : String × Json := ("count", .nat n)

def projectRow (p : Project) : Json :=
  .record <|
    [("id", .text p.id), ("name", .text p.name)] ++
    Json.optional "description" (p.description.map .text) ++
    [("features", .nat p.features.length), ("runs", .nat p.runs.length)]

def featureOfProject (f : Feature) : Json :=
  .record
    [("id", .text f.id), ("name", .text f.name), ("file", .text f.source.name),
      ("scenarios", .nat f.scenarios.length)]

def runOfProject (r : Run) : Json :=
  .record
    [("id", .text r.id), ("feature_id", .text r.featureId),
      ("environment", .text r.environment.name), ("version", .text r.version),
      ("status", .text r.status.name), ("passed", .nat r.summary.passed),
      ("failed", .nat r.summary.failed), ("untested", .nat r.summary.untested)]

/-- The runs stored last come first. -/
def projectInFullJson (p : Project) : Json :=
  .record <|
    [("id", .text p.id), ("name", .text p.name)] ++
    Json.optional "description" (p.description.map .text) ++
    [("features", .list (p.features.map featureOfProject)),
      ("runs", .list (p.runs.reverse.map runOfProject))]

def uploadMembers (upload : Upload) : List (String × Json) :=
  [("outcome", .text upload.name), ("feature_id", .text upload.feature)] ++
    match upload with
    | .replaced _ previous purged =>
      [("previous_id", .text previous), ("purged_runs", .nat purged)]
    | _ => []

def featureRow (f : Feature) : Json :=
  .record
    [("id", .text f.id), ("name", .text f.name), ("file", .text f.source.name),
      ("hash", .text f.source.hash), ("scenarios", .nat f.scenarios.length),
      ("steps", .nat f.stepCount)]

def runRow (r : Run) : Json :=
  .record
    [("id", .text r.id), ("feature_id", .text r.featureId),
      ("environment", .text r.environment.name), ("version", .text r.version),
      ("status", .text r.status.name), ("is_locked", .bool r.locked), ("summary", r.summary.json),
      ("created_at", .text r.createdAt.offsetStamp)]

def completionMember (r : Run) : List (String × Json) :=
  Json.optional "completed_at" (r.completedAt.map fun t => .text t.offsetStamp)

def historyRow (r : Run) : Json :=
  .record <|
    [("run_id", .text r.id), ("environment", .text r.environment.name),
      ("version", .text r.version)] ++
    completionMember r ++ [("summary", r.summary.json)]

def comparisonRow (row : Report.Row) : Json :=
  .record <|
    [("scenario_id", .text row.scenario), ("name", .text row.name), ("before", .text row.before.name),
      ("after", .text row.after.name)] ++
    Json.optional "change" (row.change?.map fun change => .text change.name)

def comparisonMembers (c : Report.Comparison) : List (String × Json) :=
  [("before_run", .text c.beforeRun), ("before_version", .text c.beforeVersion),
    ("before_summary", c.beforeSummary.json), ("after_run", .text c.afterRun),
    ("after_version", .text c.afterVersion), ("after_summary", c.afterSummary.json),
    ("rows", .list (c.rows.map comparisonRow))]

def settingRow : SettingKey × String × String → Json
  | (key, value, source) =>
    .record [("key", .text key.name), ("value", .text value), ("source", .text source)]

def infoJson (i : SystemInfo) : Json :=
  .record
    [("version", .text i.build.version), ("commit", .text i.build.commit), ("built", .text i.build.built),
      ("data_dir", .text i.dataFolder), ("config_dir", .text i.settingsFolder),
      ("backend", .text i.backend.name), ("backend_source", .text i.backendSource.name),
      ("location", .text i.location), ("projects", .nat i.projects)]

def json : Answer → Json
  | project p => projectRow p
  | projects ps => .record [("projects", .list (ps.map projectRow)), count ps.length]
  | projectInFull p => projectInFullJson p
  | projectDeleted id => .record [("id", .text id), ("deleted", .bool true)]
  | document text => .text text
  | exported id path bytes =>
    .sorted [("id", .text id), ("path", .text path), ("bytes", .nat bytes)]
  | uploaded upload f file =>
    .record <|
      uploadMembers upload ++
      [("name", .text f.name), ("file", .text file), ("scenarios", .nat f.scenarios.length),
        ("steps", .nat f.stepCount)]
  | features fs => .record [("features", .list (fs.map featureRow)), count fs.length]
  | feature f => f.json
  | run name r shown =>
    .record <|
      ("feature_name", .text name) ::
      Json.optional "status_filter" (shown.map fun outcome => .text outcome.name) ++
      [("run", (r.showing shown).json)]
  | runs rs => .record [("runs", .list (rs.map runRow)), count rs.length]
  | recorded applied r target outcome =>
    .record
      [("run_id", .text r.id), ("target", .text target), ("outcome", .text outcome.name),
        ("applied", .bool applied), ("summary", r.summary.json)]
  | noted id target note =>
    .record <|
      [("run_id", .text id), ("target", .text target.label)] ++
      Json.optional "note" (note.map .text)
  | attached id target a mime bytes =>
    .record
      [("run_id", .text id), ("target", .text target.label), ("attachment_id", .text a.id),
        ("name", .text a.name), ("type", .text a.kind.name), ("mime", .text mime),
        ("bytes", .nat bytes)]
  | completed id found =>
    .record <|
      [("run_id", .text id), ("found", .bool found.isSome)] ++
      found.elim [] fun r => completionMember r ++ [("summary", r.summary.json)]
  | runsReset id ofFeature n =>
    .record <|
      ("project_id", .text id) :: Json.optional "feature_id" (ofFeature.map .text) ++ [count n]
  | history f rs =>
    .record
      [("feature_id", .text f.id), ("feature_name", .text f.name),
        ("runs", .list (rs.map historyRow))]
  | comparison id environment c =>
    .record <|
      [("feature_id", .text id), ("environment", .text environment.name)] ++
      comparisonMembers c ++ [("changed", .nat c.changedRows.length)]
  | documentation id ofRun markdown =>
    .record <|
      ("feature_id", .text id) :: Json.optional "run_id" (ofRun.map .text) ++
      [("markdown", .text markdown)]
  | setting key value => .record [("key", .text key), ("value", Json.orNull (value.map .text))]
  | settingStored key value path =>
    .record [("key", .text key), ("value", .text value), ("path", .text path)]
  | settings path resolved =>
    .record [("path", .text path), ("entries", .list (resolved.entries.map settingRow))]
  | info i => infoJson i
  | compacted path lines =>
    .record
      [("path", .text path), ("lines_before", .nat lines.before), ("lines_after", .nat lines.after)]
  | actions list => .record [("actions", .list (list.map Action.json)), count list.length]

end Testbook.Answer
