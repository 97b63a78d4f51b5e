import Testbook.Instant.Written
import Testbook.Json.Printer
import Testbook.Project

/-! Documents as JSON: members in a fixed order, of which only a missing description, note or time of
completion and an empty list of attachments are left out. -/

set_option autoImplicit false

namespace Testbook

def Attachment.json (a : Attachment) : Json :=
  .record
    [("id", .text a.id), ("name", .text a.name), ("type", .text a.kind.name), ("url", .text a.url),
      ("uploadedAt", .text a.uploadedAt.stamp)]

def Attachment.member (attachments : List Attachment) : List (String × Json) :=
  if attachments.isEmpty then [] else [("attachments", .list (attachments.map Attachment.json))]

def Step.json (step : Step) : Json :=
  .record <|
    [("id", .text step.id), ("keyword", .text step.keyword.name), ("text", .text step.text),
      ("result", .text step.result.name)] ++
    Json.optional "note" (step.note.map .text) ++ Attachment.member step.attachments

def Scenario.json (scenario : Scenario) : Json :=
  .record <|
    [("id", .text scenario.id), ("name", .text scenario.name),
      ("steps", .list (scenario.steps.map Step.json)), ("status", .text scenario.status.name),
      ("tags", .list (scenario.tags.map .text))] ++
    Json.optional "note" (scenario.note.map .text) ++ Attachment.member scenario.attachments

def SourceFile.json (source : SourceFile) : Json :=
  .record
    [("name", .text source.name), ("content", .text source.content), ("hash", .text source.hash)]

def Feature.json (feature : Feature) : Json :=
  .record
    [("id", .text feature.id), ("name", .text feature.name),
      ("description", .text feature.description), ("tags", .list (feature.tags.map .text)),
      ("scenarios", .list (feature.scenarios.map Scenario.json)),
      ("sourceFile", feature.source.json)]

def RunSummary.json (summary : RunSummary) : Json :=
  .record
    [("total", .nat summary.total), ("passed", .nat summary.passed), ("failed", .nat summary.failed),
      ("skipped", .nat summary.skipped), ("untested", .nat summary.untested)]

def Run.json (run : Run) : Json :=
  .record <|
    [("id", .text run.id), ("featureId", .text run.featureId),
      ("createdAt", .text run.createdAt.stamp), ("environment", .text run.environment.name),
      ("version", .text run.version), ("scenarios", .list (run.scenarios.map Scenario.json)),
      ("summary", run.summary.json), ("status", .text run.status.name)] ++
    Json.optional "completedAt" (run.completedAt.map fun t => .text t.stamp) ++
    [("isLocked", .bool run.locked)]

def Project.json (project : Project) : Json :=
  .record <|
    [("id", .text project.id), ("name", .text project.name)] ++
    Json.optional "description" (project.description.map .text) ++
    [("features", .list (project.features.map Feature.json)),
      ("runs", .list (project.runs.map Run.json))]

end Testbook
