import Testbook.Instant.Written
import Testbook.Project
import Testbook.Text.Blank

/-! A feature as a Markdown document, alone or with the results of one run: a heading, a section for
each scenario with rules between them, and for a run the time at which it was created. All of it is
written into one text, at whose end each part is added. -/

set_option autoImplicit false

namespace Testbook.Report.Markdown

def writeAttachment (out : String) (attachment : Attachment) : String :=
  out ++ "- 📎 " ++ attachment.name ++ " (" ++ attachment.kind.name ++ ")\n"

def writeAnnotations (out : String) (note : Option String) (attachments : List Attachment) : String :=
  let out := note.elim out fun n => out ++ "> Note: " ++ n ++ "\n\n"
  if attachments.isEmpty then out else attachments.foldl writeAttachment out ++ "\n"

def writeStep (out : String) (step : Step) : String :=
  writeAnnotations
    (out ++ "**" ++ step.keyword.capitals ++ "** " ++ step.text ++ " " ++ step.result.icon ++ "\n\n")
    step.note step.attachments

def writeScenario (out : String) (scenario : Scenario) : String :=
  let out := out ++ "## " ++ scenario.status.icon ++ " " ++ scenario.name ++ "\n\n"
  writeAnnotations (scenario.steps.foldl writeStep out) scenario.note scenario.attachments

def rule : String := "---\n\n"

/-- Write the scenarios from an index on, where there are `count` in all. -/
def writeScenarios (count : Nat) (out : String) (index : Nat) : List Scenario → String
  | [] => out
  | scenario :: rest =>
    let out := writeScenario out scenario
    writeScenarios count (if index + 1 < count then out ++ rule else out) (index + 1) rest

def header (name description : String) : String :=
  "# 🧪 " ++ name ++ "\n\n" ++ if description = "" then "" else "> " ++ description ++ "\n\n"

def footer (created : Instant) : String :=
  "\n---\n\n*Last updated: " ++ created.plain ++ " UTC*\n"

/-- The document of a feature, with the scenarios of the run if one is given. -/
def render (feature : Feature) (run : Option Run) : String :=
  let scenarios := run.elim feature.scenarios (·.scenarios)
  let out := writeScenarios scenarios.length (header feature.name feature.description) 0 scenarios
  run.elim out fun r => out ++ footer r.createdAt

end Testbook.Report.Markdown
