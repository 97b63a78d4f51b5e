import Testbook.Feature
import Testbook.Fingerprint
import Testbook.IdSource
import Testbook.Text.Blank
import Testbook.Text.Line

/-! Reading a feature file, line by line. Nothing is refused: a line that is not recognised is skipped.

Lines are trimmed. A line `Feature:` names the feature, and the lines after it, up to one that begins
with `Scenario`, are its description. A line `Scenario:` begins a scenario. Within a scenario, a line
that begins with a keyword and a blank is a step. Outside a description, a line that begins with `#`
is a comment. -/

set_option autoImplicit false

namespace Testbook.Feature

def stepLine? (line : List Char) : Option (StepKeyword × String) :=
  StepKeyword.all.findSome? fun keyword =>
    (Text.afterLead? (keyword.name.toList ++ [' ']) line).map fun rest =>
      (keyword, String.ofList (Text.trimChars rest))

structure Draft where
  name : String := ""
  description : List String := []
  /-- Whether lines belong to the description. -/
  describing : Bool := false
  finished : List Scenario := []
  current : Option Scenario := none
  ids : IdSource

namespace Draft

def scenarios (draft : Draft) : List Scenario := draft.finished ++ draft.current.toList

def beginFeature (draft : Draft) (name : String) : Draft :=
  { draft with name, description := [], describing := true }

def beginScenario (draft : Draft) (name : String) : Draft :=
  let (id, ids) := draft.ids.next
  { draft with finished := draft.scenarios, current := some { id, name }, ids }

/-- A step belongs to the scenario in hand; before the first one it is skipped. -/
def addStep (draft : Draft) (keyword : StepKeyword) (text : String) : Draft :=
  match draft.current with
  | none => draft
  | some scenario =>
    let (id, ids) := draft.ids.next
    let step : Step := { id, keyword, text }
    { draft with current := some { scenario with steps := scenario.steps ++ [step] }, ids }

def readLive (draft : Draft) (line : List Char) : Draft :=
  if line.isEmpty || Text.startsWith ['#'] line then draft
  else
    match Text.afterLead? "Feature:".toList line with
    | some rest => draft.beginFeature (String.ofList (Text.trimChars rest))
    | none =>
      match Text.afterLead? "Scenario:".toList line with
      | some rest => draft.beginScenario (String.ofList (Text.trimChars rest))
      | none =>
        match stepLine? line with
        | some (keyword, text) => draft.addStep keyword text
        | none => draft

def read (draft : Draft) (line : List Char) : Draft :=
  if draft.describing && !Text.startsWith "Scenario".toList line then
    if line.isEmpty then draft
    else { draft with description := draft.description ++ [String.ofList line] }
  else { draft with describing := false }.readLive line

end Draft

def lines (content : String) : List (List Char) :=
  (Text.pieces content.toList).map Text.trimChars

/-- Read a file. The feature takes the first name from the source, then each scenario and step takes
one as it is met. -/
def ofFile (ids : IdSource) (file content : String) : Feature × IdSource :=
  let (id, ids) := ids.next
  let draft := (lines content).foldl Draft.read { ids }
  ({ id
     name := draft.name
     description := Text.joinWith " " draft.description
     scenarios := draft.scenarios
     source := { name := file, content, hash := Fingerprint.ofText content } },
    draft.ids)

end Testbook.Feature
