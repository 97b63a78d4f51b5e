import Testbook.Proofs.Feature.LineByLine
import Testbook.Proofs.Feature.Reader
import Testbook.Proofs.Run.Outline

/-! The source of ids leaves its traces in the ids of a feature that is read, and nowhere else. What is
read has not been tested yet, and nothing has been added to it. -/

set_option autoImplicit false

namespace Testbook

def Step.withoutId (step : Step) : Step := { step with id := "" }

def Scenario.withoutIds (scenario : Scenario) : Scenario :=
  { scenario with id := "", steps := scenario.steps.map Step.withoutId }

def Feature.withoutIds (feature : Feature) : Feature :=
  { feature with id := "", scenarios := feature.scenarios.map Scenario.withoutIds }

namespace Scenario

def ofTold (told : String × List (StepKeyword × String)) : Scenario where
  id := ""
  name := told.1
  steps := told.2.map fun (keyword, text) => { id := "", keyword, text }

structure Unmarked (scenario : Scenario) : Prop where
  steps : scenario.steps.map Step.outline = scenario.steps
  status : scenario.status = .untested
  tags : scenario.tags = []
  note : scenario.note = none
  attachments : scenario.attachments = []

variable {scenario : Scenario}

theorem Unmarked.outline (unmarked : scenario.Unmarked) : scenario.outline = scenario := by
  rw [Scenario.outline, unmarked.steps, ← unmarked.status, ← unmarked.note, ← unmarked.attachments]

theorem Unmarked.withoutIds (unmarked : scenario.Unmarked) :
    scenario.withoutIds = ofTold scenario.told := by
  rw [← unmarked.outline]
  simp [Scenario.withoutIds, Scenario.outline, ofTold, told, unmarked.tags, Step.withoutId,
    Step.outline, Function.comp_def]

theorem Unmarked.withStep (unmarked : scenario.Unmarked) (id : String) (keyword : StepKeyword)
    (text : String) :
    Unmarked { scenario with steps := scenario.steps ++ [{ id, keyword, text }] } :=
  { unmarked with steps := by simp [unmarked.steps, Step.outline] }

end Scenario

namespace Feature

open Grammar

namespace Draft

variable {draft : Draft}

def Unmarked (draft : Draft) : Prop := ∀ scenario ∈ draft.scenarios, scenario.Unmarked

theorem Unmarked.beginScenario (unmarked : draft.Unmarked) (name : String) :
    (draft.beginScenario name).Unmarked := by
  intro scenario member
  rcases List.mem_append.mp member with stood | new
  · exact unmarked scenario stood
  · obtain rfl := List.mem_singleton.mp new
    exact ⟨rfl, rfl, rfl, rfl, rfl⟩

theorem Unmarked.addStep (unmarked : draft.Unmarked) (keyword : StepKeyword) (text : String) :
    (draft.addStep keyword text).Unmarked := by
  unfold Draft.addStep
  cases held : draft.current with
  | none => exact unmarked
  | some current =>
    intro scenario member
    rcases List.mem_append.mp member with stood | changed
    · exact unmarked scenario (List.mem_append_left _ stood)
    · obtain rfl := List.mem_singleton.mp changed
      have before : current.Unmarked := unmarked current (by simp [scenarios, held])
      exact before.withStep _ keyword text

theorem unmarked_kept : Kept Draft.Unmarked where
  heading _ _ _ unmarked := unmarked
  scenario name unmarked := unmarked.beginScenario name
  step keyword text unmarked := unmarked.addStep keyword text

end Draft

variable (ids : IdSource) (file content : String)

theorem ofFile_unmarked :
    ∀ scenario ∈ (ofFile ids file content).1.scenarios, scenario.Unmarked := by
  have nothing : Draft.Unmarked { ids := ids.next.2 } := by simp [Draft.Unmarked, Draft.scenarios]
  exact Draft.unmarked_kept.foldl_read nothing (lines content)

theorem ofFile_scenarios :
    (ofFile ids file content).1.scenarios.map Scenario.withoutIds =
      ((ofFile ids file content).1.scenarios.map Scenario.told).map Scenario.ofTold := by
  rw [List.map_map]
  exact List.map_congr_left fun scenario member =>
    (ofFile_unmarked ids file content scenario member).withoutIds

/-- All but the ids comes from the file. -/
theorem ofFile_withoutIds :
    (ofFile ids file content).1.withoutIds =
      { id := ""
        name := Grammar.name (Grammar.lines content)
        description := Grammar.description (Grammar.lines content)
        scenarios := (Grammar.scenarios (Grammar.lines content)).map Scenario.ofTold
        source := ⟨file, content, Fingerprint.ofText content⟩ } := by
  obtain ⟨name, description⟩ := ofFile_heading ids file content
  rw [withoutIds, name, description, ofFile_scenarios, ofFile_told]
  rfl

end Feature

end Testbook
