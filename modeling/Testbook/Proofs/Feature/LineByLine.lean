import Testbook.Proofs.Feature.Grammar
import Testbook.Proofs.Text.Line

/-! Reading a feature file line by line finds what the file says as a whole. What the lines still to come
will add depends on whether a description goes on, and on nothing else that was read before. -/

set_option autoImplicit false

namespace Testbook

def Scenario.told (scenario : Scenario) : String × List (StepKeyword × String) :=
  (scenario.name, scenario.steps.map fun step => (step.keyword, step.text))

namespace Feature

open Grammar

namespace Draft

variable {draft : Draft} {line : List Char} {lines : List (List Char)}

theorem skipped_says_nothing (skipped : (line.isEmpty || Text.startsWith ['#'] line) = true) :
    opens "Feature:" line = false ∧ opens "Scenario:" line = false ∧ step? line = none := by
  cases line with
  | nil => exact ⟨rfl, rfl, rfl⟩
  | cons c cs =>
    have comment : '#' = c := by
      by_cases same : '#' = c
      · exact same
      · simp [Text.startsWith, Text.afterLead?, same] at skipped
    subst comment
    refine ⟨rfl, rfl, ?_⟩
    cases found : step? ('#' :: cs) with
    | none => rfl
    | some step =>
      obtain ⟨keyword, text⟩ := step
      obtain ⟨rest, same, _⟩ := step?_eq_some.mp found
      cases keyword <;> cases same

-- A line that is skipped needs no case of its own.
theorem readLive_eq (draft : Draft) (line : List Char) :
    draft.readLive line =
      if opens "Feature:" line then draft.beginFeature (remainder "Feature:" line)
      else if opens "Scenario:" line then draft.beginScenario (remainder "Scenario:" line)
      else
        match step? line with
        | some (keyword, text) => draft.addStep keyword text
        | none => draft := by
  unfold readLive
  split
  · rename_i skipped
    obtain ⟨noFeature, noScenario, noStep⟩ := skipped_says_nothing skipped
    rw [noFeature, noScenario, noStep]
    rfl
  · rw [Text.afterLead?_eq, Text.afterLead?_eq, stepLine?_eq, ← opens, ← opens]
    cases opens "Feature:" line with
    | true => rfl
    | false =>
      cases opens "Scenario:" line with
      | true => rfl
      | false => rfl

theorem read_live (outside : draft.describing = false) : draft.read line = draft.readLive line := by
  have same : { draft with describing := false } = draft := by rw [← outside]
  rw [read, outside, Bool.false_and, if_neg (by decide), same]

theorem read_scenario (ends : opens "Scenario" line = true) :
    draft.read line = { draft with describing := false }.readLive line := by
  rw [read, startsWith_eq, ends, Bool.not_true, Bool.and_false, if_neg (by decide)]

theorem read_text (inside : draft.describing = true) (text : opens "Scenario" line = false)
    (visible : line ≠ []) :
    draft.read line = { draft with description := draft.description ++ [String.ofList line] } := by
  rw [read, startsWith_eq, text, inside, Bool.not_false, Bool.and_true, if_pos rfl, if_neg]
  simpa using visible

-- A line that ends a description is read as if there had been none, and so is asked about once more.
/-- To say what reading lines comes to, in whatever respect, it is enough to say what one line does. -/
theorem foldl_read_eq {β : Type} (view : Draft → β) (spec : Draft → List (List Char) → β)
    (done : ∀ draft, spec draft [] = view draft)
    (live : ∀ draft line lines, draft.describing = false →
      spec draft (line :: lines) = spec (draft.readLive line) lines)
    (ends : ∀ draft line lines, draft.describing = true → opens "Scenario" line = true →
      spec draft (line :: lines) = spec { draft with describing := false } (line :: lines))
    (text : ∀ draft line lines, draft.describing = true → opens "Scenario" line = false →
      spec draft (line :: lines) =
        spec { draft with description := draft.description ++ [String.ofList line] } lines)
    (draft : Draft) (visible : ∀ line ∈ lines, line ≠ []) :
    view (lines.foldl read draft) = spec draft lines := by
  induction lines generalizing draft with
  | nil => exact (done draft).symm
  | cons line lines ih =>
    have visible' : ∀ line ∈ lines, line ≠ [] :=
      fun other member => visible other (List.mem_cons_of_mem line member)
    rw [List.foldl_cons, ih _ visible']
    cases describing : draft.describing with
    | false => rw [live draft line lines describing, read_live describing]
    | true =>
      cases opened : opens "Scenario" line with
      | true =>
        rw [ends draft line lines describing opened, live _ line lines rfl, read_scenario opened]
      | false =>
        rw [text draft line lines describing opened,
          read_text describing opened (visible line List.mem_cons_self)]

/-! ### The heading -/

theorem addStep_heading (draft : Draft) (keyword : StepKeyword) (text : String) :
    (draft.addStep keyword text).name = draft.name ∧
      (draft.addStep keyword text).description = draft.description ∧
      (draft.addStep keyword text).describing = draft.describing := by
  unfold addStep
  cases draft.current <;> exact ⟨rfl, rfl, rfl⟩

def heading (draft : Draft) : String × List String := (draft.name, draft.description)

theorem readLive_plain (plain : opens "Feature:" line = false) (draft : Draft) :
    (draft.readLive line).heading = draft.heading ∧
      (draft.readLive line).describing = draft.describing := by
  rw [readLive_eq, plain, if_neg (by decide)]
  split
  · exact ⟨rfl, rfl⟩
  · split
    · rename_i keyword text _
      obtain ⟨name, description, describing⟩ := draft.addStep_heading keyword text
      exact ⟨by rw [heading, name, description, heading], describing⟩
    · exact ⟨rfl, rfl⟩

def saidBy (heading : List Char × List (List Char)) : String × List String :=
  (remainder "Feature:" heading.1, heading.2.map String.ofList)

/-- The heading with what is to come: the last one of it, or else the one that stands, with the rest of
its description. -/
def headingWith (draft : Draft) (lines : List (List Char)) : String × List String :=
  ((headingFrom draft.describing lines).map saidBy).getD
    (draft.name, draft.description ++ (descriptionFrom draft.describing lines).map String.ofList)

theorem foldl_heading (draft : Draft) (visible : ∀ line ∈ lines, line ≠ []) :
    (lines.foldl read draft).heading = draft.headingWith lines := by
  refine foldl_read_eq heading headingWith ?done ?live ?ends ?text draft visible
  case done =>
    intro draft
    cases describing : draft.describing <;>
      simp [headingWith, describing, headingFrom, segments, cut, lastHeading?, heading?_nil, heading,
        descriptionFrom]
  case live =>
    intro draft line lines outside
    unfold headingWith
    cases feature : opens "Feature:" line with
    | true =>
      rw [outside, readLive_eq, feature, if_pos rfl, headingFrom_cons_feature feature]
      cases later : headingFrom true lines <;> simp [beginFeature, saidBy, descriptionFrom, later]
    | false =>
      obtain ⟨same, still⟩ := readLive_plain feature draft
      simp only [heading, Prod.mk.injEq] at same
      simp [outside, still, same, headingFrom_cons_live feature, descriptionFrom]
  case ends =>
    intro draft line lines inside opened
    simp [headingWith, inside, headingFrom_cons_scenario opened, descriptionFrom, cut_cons_pos opened]
  case text =>
    intro draft line lines inside opened
    simp [headingWith, inside, headingFrom_cons_text opened, descriptionFrom, cut_cons_neg opened]

/-! ### The scenarios -/

def extended (current : Option Scenario) (steps : List (StepKeyword × String)) :
    List (String × List (StepKeyword × String)) :=
  match current with
  | none => []
  | some scenario => [(scenario.told.1, scenario.told.2 ++ steps)]

def toldBy (part : List Char × List (List Char)) : String × List (StepKeyword × String) :=
  (remainder "Scenario:" part.1, part.2.filterMap step?)

theorem extended_nil (current : Option Scenario) :
    extended current [] = current.toList.map Scenario.told := by
  cases current <;> simp [extended]

theorem scenarios_told (draft : Draft) :
    draft.scenarios.map Scenario.told =
      draft.finished.map Scenario.told ++ extended draft.current [] := by
  rw [extended_nil, scenarios, List.map_append]

/-- A step comes before those to come, if there is a scenario that it belongs to. -/
theorem addStep_told (draft : Draft) (keyword : StepKeyword) (text : String)
    (steps : List (StepKeyword × String)) :
    (draft.addStep keyword text).finished = draft.finished ∧
      extended (draft.addStep keyword text).current steps =
        extended draft.current ((keyword, text) :: steps) := by
  unfold addStep
  cases held : draft.current with
  | none => exact ⟨rfl, by rw [held]; rfl⟩
  | some scenario => exact ⟨rfl, by simp [extended, Scenario.told]⟩

/-- The scenarios with what is to come: those that stand, the last one of them with the steps before the
next header, and those that begin at a header. -/
def toldWith (draft : Draft) (lines : List (List Char)) : List (String × List (StepKeyword × String)) :=
  let (steps, parts) := cut (opens "Scenario:") (liveFrom draft.describing lines)
  draft.finished.map Scenario.told ++
    (extended draft.current (steps.filterMap step?) ++ parts.map toldBy)

theorem foldl_told (draft : Draft) (visible : ∀ line ∈ lines, line ≠ []) :
    (lines.foldl read draft).scenarios.map Scenario.told = draft.toldWith lines := by
  refine foldl_read_eq (fun draft => draft.scenarios.map Scenario.told) toldWith ?done ?live ?ends ?text
    draft visible
  case done =>
    intro draft
    have nothing : liveFrom draft.describing [] = [] := by cases draft.describing <;> rfl
    simp [toldWith, scenarios_told, nothing, cut]
  case live =>
    intro draft line lines outside
    unfold toldWith
    rw [outside, readLive_eq]
    cases feature : opens "Feature:" line with
    | true => rw [liveFrom_cons_feature feature]; rfl
    | false =>
      rw [liveFrom_cons_live feature]
      cases header : opens "Scenario:" line with
      | true =>
        rw [cut_cons_pos header]
        simp [beginScenario, outside, scenarios_told, extended, toldBy, Scenario.told]
      | false =>
        rw [cut_cons_neg header]
        cases step : step? line with
        | none => simp [outside, step]
        | some found =>
          obtain ⟨keyword, text⟩ := found
          obtain ⟨_, _, still⟩ := draft.addStep_heading keyword text
          obtain ⟨finished, more⟩ := draft.addStep_told keyword text
            ((cut (opens "Scenario:") (liveFrom false lines)).1.filterMap step?)
          simp [outside, step, still, finished, more]
  case ends =>
    intro draft line lines inside opened
    simp only [toldWith, inside, liveFrom_cons_scenario opened]
  case text =>
    intro draft line lines inside opened
    simp only [toldWith, inside, liveFrom_cons_text opened]

end Draft

/-! ### The whole file -/

theorem lines_eq (content : String) :
    Grammar.lines content = (Feature.lines content).filter (!·.isEmpty) := by
  rw [Grammar.lines, Feature.lines, Text.pieces_eq]

theorem read_nil (draft : Draft) : draft.read [] = draft := by
  cases describing : draft.describing with
  | false => exact Draft.read_live describing
  | true => simp [Draft.read, describing, Text.startsWith, Text.afterLead?]

theorem foldl_read_lines (draft : Draft) (content : String) :
    (Feature.lines content).foldl Draft.read draft =
      (Grammar.lines content).foldl Draft.read draft := by
  rw [lines_eq, List.foldl_filter]
  congr 1
  funext draft line
  cases line with
  | nil => exact read_nil draft
  | cons => rfl

theorem visible_lines (content : String) : ∀ line ∈ Grammar.lines content, line ≠ [] := by
  intro line member
  have kept := (List.mem_filter.mp member).2
  simpa using kept

section Whole

variable (ids : IdSource) (file content : String)

theorem ofFile_heading :
    (ofFile ids file content).1.name = Grammar.name (Grammar.lines content) ∧
      (ofFile ids file content).1.description =
        Grammar.description (Grammar.lines content) := by
  have heading := Draft.foldl_heading { ids := ids.next.2 } (visible_lines content)
  rw [← foldl_read_lines] at heading
  have name : (ofFile ids file content).1.name = _ := congrArg Prod.fst heading
  have description : (ofFile ids file content).1.description = _ :=
    congrArg (fun heading : String × List String => String.intercalate " " heading.2) heading
  rw [name, description, Grammar.name, Grammar.description]
  simp only [Draft.headingWith, headingFrom, Bool.false_eq_true, if_false]
  cases lastHeading? (segments (Grammar.lines content)) <;> exact ⟨rfl, rfl⟩

theorem ofFile_told :
    (ofFile ids file content).1.scenarios.map Scenario.told =
      Grammar.scenarios (Grammar.lines content) := by
  have read : (ofFile ids file content).1.scenarios =
      ((Feature.lines content).foldl Draft.read { ids := ids.next.2 }).scenarios := rfl
  rw [read, foldl_read_lines, Draft.foldl_told _ (visible_lines content)]
  simp only [Draft.toldWith, Draft.extended, List.map_nil, List.nil_append, liveFrom,
    Bool.false_eq_true, if_false]
  rfl

/-- A feature file is read as its lines say. They are cut into segments right before each line that opens
with `Scenario`. -/
theorem ofFile_reads_grammar :
    (∃ first others, segments (Grammar.lines content) = first :: others ∧
      first ++ others.flatten = Grammar.lines content ∧
      (∀ line ∈ first, opens "Scenario" line = false) ∧
      ∀ segment ∈ others, ∃ line rest, segment = line :: rest ∧ opens "Scenario" line = true ∧
        ∀ other ∈ rest, opens "Scenario" other = false) ∧
    (ofFile ids file content).1.name = Grammar.name (Grammar.lines content) ∧
      (ofFile ids file content).1.description = Grammar.description (Grammar.lines content) ∧
      (ofFile ids file content).1.scenarios.map Scenario.told =
        Grammar.scenarios (Grammar.lines content) := by
  obtain ⟨name, description⟩ := ofFile_heading ids file content
  exact ⟨segments_spec _, name, description, ofFile_told ids file content⟩

end Whole

end Feature

end Testbook
