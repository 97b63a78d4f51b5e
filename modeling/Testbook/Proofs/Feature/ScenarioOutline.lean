import Mathlib.Data.List.ModifyLast
import Testbook.Proofs.Feature.LineByLine
import Testbook.Proofs.Feature.Reader

/-! A scenario outline within a feature file. Its line is not recognised, and so it is skipped like any
other; but it does not end the scenario in hand, and the steps beneath it go to that one. Only an outline
with no scenario before it is left out as a whole. -/

set_option autoImplicit false

namespace Testbook.Feature

open Grammar

/-! ### Files from their lines -/

def withLines (raws : List (List Char)) : String := String.ofList (['\n'].intercalate raws)

def visible (raws : List (List Char)) : List (List Char) :=
  (raws.map Text.trimChars).filter (!·.isEmpty)

theorem visible_append (front rest : List (List Char)) :
    visible (front ++ rest) = visible front ++ visible rest := by
  simp [visible]

theorem visible_cons {lead : String} (some_lead : lead.toList ≠ []) {raw : List Char}
    (opened : opens lead (Text.trimChars raw) = true) (rest : List (List Char)) :
    visible (raw :: rest) = Text.trimChars raw :: visible rest := by
  obtain ⟨text, same⟩ := opens_iff.mp opened
  have shows : Text.trimChars raw ≠ [] := by
    rw [same]
    exact List.append_ne_nil_of_left_ne_nil some_lead text
  simp [visible, shows]

theorem mem_visible {raws : List (List Char)} {line : List Char} :
    line ∈ visible raws ↔ ∃ raw ∈ raws, Text.trimChars raw = line ∧ line ≠ [] := by
  simp only [visible, List.mem_filter, List.mem_map, Bool.not_eq_true', List.isEmpty_eq_false_iff]
  exact ⟨fun ⟨⟨raw, stands, same⟩, shows⟩ => ⟨raw, stands, same, shows⟩,
    fun ⟨raw, stands, same, shows⟩ => ⟨⟨raw, stands, same⟩, shows⟩⟩

theorem lines_eq_visible (content : String) :
    Grammar.lines content = visible (Text.pieces content.toList) := by
  rw [Grammar.lines, visible, Text.pieces_eq]

theorem lines_withLines {raws : List (List Char)} (noFeed : ∀ raw ∈ raws, '\n' ∉ raw) :
    Grammar.lines (withLines raws) = visible raws := by
  cases raws with
  | nil => rfl
  | cons raw raws =>
    rw [lines_eq_visible, withLines, String.toList_ofList,
      Text.pieces_intercalate noFeed (List.cons_ne_nil raw raws)]

/-! ### The scenario in hand -/

namespace Draft

variable {draft : Draft} {line : List Char} {beneath after : List (List Char)}

-- Without a scenario in hand there has been none.
theorem inHand_kept : Kept fun draft => draft.current = none → draft.finished = [] where
  heading _ _ _ started := started
  scenario _ _ := fun none_inHand => nomatch none_inHand
  step _ _ started := by
    unfold addStep
    split
    · exact started
    · exact fun none_inHand => nomatch none_inHand

def extendLast (steps : List (StepKeyword × String)) :
    List (String × List (StepKeyword × String)) → List (String × List (StepKeyword × String)) :=
  List.modifyLast fun scenario => (scenario.1, scenario.2 ++ steps)

theorem extendLast_scenarios (started : draft.current = none → draft.finished = [])
    (steps : List (StepKeyword × String)) :
    extendLast steps (draft.scenarios.map Scenario.told) =
      draft.finished.map Scenario.told ++ extended draft.current steps := by
  rw [scenarios_told]
  cases inHand : draft.current with
  | none =>
    rw [started inHand]
    rfl
  | some scenario => simp [extendLast, extended, List.modifyLast_concat]

theorem extendLast_eq_self_iff {told : List (String × List (StepKeyword × String))}
    {steps : List (StepKeyword × String)} : extendLast steps told = told ↔ told = [] ∨ steps = [] := by
  rcases List.eq_nil_or_concat told with rfl | ⟨front, last, rfl⟩
  · exact iff_of_true rfl (Or.inl rfl)
  · simp [extendLast, List.modifyLast_concat, Prod.ext_iff]

theorem not_scenario_of_step {step : StepKeyword × String} (found : step? line = some step) :
    opens "Scenario" line = false := by
  obtain ⟨keyword, text⟩ := step
  obtain ⟨rest, rfl, _⟩ := step?_eq_some.mp found
  cases keyword <;> rfl

theorem read_outline (opened : opens "Scenario Outline:" line = true) :
    draft.read line = { draft with describing := false } := by
  obtain ⟨rest, rfl⟩ := opens_iff.mp opened
  have scenario : opens "Scenario" ("Scenario Outline:".toList ++ rest) = true :=
    opens_iff.mpr ⟨" Outline:".toList ++ rest, rfl⟩
  have noStep : step? ("Scenario Outline:".toList ++ rest) = none := by
    rw [Option.eq_none_iff_forall_ne_some]
    intro step found
    rw [not_scenario_of_step found] at scenario
    cases scenario
  rw [read_scenario scenario, readLive_eq, noStep]
  rfl

/-- Steps beneath, up to a header or to the end, are added to the scenario in hand. -/
theorem foldl_beneath (draft : Draft) (outside : draft.describing = false)
    (shown : ∀ line ∈ beneath ++ after, line ≠ [])
    (plain : ∀ line ∈ beneath, opens "Scenario:" line = false ∧ opens "Feature:" line = false)
    (ends : ∀ line ∈ after.head?, opens "Scenario:" line = true) :
    ((beneath ++ after).foldl read draft).heading = (after.foldl read draft).heading ∧
      ∃ later, (after.foldl read draft).scenarios.map Scenario.told =
          draft.finished.map Scenario.told ++ extended draft.current [] ++ later ∧
        ((beneath ++ after).foldl read draft).scenarios.map Scenario.told =
          draft.finished.map Scenario.told ++ extended draft.current (beneath.filterMap step?) ++
            later := by
  have shown' : ∀ line ∈ after, line ≠ [] := fun line member =>
    shown line (List.mem_append_right beneath member)
  have noFeature : ∀ line ∈ beneath, opens "Feature:" line = false := fun line member =>
    (plain line member).2
  have noHeader : ∀ line ∈ beneath, opens "Scenario:" line = false := fun line member =>
    (plain line member).1
  -- What is live after the steps begins with a header, and so none of it is theirs.
  obtain ⟨parts, apart⟩ : ∃ parts, cut (opens "Scenario:") (liveFrom false after) = ([], parts) := by
    cases after with
    | nil => exact ⟨[], rfl⟩
    | cons header rest =>
      have opened := ends header rfl
      rw [liveFrom_cons_live (plain_of_header opened), cut_cons_pos opened]
      exact ⟨_, rfl⟩
  constructor
  · rw [foldl_heading draft shown, foldl_heading draft shown', headingWith, headingWith, outside,
      headingFrom_append noFeature]
    rfl
  · refine ⟨parts.map toldBy, ?_, ?_⟩
    · rw [foldl_told draft shown', toldWith, outside, apart, List.append_assoc]
      rfl
    · rw [foldl_told draft shown, toldWith, outside, liveFrom_append noFeature, cut_append noHeader,
        apart, List.append_nil, List.append_assoc]

end Draft

/-! ### The whole file -/

/-- A line of a file that begins an outline, with the lines beneath it, up to the next header or to the end.
None of them names the feature. -/
structure HasOutline (content : String) (before : List (List Char)) (outline : List Char)
    (beneath after : List (List Char)) : Prop where
  lines : Text.pieces content.toList = before ++ outline :: (beneath ++ after)
  opened : opens "Scenario Outline:" (Text.trimChars outline) = true
  plain : ∀ raw ∈ beneath, opens "Scenario:" (Text.trimChars raw) = false ∧
    opens "Feature:" (Text.trimChars raw) = false
  ends : ∀ raw ∈ after.head?, opens "Scenario:" (Text.trimChars raw) = true

def stepsIn (raws : List (List Char)) : List (StepKeyword × String) := (visible raws).filterMap step?

section Whole

variable {content : String} {before beneath after : List (List Char)} {outline : List Char}

namespace HasOutline

theorem noFeed (has : HasOutline content before outline beneath after) :
    ∀ raw ∈ before ++ outline :: (beneath ++ after), '\n' ∉ raw :=
  fun _ member => Text.noFeed_pieces (has.lines ▸ member)

theorem lines_content (has : HasOutline content before outline beneath after) :
    Grammar.lines content = visible (before ++ outline :: (beneath ++ after)) := by
  rw [lines_eq_visible, has.lines]

theorem lines_before (has : HasOutline content before outline beneath after) :
    Grammar.lines (withLines before) = visible before :=
  lines_withLines fun raw member => has.noFeed raw (List.mem_append_left _ member)

theorem lines_without (has : HasOutline content before outline beneath after) :
    Grammar.lines (withLines (before ++ outline :: after)) = visible (before ++ outline :: after) := by
  have fewer : (before ++ outline :: after).Sublist (before ++ outline :: (beneath ++ after)) :=
    ((List.sublist_append_right beneath after).cons_cons outline).append_left before
  exact lines_withLines fun raw member => has.noFeed raw (fewer.mem member)

theorem visible_outline (has : HasOutline content before outline beneath after)
    (rest : List (List Char)) :
    visible (outline :: rest) = Text.trimChars outline :: visible rest :=
  visible_cons (by decide) has.opened rest

/-- The reader skips the line of the outline and goes on with whatever follows. -/
theorem foldl_read (has : HasOutline content before outline beneath after) (draft : Draft)
    (rest : List (List Char)) :
    (visible (before ++ outline :: rest)).foldl Draft.read draft =
      (visible rest).foldl Draft.read
        { (visible before).foldl Draft.read draft with describing := false } := by
  rw [visible_append, has.visible_outline, List.foldl_append, List.foldl_cons,
    Draft.read_outline has.opened]

theorem visible_plain (has : HasOutline content before outline beneath after) :
    ∀ line ∈ visible beneath, opens "Scenario:" line = false ∧ opens "Feature:" line = false := by
  intro line member
  obtain ⟨raw, stands, rfl, _⟩ := mem_visible.mp member
  exact has.plain raw stands

theorem visible_ends (has : HasOutline content before outline beneath after) :
    ∀ line ∈ (visible after).head?, opens "Scenario:" line = true := by
  intro line first
  cases after with
  | nil => cases first
  | cons header rest =>
    have opened := has.ends header rfl
    rw [visible_cons (by decide) opened] at first
    cases first
    exact opened

end HasOutline

def toldOf (ids : IdSource) (file content : String) : List (String × List (StepKeyword × String)) :=
  (ofFile ids file content).1.scenarios.map Scenario.told

theorem toldOf_eq (ids : IdSource) (file content : String) : toldOf ids file content =
    ((Grammar.lines content).foldl Draft.read { ids := ids.next.2 }).scenarios.map Scenario.told := by
  rw [← foldl_read_lines]
  rfl

theorem ofFile_heading_congr {ids : IdSource} {content other : String}
    (same : ((Grammar.lines content).foldl Draft.read { ids := ids.next.2 }).heading =
      ((Grammar.lines other).foldl Draft.read { ids := ids.next.2 }).heading) (file : String) :
    (ofFile ids file content).1.name = (ofFile ids file other).1.name ∧
      (ofFile ids file content).1.description = (ofFile ids file other).1.description := by
  rw [← foldl_read_lines, ← foldl_read_lines] at same
  exact ⟨congrArg Prod.fst same,
    congrArg (fun heading : String × List String => Text.joinWith " " heading.2) same⟩

/-- The lines beneath an outline can be taken out without changing the name and the description. Its steps
are added to the last scenario before it. So it is left out as a whole if it has no steps, or if there is no
such scenario, and only then. -/
theorem outline_steps_added_before (has : HasOutline content before outline beneath after)
    (ids : IdSource) (file : String) :
    let without := withLines (before ++ outline :: after)
    let earlier := toldOf ids file (withLines before)
    (ofFile ids file content).1.name = (ofFile ids file without).1.name ∧
      (ofFile ids file content).1.description = (ofFile ids file without).1.description ∧
      (∃ later, toldOf ids file without = earlier ++ later ∧
        toldOf ids file content = Draft.extendLast (stepsIn beneath) earlier ++ later) ∧
      (toldOf ids file content = toldOf ids file without ↔ earlier = [] ∨ stepsIn beneath = []) := by
  intro without earlier
  let draft := (visible before).foldl Draft.read { ids := ids.next.2 }
  have started : draft.current = none → draft.finished = [] :=
    Draft.inHand_kept.foldl_read (fun _ => rfl) (visible before)
  have shown : ∀ line ∈ visible beneath ++ visible after, line ≠ [] := by
    intro line member
    rw [← visible_append] at member
    obtain ⟨_, _, _, shows⟩ := mem_visible.mp member
    exact shows
  obtain ⟨heading, later, ended, continued⟩ :=
    Draft.foldl_beneath { draft with describing := false } rfl shown has.visible_plain
      has.visible_ends
  rw [← visible_append, ← has.foldl_read, ← has.foldl_read, ← has.lines_content,
    ← has.lines_without] at heading
  rw [← has.foldl_read, ← has.lines_without, ← toldOf_eq ids file] at ended
  rw [← visible_append, ← has.foldl_read, ← has.lines_content, ← toldOf_eq ids file] at continued
  have stands : earlier = draft.scenarios.map Scenario.told := by
    exact (toldOf_eq ids file (withLines before)).trans (by rw [has.lines_before])
  have kept : toldOf ids file without = earlier ++ later := by
    rw [ended, stands, Draft.scenarios_told]
  have extended : toldOf ids file content = Draft.extendLast (stepsIn beneath) earlier ++ later := by
    rw [continued, stands, Draft.extendLast_scenarios started, stepsIn]
  obtain ⟨name, description⟩ := ofFile_heading_congr heading file
  refine ⟨name, description, ⟨later, kept, extended⟩, ?_⟩
  rw [extended, kept, List.append_cancel_right_eq, Draft.extendLast_eq_self_iff]

end Whole

/-- A step of an outline that is added to the scenario before it. -/
theorem outline_steps_added_before_sample :
    let ids := IdSource.sequential "id"
    let content := "Scenario: S\nGiven a\nScenario Outline: O\nGiven <x>\nScenario: T"
    let before := ["Scenario: S".toList, "Given a".toList]
    let outline := "Scenario Outline: O".toList
    HasOutline content before outline ["Given <x>".toList] ["Scenario: T".toList] ∧
      toldOf ids "f.feature" content = [("S", [(.given, "a"), (.given, "<x>")]), ("T", [])] ∧
      toldOf ids "f.feature" content ≠
        toldOf ids "f.feature" (withLines (before ++ [outline, "Scenario: T".toList])) := by
  intro ids content before outline
  have has : HasOutline content before outline ["Given <x>".toList] ["Scenario: T".toList] :=
    ⟨by decide, by decide, by decide, by decide⟩
  obtain ⟨-, -, -, left_out⟩ := outline_steps_added_before has ids "f.feature"
  refine ⟨has, by decide, ?_⟩
  intro same
  have none_added := left_out.mp same
  exact absurd none_added (by decide)

end Testbook.Feature
