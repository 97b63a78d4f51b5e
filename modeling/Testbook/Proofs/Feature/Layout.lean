import Testbook.Proofs.Feature.Renamed
import Testbook.Proofs.Text.Blank

/-! Reading a feature file undoes writing it, whatever the layout: lines may be indented and padded, blank
lines may stand anywhere, and comments anywhere but in the description. -/

set_option autoImplicit false

namespace Testbook.Feature

open Grammar

/-! ### Writing -/

/-- What a feature file is written for: a name, the lines of a description, and scenarios, each a name and
steps. -/
structure Script where
  name : String
  description : List String
  scenarios : List (String × List (StepKeyword × String))

/-- A text that stands on one line, with nothing around it to be trimmed. -/
structure OneLine (text : String) : Prop where
  noFeed : '\n' ∉ text.toList
  trimmed : Text.trim text = text

instance (text : String) : Decidable (OneLine text) :=
  decidable_of_iff ('\n' ∉ text.toList ∧ Text.trim text = text)
    ⟨fun ⟨noFeed, trimmed⟩ => ⟨noFeed, trimmed⟩, fun ⟨noFeed, trimmed⟩ => ⟨noFeed, trimmed⟩⟩

namespace Script

/-- A name may be empty and a text may look like any line of the file, but a description ends where a line
begins with `Scenario`. -/
structure Plain (script : Script) : Prop where
  name : OneLine script.name
  description : ∀ line ∈ script.description,
    OneLine line ∧ line ≠ "" ∧ opens "Scenario" line.toList = false
  scenarios : ∀ scenario ∈ script.scenarios,
    OneLine scenario.1 ∧ ∀ step ∈ scenario.2, OneLine step.2 ∧ step.2 ≠ ""

def line (lead text : String) : List Char := (lead ++ " " ++ text).toList

def heading (script : Script) : List (List Char) :=
  line "Feature:" script.name :: script.description.map String.toList

def scenarioLines (scenario : String × List (StepKeyword × String)) : List (List Char) :=
  line "Scenario:" scenario.1 :: scenario.2.map fun step => line step.1.name step.2

def body (script : Script) : List (List Char) := script.scenarios.flatMap scenarioLines

end Script

/-! ### Layouts -/

def Margin (cs : List Char) : Prop := ∀ c ∈ cs, Text.isBlank c = true ∧ c ≠ '\n'

instance : DecidablePred Margin := fun cs => List.decidableBAll _ cs

def Padded (line raw : List Char) : Prop :=
  ∃ before after, Margin before ∧ Margin after ∧ raw = before ++ line ++ after

def IsComment (raw : List Char) : Prop :=
  ∃ before rest, Margin before ∧ '\n' ∉ rest ∧ raw = before ++ '#' :: rest

def IsGap (raw : List Char) : Prop := Margin raw ∨ IsComment raw

inductive Spread (Gap : List Char → Prop) : List (List Char) → List (List Char) → Prop where
  | nil : Spread Gap [] []
  | line {line raw : List Char} {lines gaps raws : List (List Char)} (padded : Padded line raw)
      (skipped : ∀ gap ∈ gaps, Gap gap) (others : Spread Gap lines raws) :
      Spread Gap (line :: lines) (raw :: (gaps ++ raws))

/-- A file that a script was written to. From the line that names the feature up to the first scenario, or
to the end, no comments stand between. -/
inductive Script.LaidOut (script : Script) : String → Prop where
  | written {before heading body : List (List Char)} (skipped : ∀ gap ∈ before, IsGap gap)
      (described : Spread Margin script.heading heading) (told : Spread IsGap script.body body) :
      LaidOut script (String.ofList (['\n'].intercalate (before ++ heading ++ body)))

/-! ### Lines without line feeds -/

theorem Margin.noFeed {cs : List Char} (margin : Margin cs) : '\n' ∉ cs :=
  fun member => (margin '\n' member).2 rfl

theorem Margin.blank {cs : List Char} (margin : Margin cs) : ∀ c ∈ cs, Text.isBlank c = true :=
  fun c member => (margin c member).1

theorem IsGap.noFeed {raw : List Char} (gap : IsGap raw) : '\n' ∉ raw := by
  rcases gap with margin | ⟨before, rest, margin, noFeed, rfl⟩
  · exact margin.noFeed
  · simp [margin.noFeed, noFeed]

theorem Padded.noFeed {line raw : List Char} (padded : Padded line raw) (noFeed : '\n' ∉ line) :
    '\n' ∉ raw := by
  obtain ⟨before, after, front, back, rfl⟩ := padded
  simp [front.noFeed, back.noFeed, noFeed]

theorem Padded.trimmed {line raw : List Char} (padded : Padded line raw) :
    Text.trimChars raw = Text.trimChars line := by
  obtain ⟨before, after, front, back, rfl⟩ := padded
  exact Text.trimChars_margins front.blank back.blank line

theorem Spread.noFeed {Gap : List Char → Prop} {lines raws : List (List Char)}
    (spread : Spread Gap lines raws) (gaps : ∀ gap, Gap gap → '\n' ∉ gap)
    (noFeed : ∀ line ∈ lines, '\n' ∉ line) : ∀ raw ∈ raws, '\n' ∉ raw := by
  induction spread with
  | nil => simp
  | line padded skipped _ ih =>
    have first := padded.noFeed (noFeed _ List.mem_cons_self)
    have others := ih fun line member => noFeed line (List.mem_cons_of_mem _ member)
    intro raw member
    rcases List.mem_cons.mp member with rfl | later
    · exact first
    · exact (List.mem_append.mp later).elim (fun gap => gaps raw (skipped raw gap)) (others raw)

namespace Script.Plain

variable {script : Script}

theorem heading_noFeed (plain : script.Plain) : ∀ line ∈ script.heading, '\n' ∉ line := by
  intro line member
  rcases List.mem_cons.mp member with rfl | described
  · simpa [line] using plain.name.noFeed
  · obtain ⟨text, stands, rfl⟩ := List.mem_map.mp described
    exact (plain.description text stands).1.noFeed

theorem body_noFeed (plain : script.Plain) : ∀ line ∈ script.body, '\n' ∉ line := by
  intro line member
  obtain ⟨scenario, stands, member⟩ := List.mem_flatMap.mp member
  obtain ⟨name, steps⟩ := plain.scenarios scenario stands
  rcases List.mem_cons.mp member with rfl | stepped
  · simpa [line] using name.noFeed
  · obtain ⟨step, told, rfl⟩ := List.mem_map.mp stepped
    have keyword : '\n' ∉ step.1.name.toList := by cases step.1 <;> decide
    simpa [line, keyword] using (steps step told).1.noFeed

end Script.Plain

/-! ### Lines as they are read -/

theorem OneLine.trimChars {text : String} (oneLine : OneLine text) :
    Text.trimChars text.toList = text.toList := by
  have trimmed := congrArg String.toList oneLine.trimmed
  simpa [Text.trim] using trimmed

theorem line_trimChars {lead text : String} (solid : Text.trimChars lead.toList = lead.toList)
    (some_lead : lead.toList ≠ []) (oneLine : OneLine text) :
    opens lead (Text.trimChars (Script.line lead text)) = true ∧
      remainder lead (Text.trimChars (Script.line lead text)) = text := by
  have spelled : Text.trimChars (Script.line lead text) =
      lead.toList ++ Text.trimEnd (' ' :: text.toList) := by
    rw [← Text.trimChars_lead solid some_lead]
    simp [Script.line]
  have blank : Text.trimChars (' ' :: text.toList) = Text.trimChars text.toList := rfl
  rw [spelled]
  refine ⟨opens_iff.mpr ⟨_, rfl⟩, ?_⟩
  rw [remainder_append, Text.trimChars_trimEnd, blank, oneLine.trimChars, String.ofList_toList]

theorem step?_line {keyword : StepKeyword} {text : String} (oneLine : OneLine text)
    (visible : text ≠ "") :
    step? (Text.trimChars (Script.line keyword.name text)) = some (keyword, text) := by
  have solid : Text.trimChars keyword.name.toList = keyword.name.toList := by
    cases keyword <;> decide
  have some_keyword : keyword.name.toList ≠ [] := by cases keyword <;> decide
  have ended : Text.trimEnd text.toList = text.toList := by
    rw [← oneLine.trimChars, Text.trimChars, Text.trimEnd_trimEnd]
  have spaced : Text.trimEnd (' ' :: text.toList) = ' ' :: text.toList := by
    have some_text : Text.trimEnd text.toList ≠ [] := by
      rw [ended]
      simpa using visible
    rw [← List.singleton_append, Text.trimEnd_append_solid some_text, ended]
  rw [step?_eq_some]
  refine ⟨text.toList, ?_, ?_⟩
  · rw [← spaced, ← Text.trimChars_lead solid some_keyword]
    simp [Script.line]
  · rw [oneLine.trimChars, String.ofList_toList]

theorem plain_of_step? {line : List Char} {step : StepKeyword × String}
    (found : step? line = some step) : opens "Feature:" line = false ∧ opens "Scenario:" line = false := by
  obtain ⟨keyword, text⟩ := step
  obtain ⟨rest, rfl, _⟩ := step?_eq_some.mp found
  cases keyword <;> exact ⟨rfl, rfl⟩

/-! ### Reading -/

theorem liveFrom_plain {lines : List (List Char)}
    (plain : ∀ line ∈ lines, opens "Feature:" line = false) : liveFrom false lines = lines := by
  have all := liveFrom_append plain []
  rwa [List.append_nil, show liveFrom false [] = [] from rfl, List.append_nil] at all

theorem headingFrom_plain {lines : List (List Char)}
    (plain : ∀ line ∈ lines, opens "Feature:" line = false) : headingFrom false lines = none := by
  have all := headingFrom_append plain []
  rwa [List.append_nil] at all

theorem foldl_gaps {gaps : List (List Char)} {draft : Draft}
    (skips : ∀ gap ∈ gaps, draft.read (Text.trimChars gap) = draft) :
    (gaps.map Text.trimChars).foldl Draft.read draft = draft := by
  induction gaps with
  | nil => rfl
  | cons gap gaps ih =>
    rw [List.map_cons, List.foldl_cons, skips gap List.mem_cons_self,
      ih fun other member => skips other (List.mem_cons_of_mem gap member)]

-- Whether a gap is skipped may depend on the lines before it.
/-- Gaps that the reader skips leave the lines that are spread. -/
theorem Spread.foldl_read {Gap : List Char → Prop} {lines raws : List (List Char)}
    (spread : Spread Gap lines raws) (Ready : Draft → Prop)
    (skips : ∀ gap, Gap gap → ∀ draft, Ready draft → draft.read (Text.trimChars gap) = draft)
    (stays : ∀ line ∈ lines, ∀ draft, Ready draft → Ready (draft.read (Text.trimChars line)))
    {draft : Draft} (ready : Ready draft) :
    (raws.map Text.trimChars).foldl Draft.read draft =
      (lines.map Text.trimChars).foldl Draft.read draft := by
  induction spread generalizing draft with
  | nil => rfl
  | @line line raw lines gaps raws padded skipped _ ih =>
    have next := stays line List.mem_cons_self draft ready
    have gone := foldl_gaps fun gap member => skips gap (skipped gap member) _ next
    rw [List.map_cons, List.foldl_cons, padded.trimmed, List.map_append, List.foldl_append, gone,
      List.map_cons, List.foldl_cons,
      ih (fun other member => stays other (List.mem_cons_of_mem line member)) next]

namespace Draft

variable {draft : Draft} {script : Script}

-- A comment is one outside of a description only.
theorem read_gap {raw : List Char} (gap : IsGap raw) (outside : draft.describing = false) :
    draft.read (Text.trimChars raw) = draft := by
  rcases gap with margin | ⟨before, rest, margin, _, rfl⟩
  · rw [(Text.trimChars_eq_nil raw).mpr (List.all_eq_true.mpr margin.blank)]
    exact read_nil draft
  · have trimmed : Text.trimChars (before ++ '#' :: rest) = '#' :: Text.trimEnd rest := by
      have nothing : ∀ c ∈ ([] : List Char), Text.isBlank c = true := by simp
      have solid : Text.trimChars ['#'] = ['#'] := by decide
      calc Text.trimChars (before ++ '#' :: rest)
          = Text.trimChars (before ++ '#' :: rest ++ []) := by rw [List.append_nil]
        _ = Text.trimChars (['#'] ++ rest) := Text.trimChars_margins margin.blank nothing _
        _ = '#' :: Text.trimEnd rest := Text.trimChars_lead solid (by decide) rest
    rw [trimmed, read_live outside, readLive, if_pos (by simp [Text.startsWith, Text.afterLead?])]

theorem foldl_description {description : List String} (inside : draft.describing = true)
    (plain : ∀ line ∈ description,
      OneLine line ∧ line ≠ "" ∧ opens "Scenario" line.toList = false) :
    ((description.map String.toList).map Text.trimChars).foldl read draft =
      { draft with description := draft.description ++ description } := by
  induction description generalizing draft with
  | nil => simp
  | cons line description ih =>
    obtain ⟨oneLine, visible, text⟩ := plain line List.mem_cons_self
    rw [List.map_cons, List.map_cons, List.foldl_cons, oneLine.trimChars,
      read_text inside text (by simpa using visible),
      ih (by exact inside) fun other member => plain other (List.mem_cons_of_mem line member)]
    simp

theorem foldl_heading_raws {heading : List (List Char)} (plain : script.Plain)
    (described : Spread Margin script.heading heading) (ids : IdSource) :
    (heading.map Text.trimChars).foldl read { ids } =
      { ids, name := script.name, description := script.description, describing := true } := by
  have solid : Text.trimChars "Feature:".toList = "Feature:".toList := by decide
  obtain ⟨opened, name⟩ := line_trimChars solid (by decide) plain.name
  have blank : ∀ gap, Margin gap → ∀ draft : Draft, True →
      draft.read (Text.trimChars gap) = draft := by
    intro gap margin draft _
    rw [(Text.trimChars_eq_nil gap).mpr (List.all_eq_true.mpr margin.blank)]
    exact read_nil draft
  rw [described.foldl_read (fun _ => True) blank (fun _ _ _ _ => trivial) trivial, Script.heading,
    List.map_cons, List.foldl_cons, read_live rfl, readLive_eq, if_pos opened, name,
    foldl_description rfl plain.description]
  rfl

end Draft

/-! ### Scenarios -/

namespace Script

def part (scenario : String × List (StepKeyword × String)) : List Char × List (List Char) :=
  (Text.trimChars (line "Scenario:" scenario.1),
    scenario.2.map fun step => Text.trimChars (line step.1.name step.2))

theorem body_trimmed (script : Script) :
    script.body.map Text.trimChars =
      (script.scenarios.map part).flatMap fun part => part.1 :: part.2 := by
  simp [body, scenarioLines, part, List.map_flatMap, List.flatMap_map, Function.comp_def]

variable {script : Script}

theorem Plain.header (plain : script.Plain) {scenario : String × List (StepKeyword × String)}
    (stands : scenario ∈ script.scenarios) :
    opens "Scenario:" (part scenario).1 = true ∧ remainder "Scenario:" (part scenario).1 = scenario.1 := by
  have solid : Text.trimChars "Scenario:".toList = "Scenario:".toList := by decide
  rw [part]
  exact line_trimChars solid (by decide) (plain.scenarios scenario stands).1

theorem Plain.steps (plain : script.Plain) {scenario : String × List (StepKeyword × String)}
    (stands : scenario ∈ script.scenarios) :
    (∀ line ∈ (part scenario).2, ∃ step, step? line = some step) ∧
      (part scenario).2.filterMap step? = scenario.2 := by
  have each : ∀ step ∈ scenario.2,
      step? (Text.trimChars (line step.1.name step.2)) = some step := by
    rintro ⟨keyword, text⟩ told
    obtain ⟨oneLine, visible⟩ := (plain.scenarios scenario stands).2 _ told
    exact step?_line oneLine visible
  constructor
  · intro read member
    obtain ⟨step, told, rfl⟩ := List.mem_map.mp member
    exact ⟨step, each step told⟩
  · calc (part scenario).2.filterMap step?
        = scenario.2.filterMap (step? ∘ fun step => Text.trimChars (line step.1.name step.2)) :=
          List.filterMap_map
      _ = scenario.2.filterMap some := List.filterMap_congr each
      _ = scenario.2 := List.filterMap_some

theorem Plain.parts (plain : script.Plain) :
    ∀ block ∈ script.scenarios.map part, opens "Scenario:" block.1 = true ∧
      ∀ line ∈ block.2, opens "Scenario:" line = false := by
  intro _ member
  obtain ⟨scenario, stands, rfl⟩ := List.mem_map.mp member
  refine ⟨(plain.header stands).1, ?_⟩
  intro line stepped
  obtain ⟨step, found⟩ := (plain.steps stands).1 line stepped
  exact (plain_of_step? found).2

theorem Plain.toldBy (plain : script.Plain) :
    (script.scenarios.map part).map Draft.toldBy = script.scenarios := by
  rw [List.map_map]
  conv_rhs => rw [← List.map_id script.scenarios]
  refine List.map_congr_left ?_
  intro scenario stands
  rw [Function.comp_apply, Draft.toldBy, (plain.header stands).2, (plain.steps stands).2]
  rfl

theorem Plain.body_lines (plain : script.Plain) :
    ∀ line ∈ script.body.map Text.trimChars,
      opens "Scenario:" line = true ∨ ∃ step, step? line = some step := by
  rw [body_trimmed]
  intro line member
  obtain ⟨_, parts, member⟩ := List.mem_flatMap.mp member
  obtain ⟨scenario, stands, rfl⟩ := List.mem_map.mp parts
  rcases List.mem_cons.mp member with rfl | stepped
  · exact Or.inl (plain.header stands).1
  · exact Or.inr ((plain.steps stands).1 line stepped)

theorem Plain.body_plain (plain : script.Plain) :
    ∀ line ∈ script.body.map Text.trimChars, opens "Feature:" line = false := by
  intro line member
  rcases plain.body_lines line member with header | ⟨step, found⟩
  · exact plain_of_header header
  · exact (plain_of_step? found).1

theorem Plain.body_visible (plain : script.Plain) :
    ∀ line ∈ script.body.map Text.trimChars, line ≠ [] := by
  rintro line member rfl
  rcases plain.body_lines [] member with header | ⟨step, found⟩
  · cases header
  · cases found

end Script

namespace Draft

variable {draft : Draft} {script : Script}

theorem foldl_body (plain : script.Plain) (outside : draft.describing = false)
    (first : draft.scenarios = []) :
    let later := (script.body.map Text.trimChars).foldl read draft
    later.heading = draft.heading ∧ later.scenarios.map Scenario.told = script.scenarios := by
  constructor
  · rw [foldl_heading draft plain.body_visible, headingWith, outside, headingFrom_plain plain.body_plain]
    simp [descriptionFrom, heading]
  · obtain ⟨noneFinished, noneInHand⟩ := List.append_eq_nil_iff.mp first
    rw [foldl_told draft plain.body_visible, toldWith, outside, liveFrom_plain plain.body_plain,
      Script.body_trimmed, cut_flatMap plain.parts]
    simp [extended_nil, noneFinished, noneInHand, plain.toldBy]

/-- A line outside of a description begins none, unless it names the feature. -/
theorem read_outside {line : List Char} (outside : draft.describing = false)
    (plain : opens "Feature:" line = false) : (draft.read line).describing = false := by
  rw [read_live outside, (draft.readLive_plain plain).2, outside]

/-- A header ends a description, so that it is read as if there had been none. -/
theorem foldl_after_header {header : List Char} {lines raws : List (List Char)}
    (spread : Spread IsGap (header :: lines) raws)
    (opened : opens "Scenario" (Text.trimChars header) = true) :
    (raws.map Text.trimChars).foldl read draft =
      (raws.map Text.trimChars).foldl read { draft with describing := false } := by
  cases spread with
  | line padded =>
    rw [List.map_cons, List.foldl_cons, List.foldl_cons, padded.trimmed, read_scenario opened,
      read_scenario opened]

theorem foldl_body_raws {body : List (List Char)} (plain : script.Plain)
    (told : Spread IsGap script.body body) (first : draft.scenarios = []) :
    let later := (body.map Text.trimChars).foldl read draft
    later.heading = draft.heading ∧ later.scenarios.map Scenario.told = script.scenarios := by
  cases scenarios : script.scenarios with
  | nil =>
    rw [Script.body, scenarios] at told
    cases told
    exact ⟨rfl, by simp [first]⟩
  | cons scenario others =>
    have begins : ∃ lines, script.body = Script.line "Scenario:" scenario.1 :: lines := by
      rw [Script.body, scenarios]
      exact ⟨_, rfl⟩
    obtain ⟨lines, begins⟩ := begins
    have stands : scenario ∈ script.scenarios := scenarios ▸ List.mem_cons_self
    have opened : opens "Scenario" (Text.trimChars (Script.line "Scenario:" scenario.1)) = true :=
      scenario_of_header (plain.header stands).1
    have outside : ∀ line ∈ script.body, ∀ draft : Draft, draft.describing = false →
        (draft.read (Text.trimChars line)).describing = false :=
      fun line member _ outside =>
        read_outside outside (plain.body_plain _ (List.mem_map_of_mem member))
    rw [foldl_after_header (begins ▸ told) opened,
      told.foldl_read (·.describing = false) (fun _ gap _ => read_gap gap) outside rfl, ← scenarios]
    exact foldl_body plain rfl first

end Draft

/-! ### The whole file -/

namespace Script

variable {script : Script} {before heading body : List (List Char)}

theorem lines_laidOut (plain : script.Plain) (skipped : ∀ gap ∈ before, IsGap gap)
    (described : Spread Margin script.heading heading) (told : Spread IsGap script.body body) :
    Feature.lines (String.ofList (['\n'].intercalate (before ++ heading ++ body))) =
      (before ++ heading ++ body).map Text.trimChars := by
  have noFeed : ∀ raw ∈ before ++ heading ++ body, '\n' ∉ raw := by
    intro raw member
    rcases List.mem_append.mp member with front | late
    · rcases List.mem_append.mp front with early | middle
      · exact (skipped raw early).noFeed
      · exact described.noFeed (fun _ margin => margin.noFeed) plain.heading_noFeed raw middle
    · exact told.noFeed (fun _ gap => gap.noFeed) plain.body_noFeed raw late
  have some_lines : before ++ heading ++ body ≠ [] := by
    cases described
    simp
  rw [Feature.lines, String.toList_ofList, Text.pieces_intercalate noFeed some_lines]

theorem LaidOut.foldl_read {content : String} (plain : script.Plain) (laidOut : script.LaidOut content)
    (ids : IdSource) :
    let draft := (Feature.lines content).foldl Draft.read { ids }
    draft.heading = (script.name, script.description) ∧
      draft.scenarios.map Scenario.told = script.scenarios := by
  obtain ⟨skipped, described, told⟩ := laidOut
  rename_i before heading body
  have begun : (before.map Text.trimChars).foldl Draft.read { ids } = { ids } :=
    foldl_gaps fun gap member => Draft.read_gap (skipped gap member) rfl
  rw [lines_laidOut plain skipped described told, List.map_append, List.map_append, List.foldl_append,
    List.foldl_append, begun, Draft.foldl_heading_raws plain described]
  exact Draft.foldl_body_raws plain told rfl

end Script

/-- A file that a script was written to, in whatever layout, is read into what the script says: all but the
ids, which are taken from the source, is as it was written. -/
theorem ofFile_laidOut (ids : IdSource) (file : String) {script : Script} {content : String}
    (plain : script.Plain) (laidOut : script.LaidOut content) :
    (ofFile ids file content).1.withoutIds =
      { id := ""
        name := script.name
        description := String.intercalate " " script.description
        scenarios := script.scenarios.map Scenario.ofTold
        source := ⟨file, content, Fingerprint.ofText content⟩ } := by
  obtain ⟨heading, scenarios⟩ := laidOut.foldl_read plain ids.next.2
  have name : (ofFile ids file content).1.name = script.name := congrArg Prod.fst heading
  have description : (ofFile ids file content).1.description =
      String.intercalate " " script.description :=
    congrArg (fun heading : String × List String => String.intercalate " " heading.2) heading
  have told : (ofFile ids file content).1.scenarios.map Scenario.told = script.scenarios := scenarios
  rw [withoutIds, name, description, ofFile_scenarios, told]
  rfl

/-- Lines that end in a carriage return, a comment among the steps, a text that looks like a header, and a
scenario without a name. -/
theorem ofFile_laidOut_sample :
    let script : Script :=
      { name := "Login", description := ["Old users"]
        scenarios := [("Plain", [(.given, "Scenario: two")]), ("", [])] }
    let content := String.intercalate "\n"
      ["# old\r", "\tFeature: Login \r", "\r", "  Old users\r", "Scenario: Plain\r", " # soon\r",
        "  Given Scenario: two\r", "Scenario: \r", ""]
    script.Plain ∧ script.LaidOut content ∧
      (ofFile (.sequential "id") "login.feature" content).1.withoutIds =
        { id := "", name := "Login", description := "Old users"
          scenarios := [.ofTold ("Plain", [(.given, "Scenario: two")]), .ofTold ("", [])]
          source := ⟨"login.feature", content, Fingerprint.ofText content⟩ } := by
  intro script content
  have plain : script.Plain := ⟨by decide, by decide, by decide⟩
  have returned (before line : List Char) (margin : Margin before) :
      Padded line (before ++ line ++ ['\r']) := ⟨before, ['\r'], margin, by decide, rfl⟩
  have comment (before rest : List Char) (margin : Margin before) (noFeed : '\n' ∉ rest) :
      IsGap (before ++ '#' :: rest) := Or.inr ⟨before, rest, margin, noFeed, rfl⟩
  have one {Gap : List Char → Prop} {gap : List Char} (holds : Gap gap) : ∀ raw ∈ [gap], Gap raw := by
    simpa using holds
  have none {Gap : List Char → Prop} : ∀ raw ∈ ([] : List (List Char)), Gap raw := by simp
  have blank : Margin ['\r'] := by decide
  have named : Padded (Script.line "Feature:" "Login") "\tFeature: Login \r".toList :=
    ⟨['\t'], [' ', '\r'], by decide, by decide, rfl⟩
  have described : Spread Margin script.heading _ :=
    .line named (one blank) (.line (returned [' ', ' '] _ (by decide)) none .nil)
  have told : Spread IsGap script.body _ :=
    .line (returned [] _ (by decide)) (one (comment [' '] " soon\r".toList (by decide) (by decide)))
      (.line (returned [' ', ' '] _ (by decide)) none
        (.line (returned [] _ (by decide)) (one (Or.inl (by decide : Margin []))) .nil))
  have laidOut : script.LaidOut content :=
    .written (one (comment [] " old\r".toList (by decide) (by decide))) described told
  exact ⟨plain, laidOut, ofFile_laidOut (.sequential "id") "login.feature" plain laidOut⟩

end Testbook.Feature
