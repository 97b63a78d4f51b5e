import Testbook.Proofs.Run.Independent
import Testbook.Report.Markdown

/-! A document is put together from sections that do not see each other. Whatever is recorded or noted of
one scenario shows in its own section only, and a run in which nothing has been recorded shows what its
feature shows, with the time at the foot. -/

set_option autoImplicit false

namespace Testbook

def Feature.IsUntested (feature : Feature) : Prop :=
  ∀ scenario ∈ feature.scenarios, scenario.status = .untested ∧
    ∀ step ∈ scenario.steps, step.result = .untested

theorem Scenario.cleared_eq {scenario : Scenario} (status : scenario.status = .untested)
    (steps : ∀ step ∈ scenario.steps, step.result = .untested) : scenario.cleared = scenario := by
  have each : ∀ step ∈ scenario.steps, step.bearing .untested = step := by
    intro step member
    rw [Step.bearing, ← steps step member]
  have same : scenario.steps.map (·.bearing .untested) = scenario.steps :=
    (List.map_congr_left each).trans (List.map_id' _)
  calc scenario.cleared
      = { scenario with status := .untested, steps := scenario.steps.map (·.bearing .untested) } := rfl
    _ = scenario := by rw [same, ← status]

theorem Feature.IsUntested.snapshot_scenarios {feature : Feature} (untested : feature.IsUntested)
    (environment : Environment) (version id : String) (now : Instant) :
    (Run.snapshot feature environment version id now).scenarios = feature.scenarios := by
  have each : ∀ scenario ∈ feature.scenarios, scenario.cleared = scenario := fun scenario member =>
    Scenario.cleared_eq (untested scenario member).1 (untested scenario member).2
  exact (List.map_congr_left each).trans (List.map_id' _)

structure Run.DistinctIds (run : Run) : Prop where
  scenarios : (run.scenarios.map (·.id)).Nodup
  steps : ((run.scenarios.flatMap (·.steps)).map (·.id)).Nodup

namespace Report.Markdown

variable {feature : Feature} {run changed : Run}

/-! ### Writing -/

/-- What is written is added at the end, and does not depend on what stands there. -/
def Appends (write : String → String) : Prop := ∀ out, write out = out ++ write ""

theorem Appends.followed {first second : String → String} (one : Appends first) (other : Appends second) :
    Appends fun out => second (first out) := by
  intro out
  calc second (first out)
      = out ++ first "" ++ second "" := by rw [other, one]
    _ = out ++ second (first "") := by rw [other (first ""), String.append_assoc]

theorem Appends.foldl {α : Type} {write : String → α → String} (each : ∀ x, Appends (write · x))
    (xs : List α) : Appends fun out => xs.foldl write out := by
  induction xs with
  | nil => exact fun out => String.append_empty.symm
  | cons x xs ih => exact (each x).followed ih

theorem writeAttachment_appends (attachment : Attachment) : Appends (writeAttachment · attachment) := by
  intro out
  simp [writeAttachment, String.append_assoc]

theorem writeAnnotations_appends (note : Option String) (attachments : List Attachment) :
    Appends (writeAnnotations · note attachments) := by
  have noted : Appends fun out => note.elim out fun n => out ++ "> Note: " ++ n ++ "\n\n" := by
    intro out
    cases note with
    | none => simp
    | some note => simp [String.append_assoc]
  have ended : Appends (· ++ "\n") := fun out => by simp
  have listed := (Appends.foldl writeAttachment_appends attachments).followed ended
  cases empty : attachments.isEmpty with
  | true => simpa [writeAnnotations, empty] using noted
  | false => simpa [writeAnnotations, empty] using noted.followed listed

theorem writeStep_appends (step : Step) : Appends (writeStep · step) := by
  have heading : Appends fun out =>
      out ++ "**" ++ step.keyword.capitals ++ "** " ++ step.text ++ " " ++ step.result.icon ++ "\n\n" := by
    intro out
    simp [String.append_assoc]
  exact heading.followed (writeAnnotations_appends step.note step.attachments)

theorem writeScenario_appends (scenario : Scenario) : Appends (writeScenario · scenario) := by
  have heading : Appends fun out =>
      out ++ "## " ++ scenario.status.icon ++ " " ++ scenario.name ++ "\n\n" := by
    intro out
    simp [String.append_assoc]
  have steps := Appends.foldl writeStep_appends scenario.steps
  exact heading.followed
    (steps.followed (writeAnnotations_appends scenario.note scenario.attachments))

/-! ### Sections -/

def scenarioSection (scenario : Scenario) : String := writeScenario "" scenario

/-- A heading, the sections with a rule between each two, and a foot if there is a time to be told. -/
def document (name description : String) (sections : List String) (created : Option Instant) : String :=
  header name description ++ Text.joinWith rule sections ++ created.elim "" footer

-- The index is less than the last one exactly where another scenario follows.
theorem writeScenarios_eq {count index : Nat} {scenarios : List Scenario}
    (all : index + scenarios.length = count) (out : String) :
    writeScenarios count out index scenarios =
      out ++ Text.joinWith rule (scenarios.map scenarioSection) := by
  induction scenarios generalizing index out with
  | nil => simp [writeScenarios, Text.joinWith]
  | cons scenario rest ih =>
    have rest_all : index + 1 + rest.length = count := by
      rw [List.length_cons] at all
      omega
    have written : writeScenario out scenario = out ++ scenarioSection scenario :=
      writeScenario_appends scenario out
    rw [writeScenarios, ih rest_all, written]
    cases rest with
    | nil =>
      have last : ¬index + 1 < count := by simp at rest_all; omega
      simp [last, Text.joinWith]
    | cons next more =>
      have another : index + 1 < count := by simp at rest_all; omega
      simp [another, Text.joinWith, String.intercalate_cons_cons, String.append_assoc]

theorem render_eq (feature : Feature) (run : Option Run) :
    render feature run = document feature.name feature.description
      ((run.elim feature.scenarios (·.scenarios)).map scenarioSection) (run.map (·.createdAt)) := by
  have written := writeScenarios_eq (Nat.zero_add (run.elim feature.scenarios (·.scenarios)).length)
    (header feature.name feature.description)
  rw [render, written, document]
  cases run with
  | none => simp
  | some run => rfl

/-! ### One section -/

/-- One scenario alone is named, and another stands in its place later. The documents differ in the section
of this scenario. -/
def ChangesOneSection (names : Scenario → Bool) (feature : Feature) (run changed : Run) : Prop :=
  ∃ before scenario after later, run.scenarios = before ++ scenario :: after ∧
    names scenario = true ∧ (∀ other ∈ before ++ after, names other = false) ∧
    render feature (some run) = document feature.name feature.description
      (before.map scenarioSection ++ scenarioSection scenario :: after.map scenarioSection)
      (some run.createdAt) ∧
    render feature (some changed) = document feature.name feature.description
      (before.map scenarioSection ++ scenarioSection later :: after.map scenarioSection)
      (some run.createdAt)

/-- Of several scenarios that have no key in common one only bears a given one. -/
theorem named_once {key : Scenario → List String} {before after : List Scenario} {scenario : Scenario}
    {id : String} (distinct : ((before ++ scenario :: after).flatMap key).Nodup)
    (stands : id ∈ key scenario) : ∀ other ∈ before ++ after, id ∉ key other := by
  intro other member stands'
  have moved : ((scenario :: (before ++ after)).flatMap key).Nodup :=
    (List.perm_middle.flatMap_right key).nodup_iff.mp distinct
  rw [List.flatMap_cons] at moved
  exact List.disjoint_of_nodup_append moved stands (List.mem_flatMap.mpr ⟨other, member, stands'⟩)

theorem changesOneSection {names : Scenario → Bool} {f : Scenario → Scenario}
    {key : Scenario → List String} (id : String) (distinct : (run.scenarios.flatMap key).Nodup)
    (named : ∀ scenario, names scenario = true ↔ id ∈ key scenario)
    (known : run.scenarios.any names = true) (created : changed.createdAt = run.createdAt)
    (scenarios : changed.scenarios = modifyFirst names f run.scenarios) :
    ChangesOneSection names feature run changed := by
  obtain ⟨scenario, found⟩ :=
    Option.isSome_iff_exists.mp (List.find?_isSome.mpr (List.any_eq_true.mp known))
  obtain ⟨before, after, whole, whole'⟩ := modifyFirst_split f found
  have holds := List.find?_some found
  refine ⟨before, scenario, after, f scenario, whole, holds, ?_, ?_, ?_⟩
  · intro other member
    have apart := named_once (whole ▸ distinct) ((named scenario).mp holds) other member
    exact Bool.eq_false_iff.mpr fun also => apart ((named other).mp also)
  · rw [render_eq]
    simp [whole]
  · rw [render_eq]
    simp [scenarios, whole', created]

-- A scenario is named by its own id, or by that of one of its steps.
theorem changesOneSection_scenario {id : String} {f : Scenario → Scenario} (distinct : run.DistinctIds)
    (known : run.hasScenario id = true) (created : changed.createdAt = run.createdAt)
    (scenarios : changed.scenarios = modifyFirst (·.id = id) f run.scenarios) :
    ChangesOneSection (·.id = id) feature run changed := by
  have distinct' : (run.scenarios.flatMap fun scenario => [scenario.id]).Nodup := by
    rw [← List.map_eq_flatMap]
    exact distinct.scenarios
  exact changesOneSection id distinct' (fun scenario => by simp [eq_comm]) known created scenarios

theorem changesOneSection_step {step : String} {f : Scenario → Scenario} (distinct : run.DistinctIds)
    (known : run.hasStep step = true) (created : changed.createdAt = run.createdAt)
    (scenarios : changed.scenarios = modifyFirst (·.hasStep step) f run.scenarios) :
    ChangesOneSection (·.hasStep step) feature run changed := by
  have distinct' : (run.scenarios.flatMap fun scenario => scenario.steps.map (·.id)).Nodup := by
    rw [← List.map_flatMap]
    exact distinct.steps
  have named (scenario : Scenario) :
      scenario.hasStep step = true ↔ step ∈ scenario.steps.map (·.id) := by
    simp [Scenario.hasStep]
  exact changesOneSection step distinct' named known created scenarios

def ShowsResult (names : Scenario → Bool) (feature : Feature) (run : Run) : Bool × Run → Prop
  | (true, changed) => ChangesOneSection names feature run changed
  | (false, changed) => changed = run

theorem setStepResult_shows {step : String} {outcome : Outcome} {applied : Bool}
    (distinct : run.DistinctIds) (result : run.setStepResult step outcome = (.ok applied, changed)) :
    ShowsResult (·.hasStep step) feature run (applied, changed) := by
  unfold Run.setStepResult at result
  split at result
  · cases result
    rfl
  split at result
  · rename_i known
    cases result
    exact changesOneSection_step distinct known rfl rfl
  · cases result

theorem setScenarioResult_shows {scenario : String} {outcome : Outcome} {applied : Bool}
    (distinct : run.DistinctIds)
    (result : run.setScenarioResult scenario outcome = (.ok applied, changed)) :
    ShowsResult (·.id = scenario) feature run (applied, changed) := by
  unfold Run.setScenarioResult at result
  split at result
  · cases result
    rfl
  split at result
  · rename_i known
    cases result
    exact changesOneSection_scenario distinct known rfl rfl
  · cases result

theorem annotation_shows {remark : Annotation} (distinct : run.DistinctIds)
    (result : remark.perform run = (.ok (), changed)) :
    ChangesOneSection remark.place feature run changed := by
  rw [remark.perform_eq] at result
  split at result
  · rename_i known
    cases result
    cases remark with
    | setStepNote | addStepAttachment => exact changesOneSection_step distinct known rfl rfl
    | setScenarioNote | addScenarioAttachment => exact changesOneSection_scenario distinct known rfl rfl
  · cases result

/-- A document is a heading, the sections of its scenarios and a foot. What is recorded or noted of a run
changes the section of the scenario that is named, and of an untested feature a new run shows the same. -/
theorem document_by_sections (feature : Feature) :
    (∀ run : Option Run, render feature run = document feature.name feature.description
      ((run.elim feature.scenarios (·.scenarios)).map scenarioSection) (run.map (·.createdAt))) ∧
    (∀ run : Run, run.DistinctIds →
      (∀ step outcome applied changed, run.setStepResult step outcome = (.ok applied, changed) →
        ShowsResult (·.hasStep step) feature run (applied, changed)) ∧
      (∀ scenario outcome applied changed,
        run.setScenarioResult scenario outcome = (.ok applied, changed) →
          ShowsResult (·.id = scenario) feature run (applied, changed)) ∧
      ∀ (remark : Annotation) changed, remark.perform run = (.ok (), changed) →
        ChangesOneSection remark.place feature run changed) ∧
    (feature.IsUntested → ∀ environment version id now,
      render feature (some (.snapshot feature environment version id now)) =
        render feature none ++ footer now) := by
  refine ⟨render_eq feature, fun run distinct => ?_, fun untested environment version id now => ?_⟩
  · exact ⟨fun _ _ _ _ => setStepResult_shows distinct, fun _ _ _ _ => setScenarioResult_shows distinct,
      fun _ _ => annotation_shows distinct⟩
  · have same := untested.snapshot_scenarios environment version id now
    rw [render_eq, render_eq]
    simp only [Option.elim_some, Option.elim_none, Option.map_some, Option.map_none, same]
    rw [document, document]
    simp [Run.snapshot]

/-- A feature of two scenarios, of which the first has a note. -/
theorem document_by_sections_sample :
    let feature : Feature :=
      { id := "f", name := "Sale", source := ⟨"sale.feature", "", ""⟩
        scenarios :=
          [{ id := "a", name := "Card", steps := [⟨"a-1", .given, "a cart", .untested, none, []⟩]
             note := some "slow" }, { id := "b", name := "Cash" }] }
    let run := Run.snapshot feature .staging "1.0" "r" .epoch
    let remark : Annotation := .setScenarioNote "b" "by hand"
    (∃ changed, run.setStepResult "a-1" .failed = (.ok true, changed) ∧
        ShowsResult (·.hasStep "a-1") feature run (true, changed)) ∧
      (∃ changed, run.setScenarioResult "b" .passed = (.ok true, changed) ∧
        ShowsResult (·.id = "b") feature run (true, changed)) ∧
      (∃ changed, remark.perform run = (.ok (), changed) ∧
        ChangesOneSection remark.place feature run changed) ∧
      render feature (some run) = render feature none ++ footer .epoch := by
  intro feature run remark
  have distinct : run.DistinctIds := ⟨by decide, by decide⟩
  have untested : feature.IsUntested := by simp [feature, Feature.IsUntested]
  obtain ⟨-, changes, copies⟩ := document_by_sections feature
  obtain ⟨steps, scenarios, remarks⟩ := changes run distinct
  exact ⟨⟨_, rfl, steps _ _ _ _ rfl⟩, ⟨_, rfl, scenarios _ _ _ _ rfl⟩, ⟨_, rfl, remarks _ _ rfl⟩,
    copies untested .staging "1.0" "r" .epoch⟩

end Report.Markdown

end Testbook
