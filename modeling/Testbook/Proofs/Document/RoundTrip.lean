import Testbook.Document.Reader
import Testbook.Document.Written
import Testbook.Proofs.Instant.Stamp
import Testbook.Proofs.Json.Exact
import Testbook.Proofs.Json.ReadBack

/-! A project is read back from its document as it was, if the numbers in it have 64 bits. -/

set_option autoImplicit false

namespace Testbook

open Document Json

@[simp] theorem AttachmentKind.ofName?_name (kind : AttachmentKind) : ofName? kind.name = some kind := by
  cases kind <;> rfl

@[simp] theorem StepKeyword.ofName?_name (keyword : StepKeyword) :
    ofName? keyword.name = some keyword := by
  cases keyword <;> rfl

@[simp] theorem Outcome.ofName?_name (outcome : Outcome) : ofName? outcome.name = some outcome := by
  cases outcome <;> rfl

@[simp] theorem Environment.ofName?_name (environment : Environment) :
    ofName? environment.name = some environment := by
  cases environment <;> rfl

@[simp] theorem RunStatus.ofName?_name (status : RunStatus) : ofName? status.name = some status := by
  cases status <;> rfl

structure RunSummary.Fits (summary : RunSummary) : Prop where
  total : summary.total < wordLimit
  passed : summary.passed < wordLimit
  failed : summary.failed < wordLimit
  skipped : summary.skipped < wordLimit
  untested : summary.untested < wordLimit

namespace Document

/-! ### Fields -/

variable {α : Type}

@[simp] theorem once?_eq (key : String) (members : List (Option String × Tree)) :
    Tree.once? key members = (Tree.under? key members).bind fun found =>
      match found with
      | [] => some none
      | [item] => some (some item)
      | _ => none := rfl

@[simp] theorem under?_nil (key : String) : Tree.under? key [] = some [] := rfl

@[simp] theorem under?_cons (key name : String) (item : Tree)
    (members : List (Option String × Tree)) :
    Tree.under? key ((some name, item) :: members) =
      (Tree.under? key members).map fun found => if name = key then item :: found else found := by
  cases found : Tree.under? key members <;> simp [Tree.under?, found]

@[simp] theorem fields?_record (names : List String) (members : List (Option String × Tree)) :
    Tree.fields? names (.record members) = names.mapM fun name => Tree.once? name members := rfl

@[simp] theorem required_some (read : Tree → Option α) (tree : Tree) :
    required read (some tree) = read tree := rfl

@[simp] theorem defaulting_none (value : α) (read : Tree → Option α) :
    defaulting value read none = some value := rfl

@[simp] theorem defaulting_some (value : α) (read : Tree → Option α) (tree : Tree) :
    defaulting value read (some tree) = read tree := rfl

@[simp] theorem nullable_none (read : Tree → Option α) : nullable read none = some none := rfl

@[simp] theorem nullable_text (read : Tree → Option α) (s : String) :
    nullable read (some (.text (some s))) = (read (.text (some s))).map some := rfl

@[simp] theorem text?_text (s : String) : Tree.text? (.text (some s)) = some s := rfl

@[simp] theorem bool?_bool (b : Bool) : Tree.bool? (.bool b) = some b := rfl

@[simp] theorem named_text (ofName? : String → Option α) (s : String) :
    named ofName? (.text (some s)) = ofName? s := rfl

@[simp] theorem instant_stamp (t : Instant) : instant (.text (some t.stamp)) = some t := by
  rw [instant, text?_text, Option.bind_some, Instant.ofText?_stamp]

theorem nat?_ofInt {n : Nat} (bound : n < wordLimit) :
    Tree.nat? (.number (Numeral.ofInt n)) = some n := by
  simp [Tree.nat?, Numeral.nat?, Numeral.ofInt, bound]

theorem listOf_trees {read : Tree → Option α} {json : α → Json} {items : List α}
    (each : ∀ item ∈ items, read (json item).tree = some item) :
    listOf read (.list (trees (items.map json))) = some items := by
  rw [trees_map]
  simp only [listOf, Tree.items?, Option.bind_some]
  induction items with
  | nil => rfl
  | cons item items ih =>
    have first := each item List.mem_cons_self
    have others := ih fun other member => each other (List.mem_cons_of_mem item member)
    simp [first, others]

theorem listOf_texts (texts : List String) :
    listOf Tree.text? (.list (trees (texts.map .text))) = some texts :=
  listOf_trees fun _ _ => rfl

end Document

/-! ### Records -/

theorem Attachment.ofTree?_json (a : Attachment) : Attachment.ofTree? a.json.tree = some a := by
  simp [Attachment.ofTree?, Attachment.json, tree, memberTrees]

theorem Attachment.listOf_json (attachments : List Attachment) :
    listOf Attachment.ofTree? (.list (trees (attachments.map Attachment.json))) =
      some attachments :=
  listOf_trees fun a _ => a.ofTree?_json

theorem Step.ofTree?_json (step : Step) : Step.ofTree? step.json.tree = some step := by
  obtain ⟨id, keyword, text, result, note, attachments⟩ := step
  have kept := Attachment.listOf_json attachments
  -- What is left out of a document decides which of its fields are found.
  cases attachments with
  | nil =>
    cases note <;>
      simp [Step.ofTree?, Step.json, Json.optional, Attachment.member, tree, memberTrees]
  | cons first others =>
    rw [List.map_cons] at kept
    cases note <;>
      simp [Step.ofTree?, Step.json, Json.optional, Attachment.member, tree, memberTrees, kept]

theorem Scenario.ofTree?_json (scenario : Scenario) :
    Scenario.ofTree? scenario.json.tree = some scenario := by
  obtain ⟨id, name, steps, status, tags, note, attachments⟩ := scenario
  have stepsRead : listOf Step.ofTree? (.list (trees (steps.map Step.json))) = some steps :=
    listOf_trees fun step _ => step.ofTree?_json
  have kept := Attachment.listOf_json attachments
  cases attachments with
  | nil =>
    cases note <;>
      simp [Scenario.ofTree?, Scenario.json, Json.optional, Attachment.member, tree, memberTrees,
        stepsRead, listOf_texts]
  | cons first others =>
    rw [List.map_cons] at kept
    cases note <;>
      simp [Scenario.ofTree?, Scenario.json, Json.optional, Attachment.member, tree, memberTrees,
        stepsRead, listOf_texts, kept]

theorem Scenario.listOf_json (scenarios : List Scenario) :
    listOf Scenario.ofTree? (.list (trees (scenarios.map Scenario.json))) = some scenarios :=
  listOf_trees fun scenario _ => scenario.ofTree?_json

theorem SourceFile.ofTree?_json (source : SourceFile) :
    SourceFile.ofTree? source.json.tree = some source := by
  simp [SourceFile.ofTree?, SourceFile.json, tree, memberTrees]

theorem Feature.ofTree?_json (feature : Feature) :
    Feature.ofTree? feature.json.tree = some feature := by
  simp [Feature.ofTree?, Feature.json, tree, memberTrees, Scenario.listOf_json, listOf_texts,
    SourceFile.ofTree?_json]

theorem RunSummary.ofTree?_json (summary : RunSummary) (fits : summary.Fits) :
    RunSummary.ofTree? summary.json.tree = some summary := by
  simp [RunSummary.ofTree?, RunSummary.json, Json.nat, tree, memberTrees, nat?_ofInt fits.total,
    nat?_ofInt fits.passed, nat?_ofInt fits.failed, nat?_ofInt fits.skipped,
    nat?_ofInt fits.untested]

theorem Run.ofTree?_json (run : Run) (fits : run.summary.Fits) :
    Run.ofTree? run.json.tree = some run := by
  have summary := RunSummary.ofTree?_json run.summary fits
  obtain ⟨id, featureId, createdAt, environment, version, scenarios, _, status, completedAt,
    locked⟩ := run
  cases completedAt <;>
    simp [Run.ofTree?, Run.json, Json.optional, tree, memberTrees, Scenario.listOf_json, summary]

theorem Project.ofTree?_json (project : Project) (fits : ∀ run ∈ project.runs, run.summary.Fits) :
    Project.ofTree? project.json.tree = some project := by
  obtain ⟨id, name, description, features, runs⟩ := project
  have featuresRead :
      listOf Feature.ofTree? (.list (trees (features.map Feature.json))) = some features :=
    listOf_trees fun feature _ => feature.ofTree?_json
  have runsRead : listOf Run.ofTree? (.list (trees (runs.map Run.json))) = some runs :=
    listOf_trees fun run member => run.ofTree?_json (fits run member)
  cases description <;>
    simp [Project.ofTree?, Project.json, Json.optional, tree, memberTrees, featuresRead, runsRead]

/-! ### Whole documents -/

theorem Attachment.member_isExact (attachments : List Attachment) :
    membersExact (Attachment.member attachments) := by
  cases attachments <;> simp [Attachment.member, membersExact, areExact, isExact, Attachment.json]

theorem Scenario.json_isExact (scenario : Scenario) : scenario.json.isExact := by
  have step (step : Step) : step.json.isExact := by
    cases note : step.note <;>
      simp [Step.json, isExact, membersExact, Json.optional, note, Attachment.member_isExact]
  cases note : scenario.note <;>
    simp [Scenario.json, isExact, membersExact, Json.optional, note, Attachment.member_isExact, step]

-- Counts are the only numbers in a document.
theorem Project.json_isExact (project : Project) (fits : ∀ run ∈ project.runs, run.summary.Fits) :
    project.json.isExact := by
  have feature (feature : Feature) : feature.json.isExact := by
    simp [Feature.json, SourceFile.json, isExact, membersExact, Scenario.json_isExact]
  have summary (summary : RunSummary) (fits : summary.Fits) : summary.json.isExact := by
    obtain ⟨total, passed, failed, skipped, untested⟩ := fits
    simp [RunSummary.json, Json.nat, isExact, membersExact]
    omega
  have run (run : Run) (fits : run.summary.Fits) : run.json.isExact := by
    cases completedAt : run.completedAt <;>
      simp [Run.json, isExact, membersExact, Json.optional, completedAt, Scenario.json_isExact,
        summary run.summary fits]
  cases description : project.description <;>
    simp_all [Project.json, isExact, membersExact, Json.optional]

/-! ### How deep a document is -/

theorem Attachment.member_depth_le (attachments : List Attachment) :
    Tree.memberDepths (memberTrees (Attachment.member attachments)) ≤ 2 := by
  have each : Tree.depths (trees (attachments.map Attachment.json)) ≤ 1 :=
    depths_map_le _ _ 1 fun a _ => by
      simp [Attachment.json, tree, memberTrees, Tree.depth, Tree.memberDepths]
  cases attachments with
  | nil => simp [Attachment.member, memberTrees, Tree.memberDepths]
  | cons first others =>
    simp only [Attachment.member, List.isEmpty_cons, Bool.false_eq_true, if_false, memberTrees, tree,
      Tree.memberDepths, Tree.depth]
    omega

theorem optional_text_depth (key : String) (text : Option String) :
    Tree.memberDepths (memberTrees (Json.optional key (text.map .text))) = 0 := by
  cases text <;> simp [Json.optional, memberTrees, tree, Tree.memberDepths, Tree.depth]

theorem texts_depth_le (texts : List String) :
    Tree.depths (trees (texts.map Json.text)) ≤ 0 :=
  depths_map_le _ _ 0 fun _ _ => by simp [tree, Tree.depth]

theorem Step.json_depth_le (step : Step) : step.json.tree.depth ≤ 3 := by
  have kept := Attachment.member_depth_le step.attachments
  simp [Step.json, tree, memberTrees, Tree.depth, Tree.memberDepths, optional_text_depth]
  omega

theorem Scenario.json_depth_le (scenario : Scenario) : scenario.json.tree.depth ≤ 5 := by
  have kept := Attachment.member_depth_le scenario.attachments
  have steps := depths_map_le Step.json scenario.steps 3 fun step _ => step.json_depth_le
  have tags := texts_depth_le scenario.tags
  simp [Scenario.json, tree, memberTrees, Tree.depth, Tree.memberDepths, optional_text_depth]
  omega

theorem Feature.json_depth_le (feature : Feature) : feature.json.tree.depth ≤ 7 := by
  have scenarios :=
    depths_map_le Scenario.json feature.scenarios 5 fun scenario _ => scenario.json_depth_le
  have tags := texts_depth_le feature.tags
  simp [Feature.json, SourceFile.json, tree, memberTrees, Tree.depth, Tree.memberDepths]
  omega

theorem Run.json_depth_le (run : Run) : run.json.tree.depth ≤ 7 := by
  have scenarios :=
    depths_map_le Scenario.json run.scenarios 5 fun scenario _ => scenario.json_depth_le
  cases completedAt : run.completedAt <;>
    (simp [Run.json, RunSummary.json, Json.nat, Json.optional, completedAt, tree, memberTrees,
      Tree.depth, Tree.memberDepths]; omega)

/-- Nine levels: a project, its runs, a run, its scenarios, a scenario, its steps, a step, its
attachments, and an attachment. -/
theorem Project.json_depth_le (project : Project) : project.json.tree.depth ≤ 9 := by
  have features :=
    depths_map_le Feature.json project.features 7 fun feature _ => feature.json_depth_le
  have runs := depths_map_le Run.json project.runs 7 fun run _ => run.json_depth_le
  simp [Project.json, tree, memberTrees, Tree.depth, Tree.memberDepths, optional_text_depth]
  omega

/-! ### The texts of documents -/

theorem Project.ofText?_compact (project : Project)
    (fits : ∀ run ∈ project.runs, run.summary.Fits) :
    Project.ofText? project.json.compact = some project := by
  rw [Project.ofText?, Tree.ofText?_compact _ (project.json_isExact fits), Option.bind_some,
    project.ofTree?_json fits]

theorem Project.ofText?_pretty (project : Project)
    (fits : ∀ run ∈ project.runs, run.summary.Fits) :
    Project.ofText? project.json.pretty = some project := by
  rw [Project.ofText?, Tree.ofText?_pretty _ (project.json_isExact fits), Option.bind_some,
    project.ofTree?_json fits]

end Testbook
