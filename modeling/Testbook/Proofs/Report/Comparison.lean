import Testbook.Proofs.First
import Testbook.Proofs.Report.Newest
import Testbook.Proofs.Run.Outline

/-! A comparison of two runs of the same scenarios leaves none out: each has one row, with its status in
either run. So rows and summaries count the same. -/

set_option autoImplicit false

namespace Testbook

theorem RunSummary.count_ofScenarios (scenarios : List Scenario) (outcome : Outcome) :
    (ofScenarios scenarios).count outcome = statusCount scenarios outcome := by
  cases outcome <;> rfl

namespace Report

theorem Change.isSome_between? (before after : Outcome) :
    (between? before after).isSome = decide (before ≠ after) := by
  cases before <;> cases after <;> rfl

namespace Comparison

/-! ### Two runs -/

section Runs

variable {before after : Run} (same : after.scenarios.map (·.id) = before.scenarios.map (·.id))
  (distinct : (before.scenarios.map (·.id)).Nodup)

theorem rows_before (before after : Run) :
    (ofRuns before after).rows.map (fun row => (row.scenario, row.before)) =
      before.scenarios.map (fun scenario => (scenario.id, scenario.status)) := by
  simp [ofRuns]

include same distinct

-- A row looks for its scenario by id, and so finds the one that stands at its own place.
theorem rows_after :
    (ofRuns before after).rows.map (fun row => (row.scenario, row.after)) =
      after.scenarios.map (fun scenario => (scenario.id, scenario.status)) := by
  let entry (id : String) : String × Outcome := (id, (after.findScenario? id).elim .untested (·.status))
  have found : ∀ scenario ∈ after.scenarios,
      after.findScenario? scenario.id = some scenario :=
    fun scenario member => find?_key_of_mem (same ▸ distinct) member
  calc (ofRuns before after).rows.map (fun row => (row.scenario, row.after))
      = (before.scenarios.map (·.id)).map entry := by simp [ofRuns, entry]
    _ = (after.scenarios.map (·.id)).map entry := by rw [same]
    _ = after.scenarios.map (fun scenario => (scenario.id, scenario.status)) := by
        rw [List.map_map]
        refine List.map_congr_left ?_
        intro scenario member
        simp [entry, found scenario member]

end Runs

theorem length_changedRows (c : Comparison) :
    c.changedRows.length = c.rows.countP fun row => row.before ≠ row.after := by
  rw [changedRows, ← List.countP_eq_length_filter]
  simp only [Row.change?, Change.isSome_between?]

/-- Every scenario of a feature and of two of its runs stands in a comparison once, with its statuses as
they are, and these add up to the summaries. -/
structure AddsUp (c : Comparison) (feature : Feature) (before after : Run) : Prop where
  scenarios : c.rows.map (fun row => (row.scenario, row.name)) =
    feature.scenarios.map (fun scenario => (scenario.id, scenario.name))
  once : (c.rows.map (·.scenario)).Nodup
  before : c.rows.map (fun row => (row.scenario, row.before)) =
    before.scenarios.map (fun scenario => (scenario.id, scenario.status))
  after : c.rows.map (fun row => (row.scenario, row.after)) =
    after.scenarios.map (fun scenario => (scenario.id, scenario.status))
  beforeCount : ∀ outcome, c.rows.countP (·.before = outcome) = c.beforeSummary.count outcome
  afterCount : ∀ outcome, c.rows.countP (·.after = outcome) = c.afterSummary.count outcome
  changed : c.changedRows.length = c.rows.countP fun row => row.before ≠ row.after

theorem countP_rows {c : Comparison} {run : Run} {side : Row → Outcome}
    (rows : c.rows.map (fun row => (row.scenario, side row)) =
      run.scenarios.map (fun scenario => (scenario.id, scenario.status)))
    (summary : run.summary = .ofScenarios run.scenarios) (outcome : Outcome) :
    c.rows.countP (fun row => side row = outcome) = run.summary.count outcome := by
  have counted := congrArg (List.countP fun entry : String × Outcome => entry.2 = outcome) rows
  rw [List.countP_map, List.countP_map] at counted
  rw [summary, RunSummary.count_ofScenarios]
  exact counted

theorem ofRuns_addsUp {feature : Feature} {before after : Run}
    (distinct : (feature.scenarios.map (·.id)).Nodup) (first : before.outlines = feature.scenarios)
    (second : after.outlines = feature.scenarios)
    (beforeSummary : before.summary = .ofScenarios before.scenarios)
    (afterSummary : after.summary = .ofScenarios after.scenarios) :
    (ofRuns before after).AddsUp feature before after := by
  have told {run : Run} (follows : run.outlines = feature.scenarios) :
      run.scenarios.map (fun scenario => (scenario.id, scenario.name)) =
        feature.scenarios.map (fun scenario => (scenario.id, scenario.name)) := by
    rw [← follows, Run.outlines, List.map_map]
    rfl
  have ids {run : Run} (follows : run.outlines = feature.scenarios) :
      run.scenarios.map (·.id) = feature.scenarios.map (·.id) := by
    simpa [Function.comp_def] using congrArg (List.map Prod.fst) (told follows)
  have rows := rows_before before after
  have rows' := rows_after ((ids second).trans (ids first).symm) (ids first ▸ distinct)
  exact
    { scenarios := by simpa [ofRuns, Function.comp_def] using told first
      once := by simpa [ofRuns, Function.comp_def, ids first] using distinct
      before := rows
      after := rows'
      beforeCount := countP_rows rows beforeSummary
      afterCount := countP_rows rows' afterSummary
      changed := length_changedRows _ }

/-! ### Two versions -/

theorem mem_of_newest? {runs : List Run} {run : Run} (newest : newest? runs = some run) :
    run ∈ runs := by
  rw [newest?_eq_getLast?] at newest
  exact (mem_latest.mp (List.mem_of_getLast? newest)).1

theorem mem_of_completedRun? {p : Project} {feature version : String} {environment : Environment}
    {run : Run} (found : completedRun? p feature environment version = some run) :
    run ∈ p.runs ∧ run.environment = environment ∧ run.status = .completed ∧
      run.version = version ∧ run.featureId = feature := by
  have member := mem_of_newest? found
  simpa [Project.runsOf, and_assoc] using member

theorem ofVersions_eq_ok {p : Project} {feature before after : String} {environment : Environment}
    {c : Comparison} (compared : ofVersions p feature environment before after = .ok c) :
    ∃ template first second, p.findFeature? feature = some template ∧
      completedRun? p feature environment before = some first ∧
      completedRun? p feature environment after = some second ∧ c = ofRuns first second := by
  unfold ofVersions at compared
  split at compared
  · cases compared
  · rename_i known
    obtain ⟨template, found⟩ : ∃ template, p.findFeature? feature = some template := by
      cases held : p.findFeature? feature with
      | none => simp [held] at known
      | some template => exact ⟨template, rfl⟩
    split at compared
    · cases compared
    · cases compared
    · rename_i first second before_found after_found
      cases compared
      exact ⟨template, first, second, found, before_found, after_found, rfl⟩

end Comparison

end Report

end Testbook
