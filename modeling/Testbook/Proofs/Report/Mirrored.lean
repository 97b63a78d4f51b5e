import Testbook.Proofs.Report.Comparison

/-! Two runs of the same scenarios, compared the other way round. Each row stands in its place with its
sides exchanged, and what was an improvement is a regression. -/

set_option autoImplicit false

namespace Testbook.Report

def Change.mirrored : Change → Change
  | improved => regressed
  | regressed => improved
  | newlyTested => untestedNow
  | untestedNow => newlyTested
  | changed => changed

-- The patterns overlap where one side is untested, but never where both are.
theorem Change.between?_mirrored (before after : Outcome) :
    between? after before = (between? before after).map mirrored := by
  cases before <;> cases after <;> rfl

def Row.mirrored (row : Row) : Row := { row with before := row.after, after := row.before }

theorem Row.change?_mirrored (row : Row) :
    row.mirrored.change? = row.change?.map Change.mirrored :=
  Change.between?_mirrored row.before row.after

namespace Comparison

def mirrored (c : Comparison) : Comparison where
  beforeRun := c.afterRun
  beforeVersion := c.afterVersion
  beforeSummary := c.afterSummary
  afterRun := c.beforeRun
  afterVersion := c.beforeVersion
  afterSummary := c.beforeSummary
  rows := c.rows.map Row.mirrored

theorem changes_mirrored (c : Comparison) :
    c.mirrored.rows.map Row.change? = c.rows.map (·.change?.map Change.mirrored) := by
  rw [mirrored, List.map_map]
  exact List.map_congr_left fun row _ => row.change?_mirrored

theorem changedRows_mirrored (c : Comparison) :
    c.mirrored.changedRows = c.changedRows.map Row.mirrored := by
  rw [changedRows, mirrored, List.filter_map, changedRows]
  congr 1
  apply List.filter_congr
  intro row _
  rw [Function.comp_apply, row.change?_mirrored, Option.isSome_map]

/-- A scenario's row, from its id and its name. Both sides are looked up by the id, the side before too. -/
def rowOf (before after : Run) (heading : String × String) : Row where
  scenario := heading.1
  name := heading.2
  before := (before.findScenario? heading.1).elim .untested (·.status)
  after := (after.findScenario? heading.1).elim .untested (·.status)

theorem rows_eq {before : Run} (distinct : (before.scenarios.map (·.id)).Nodup) (after : Run) :
    (ofRuns before after).rows =
      (before.scenarios.map fun scenario => (scenario.id, scenario.name)).map (rowOf before after) := by
  rw [ofRuns, List.map_map]
  refine List.map_congr_left ?_
  intro scenario member
  -- No other scenario has its id, and so the one that is looked up is the scenario itself.
  have found : before.findScenario? scenario.id = some scenario := find?_key_of_mem distinct member
  simp [rowOf, found]

variable {before after : Run}

theorem ofRuns_mirrored (distinct : (before.scenarios.map (·.id)).Nodup)
    (same : after.scenarios.map (fun scenario => (scenario.id, scenario.name)) =
      before.scenarios.map fun scenario => (scenario.id, scenario.name)) :
    ofRuns after before = (ofRuns before after).mirrored := by
  have ids : after.scenarios.map (·.id) = before.scenarios.map (·.id) := by
    simpa [Function.comp_def] using congrArg (List.map Prod.fst) same
  have rows : (ofRuns after before).rows = (ofRuns before after).rows.map Row.mirrored := by
    rw [rows_eq (ids ▸ distinct), rows_eq distinct, same]
    exact (List.map_map (f := rowOf before after) (g := Row.mirrored)).symm
  calc ofRuns after before
      = { (ofRuns before after).mirrored with rows := (ofRuns after before).rows } := rfl
    _ = (ofRuns before after).mirrored := by rw [rows, mirrored]

theorem length_changedRows_eq_zero_iff (distinct : (before.scenarios.map (·.id)).Nodup)
    (same : after.scenarios.map (·.id) = before.scenarios.map (·.id)) :
    (ofRuns before after).changedRows.length = 0 ↔
      before.scenarios.map (fun scenario => (scenario.id, scenario.status)) =
        after.scenarios.map fun scenario => (scenario.id, scenario.status) := by
  rw [← rows_before before after, ← rows_after same distinct, List.map_inj_left,
    length_changedRows, List.countP_eq_zero]
  simp

/-- To compare two runs of the same scenarios the other way round is to exchange the sides: the same rows
are changed, each in the opposite way. None is if every scenario has one status in both. -/
theorem compared_backwards (distinct : (before.scenarios.map (·.id)).Nodup)
    (same : after.scenarios.map (fun scenario => (scenario.id, scenario.name)) =
      before.scenarios.map fun scenario => (scenario.id, scenario.name)) :
    ofRuns after before = (ofRuns before after).mirrored ∧
      (ofRuns after before).rows.map Row.change? =
        (ofRuns before after).rows.map (·.change?.map Change.mirrored) ∧
      (ofRuns after before).changedRows.length = (ofRuns before after).changedRows.length ∧
      ((ofRuns before after).changedRows.length = 0 ↔
        before.scenarios.map (fun scenario => (scenario.id, scenario.status)) =
          after.scenarios.map fun scenario => (scenario.id, scenario.status)) := by
  have ids : after.scenarios.map (·.id) = before.scenarios.map (·.id) := by
    simpa [Function.comp_def] using congrArg (List.map Prod.fst) same
  have backwards := ofRuns_mirrored distinct same
  refine ⟨backwards, ?_, ?_, length_changedRows_eq_zero_iff distinct ids⟩
  · rw [backwards, changes_mirrored]
  · rw [backwards, changedRows_mirrored, List.length_map]

def runOf (id : String) (statuses : List Outcome) : Run where
  id
  featureId := "f"
  createdAt := .epoch
  environment := .staging
  version := id
  scenarios := statuses.mapIdx fun n status =>
    { id := "s-" ++ Decimal.text n, name := "Scenario", status }

/-- A row of each kind, seen from both sides. -/
theorem compared_backwards_sample :
    let before := runOf "1" [.failed, .passed, .untested, .skipped, .skipped, .passed]
    let after := runOf "2" [.passed, .failed, .skipped, .untested, .passed, .passed]
    ofRuns after before = (ofRuns before after).mirrored ∧
      (ofRuns after before).rows.map Row.change? =
        [some .regressed, some .improved, some .untestedNow, some .newlyTested, some .changed, none] := by
  intro before after
  have distinct : (before.scenarios.map (·.id)).Nodup := by decide
  have same : after.scenarios.map (fun scenario => (scenario.id, scenario.name)) =
      before.scenarios.map fun scenario => (scenario.id, scenario.name) := by decide
  obtain ⟨backwards, changes, -, -⟩ := compared_backwards distinct same
  exact ⟨backwards, changes.trans (by decide)⟩

end Comparison

end Testbook.Report
