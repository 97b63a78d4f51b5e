import Testbook.Proofs.Run.Annotation

/-! A scenario's status and a run's summary are kept beside what they are derived from. What a run's own
operations do to its scenarios keeps them in step. -/

set_option autoImplicit false

namespace Testbook

/-- A scenario with steps bears the status that its steps give it; without steps any status may have
been asserted. -/
def Scenario.Current (scenario : Scenario) : Prop :=
  scenario.steps ≠ [] → scenario.status = scenario.derivedStatus

structure Run.Current (run : Run) : Prop where
  summary : run.summary = .ofScenarios run.scenarios
  scenarios : ∀ scenario ∈ run.scenarios, scenario.Current

namespace Scenario

theorem derivedStatus_congr {a b : Scenario}
    (same : a.steps.map (·.result) = b.steps.map (·.result)) : a.derivedStatus = b.derivedStatus := by
  have has (outcome : Outcome) :
      a.steps.any (·.result = outcome) = b.steps.any (·.result = outcome) := by
    have counted := congrArg (List.any · (· = outcome)) same
    simpa [List.any_map, Function.comp_def] using counted
  simp only [derivedStatus, has]

theorem derivedStatus_uniform {scenario : Scenario} {outcome : Outcome}
    (some_steps : scenario.steps ≠ []) (all : ∀ step ∈ scenario.steps, step.result = outcome) :
    scenario.derivedStatus = outcome := by
  have has (asked : Outcome) : scenario.steps.any (·.result = asked) = decide (outcome = asked) := by
    obtain ⟨first, member⟩ := List.exists_mem_of_ne_nil _ some_steps
    by_cases same : outcome = asked
    · rw [decide_eq_true same]
      exact List.any_eq_true.mpr ⟨first, member, by simp [all first member, same]⟩
    · rw [decide_eq_false same]
      exact List.any_eq_false.mpr fun step stands => by simp [all step stands, same]
  unfold derivedStatus
  simp only [has]
  cases outcome <;> rfl

theorem asserted_current (scenario : Scenario) (outcome : Outcome) :
    (scenario.asserted outcome).Current := by
  intro some_steps
  refine (derivedStatus_uniform some_steps ?_).symm
  intro step member
  simp only [asserted, List.mem_map] at member
  obtain ⟨_, _, rfl⟩ := member
  rfl

theorem cleared_current (scenario : Scenario) : scenario.cleared.Current :=
  asserted_current scenario .untested

theorem marked_current (scenario : Scenario) (step : String) (outcome : Outcome) :
    (scenario.marked step outcome).Current :=
  fun _ => rfl

-- That there are steps must be carried back to the scenario before: only then its status is derived.
theorem Annotated.current {scenario later : Scenario} (annotated : scenario.Annotated later)
    (current : scenario.Current) : later.Current := by
  intro some_steps
  have results : later.steps.map (·.result) = scenario.steps.map (·.result) :=
    map_eq_of_forall₂ (fun _ _ step => step.result) annotated.steps
  rw [annotated.status, derivedStatus_congr results]
  apply current
  intro nothing
  have steps := annotated.steps
  rw [nothing] at steps
  exact some_steps (List.forall₂_nil_left_iff.mp steps)

end Scenario

/-! ### Counting -/

theorem statusCount_congr {a b : List Scenario} (same : a.map (·.status) = b.map (·.status))
    (outcome : Outcome) : statusCount a outcome = statusCount b outcome := by
  have counted := congrArg (List.countP (· = outcome)) same
  simpa [statusCount, List.countP_map, Function.comp_def] using counted

theorem ofScenarios_congr {a b : List Scenario} (same : a.map (·.status) = b.map (·.status)) :
    RunSummary.ofScenarios a = RunSummary.ofScenarios b := by
  have length : a.length = b.length := by simpa using congrArg List.length same
  simp only [RunSummary.ofScenarios, statusCount_congr same, length]

theorem ofScenarios_total (scenarios : List Scenario) :
    let summary := RunSummary.ofScenarios scenarios
    summary.passed + summary.failed + summary.skipped + summary.untested = summary.total := by
  simp only [RunSummary.ofScenarios, statusCount]
  induction scenarios with
  | nil => rfl
  | cons scenario scenarios ih =>
    simp only [List.countP_cons, List.length_cons]
    cases scenario.status <;> simp <;> omega

theorem ofScenarios_allUntested {scenarios : List Scenario}
    (all : ∀ scenario ∈ scenarios, scenario.status = .untested) :
    RunSummary.ofScenarios scenarios = .allUntested scenarios.length := by
  have untested : statusCount scenarios .untested = scenarios.length :=
    List.countP_eq_length.mpr fun scenario member => by simp [all scenario member]
  have others {outcome : Outcome} (other : outcome ≠ .untested) :
      statusCount scenarios outcome = 0 :=
    List.countP_eq_zero.mpr fun scenario member => by simp [all scenario member, other.symm]
  simp [RunSummary.ofScenarios, RunSummary.allUntested, untested, others]

namespace Run

theorem snapshot_current (feature : Feature) (environment : Environment) (version id : String)
    (now : Instant) : (snapshot feature environment version id now).Current where
  summary := by
    have all : ∀ scenario ∈ feature.scenarios.map Scenario.cleared, scenario.status = .untested := by
      intro scenario member
      obtain ⟨_, _, rfl⟩ := List.mem_map.mp member
      rfl
    simp [snapshot, ofScenarios_allUntested all]
  scenarios := by
    intro scenario member
    obtain ⟨template, _, rfl⟩ := List.mem_map.mp member
    exact template.cleared_current

theorem reset_current (run : Run) : run.reset.Current where
  summary := by
    have all : ∀ scenario ∈ run.scenarios.map (·.asserted .untested), scenario.status = .untested := by
      intro scenario member
      obtain ⟨_, _, rfl⟩ := List.mem_map.mp member
      rfl
    simp [reset, ofScenarios_allUntested all]
  scenarios := by
    intro scenario member
    obtain ⟨tested, _, rfl⟩ := List.mem_map.mp member
    exact tested.asserted_current .untested

theorem Annotated.current {run later : Run} (annotated : run.Annotated later)
    (current : run.Current) : later.Current where
  summary := by
    have statuses : later.scenarios.map (·.status) = run.scenarios.map (·.status) :=
      map_eq_of_forall₂ (fun _ _ scenario => scenario.status) annotated.scenarios
    rw [annotated.summary, current.summary, ofScenarios_congr statuses]
  scenarios := by
    intro scenario member
    obtain ⟨before, stood, same⟩ := exists_of_mem_right annotated.scenarios member
    exact same.current (current.scenarios before stood)

end Run

end Testbook
