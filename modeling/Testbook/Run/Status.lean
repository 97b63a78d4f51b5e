import Testbook.Run

/-! What a scenario's steps say about the scenario, and what scenarios say about their run. -/

set_option autoImplicit false

namespace Testbook

/-- Failed when a step failed, else untested when a step is untested, else passed when a step passed,
else skipped when a step was skipped. Without steps a scenario is untested. -/
def Scenario.derivedStatus (scenario : Scenario) : Outcome :=
  let has (outcome : Outcome) := scenario.steps.any (·.result = outcome)
  if has .failed then .failed
  else if has .untested then .untested
  else if has .passed then .passed
  else if has .skipped then .skipped
  else .untested

def statusCount (scenarios : List Scenario) (outcome : Outcome) : Nat :=
  scenarios.countP (·.status = outcome)

def RunSummary.ofScenarios (scenarios : List Scenario) : RunSummary where
  total := scenarios.length
  passed := statusCount scenarios .passed
  failed := statusCount scenarios .failed
  skipped := statusCount scenarios .skipped
  untested := statusCount scenarios .untested

def Run.withStatus (run : Run) (status : Option Outcome) : List Scenario :=
  match status with
  | none => run.scenarios
  | some wanted => run.scenarios.filter (·.status = wanted)

end Testbook
