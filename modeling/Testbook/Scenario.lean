import Testbook.Outcome
import Testbook.Attachment

/-! Scenarios and their steps. A scenario stands untested in its feature, and with results in every
run of that feature. -/

set_option autoImplicit false

namespace Testbook

inductive StepKeyword where
  | given
  | when
  | then
  | and
  | but
  deriving DecidableEq, Repr

namespace StepKeyword

def all : List StepKeyword := [.given, .when, .then, .and, .but]

def name : StepKeyword → String
  | given => "Given"
  | when => "When"
  | .then => "Then"
  | and => "And"
  | but => "But"

def capitals : StepKeyword → String
  | given => "GIVEN"
  | when => "WHEN"
  | .then => "THEN"
  | and => "AND"
  | but => "BUT"

def ofName? (s : String) : Option StepKeyword := all.find? (·.name = s)

end StepKeyword

structure Step where
  id : String
  keyword : StepKeyword
  text : String
  result : Outcome := .untested
  note : Option String := none
  attachments : List Attachment := []
  deriving DecidableEq

structure Scenario where
  id : String
  name : String
  steps : List Step := []
  status : Outcome := .untested
  tags : List String := []
  note : Option String := none
  attachments : List Attachment := []
  deriving DecidableEq

def Scenario.hasStep (scenario : Scenario) (step : String) : Bool :=
  scenario.steps.any (·.id = step)

end Testbook
