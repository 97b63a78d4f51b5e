import Testbook.Text.Lowercase

/-! The result of a step, and the status that a scenario takes from its steps. -/

set_option autoImplicit false

namespace Testbook

inductive Outcome where
  | passed
  | failed
  | skipped
  | untested
  deriving DecidableEq, Repr

namespace Outcome

def all : List Outcome := [.passed, .failed, .skipped, .untested]

def name : Outcome → String
  | passed => "passed"
  | failed => "failed"
  | skipped => "skipped"
  | untested => "untested"

def verb : Outcome → String
  | passed => "pass"
  | failed => "fail"
  | skipped => "skip"
  | untested => "untest"

def icon : Outcome → String
  | passed => "✅"
  | failed => "❌"
  | skipped => "⏭️"
  | untested => "⚪️"

def ofName? (s : String) : Option Outcome := all.find? (·.name = s)

/-- The outcome that somebody means by a word, in capitals or not. -/
def ofWord? (s : String) : Option Outcome :=
  let word := Text.lower s
  all.find? fun o => o.name = word || o.verb = word

end Outcome

end Testbook
