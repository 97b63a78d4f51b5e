import Testbook.Text.Lowercase

/-! The forms in which answers are given: JSON for programs, plain text for people. -/

set_option autoImplicit false

namespace Testbook

inductive OutputFormat where
  | json
  | human
  deriving DecidableEq, Repr

namespace OutputFormat

def all : List OutputFormat := [.json, .human]

def name : OutputFormat → String
  | json => "json"
  | human => "human"

def ofWord? (s : String) : Option OutputFormat :=
  let word := Text.lower s
  all.find? (·.name = word)

end OutputFormat

end Testbook
