import Testbook.Text.Lowercase

/-! The deployments that features are executed against. -/

set_option autoImplicit false

namespace Testbook

inductive Environment where
  | staging
  | production
  | uat
  deriving DecidableEq, Repr

namespace Environment

def all : List Environment := [.staging, .production, .uat]

def name : Environment → String
  | staging => "staging"
  | production => "production"
  | uat => "uat"

def words : Environment → List String
  | staging => ["staging", "stage"]
  | production => ["production", "prod"]
  | uat => ["uat"]

def ofName? (s : String) : Option Environment := all.find? (·.name = s)

def ofWord? (s : String) : Option Environment :=
  let word := Text.lower s
  all.find? (·.words.contains word)

end Environment

end Testbook
