import Testbook.First

/-! Environment variables. -/

set_option autoImplicit false

namespace Testbook

/-- Names and values, a name at most once. -/
abbrev Variables := List (String × String)

namespace Variables

def get? (env : Variables) (name : String) : Option String := env.lookup name

def set (env : Variables) (name value : String) : Variables :=
  replaceOrAppend (·.1 = name) (name, value) env

def unset (env : Variables) (name : String) : Variables :=
  env.filter (·.1 ≠ name)

end Variables

end Testbook
