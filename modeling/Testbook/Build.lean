/-! What the program was built from, and when. -/

set_option autoImplicit false

namespace Testbook

structure Build where
  version : String := "0.1.0"
  commit : String
  built : String
  deriving DecidableEq, Repr

end Testbook
