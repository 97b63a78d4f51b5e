import Testbook.Decimal

/-! Where new names come from: an endless row of names, taken one after another. A source never
repeats itself when its row has no repetition. -/

set_option autoImplicit false

namespace Testbook

structure IdSource where
  name : Nat → String
  issued : Nat

namespace IdSource

def sequential (lead : String) : IdSource :=
  ⟨fun n => lead ++ "-" ++ Decimal.text (n + 1), 0⟩

def next (ids : IdSource) : String × IdSource :=
  (ids.name ids.issued, { ids with issued := ids.issued + 1 })

end IdSource

end Testbook
