/-! KDL documents: nodes with names, entries and children. An entry is a value, with or without the name
of a property. -/

set_option autoImplicit false

namespace Testbook.Kdl

inductive Value where
  | text (s : String)
  /-- As it is written. -/
  | number (spelling : String)
  | bool (b : Bool)
  | null
  deriving DecidableEq, Repr

structure Entry where
  property : Option String
  value : Value
  deriving DecidableEq, Repr

inductive Node where
  | mk (name : String) (entries : List Entry) (children : List Node)

namespace Node

def name : Node → String
  | mk name _ _ => name

def entries : Node → List Entry
  | mk _ entries _ => entries

def children : Node → List Node
  | mk _ _ children => children

end Node

def firstValue? (document : List Node) (name : String) : Option Value := do
  let node ← document.find? (·.name = name)
  (← node.entries.head?).value

end Testbook.Kdl
