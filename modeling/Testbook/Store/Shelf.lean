import Testbook.First
import Testbook.Project

/-! Projects kept by their ids. -/

set_option autoImplicit false

namespace Testbook.Shelf

def get? (shelf : List Project) (id : String) : Option Project := shelf.find? (·.id = id)

def put (shelf : List Project) (project : Project) : List Project :=
  replaceOrAppend (·.id = project.id) project shelf

def remove (shelf : List Project) (id : String) : List Project := shelf.filter (·.id ≠ id)

/-- By name, and by id among those of one name. -/
def comesFirst (a b : Project) : Bool :=
  if a.name = b.name then a.id ≤ b.id else a.name ≤ b.name

def listed (shelf : List Project) : List Project := shelf.mergeSort comesFirst

end Testbook.Shelf
