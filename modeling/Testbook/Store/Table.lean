import Testbook.Directory
import Testbook.Document.Reader
import Testbook.Document.Written

/-! A table of projects: each row keeps the document of a project under its id. -/

set_option autoImplicit false

namespace Testbook.Table

def rowOf (project : Project) : TableRow := ⟨project.id, project.name, project.json.compact⟩

def projectOf (row : TableRow) : Except Error Project :=
  match Project.ofText? row.data with
  | some project => .ok project
  | none => .error .document

def get? (rows : List TableRow) (id : String) : Except Error (Option Project) :=
  match rows.find? (·.id = id) with
  | none => .ok none
  | some row => (projectOf row).map some

def put (rows : List TableRow) (project : Project) : List TableRow :=
  replaceOrAppend (·.id = project.id) (rowOf project) rows

def remove (rows : List TableRow) (id : String) : List TableRow := rows.filter (·.id ≠ id)

def comesFirst (a b : TableRow) : Bool :=
  if a.name = b.name then a.id ≤ b.id else a.name ≤ b.name

def listed (rows : List TableRow) : Except Error (List Project) :=
  (rows.mergeSort comesFirst).mapM projectOf

end Testbook.Table
