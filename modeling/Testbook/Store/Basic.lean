import Testbook.IdSource
import Testbook.Store.Backend

/-! The store: a backend, and the source of new ids. An operation reads a whole project, changes it,
and writes it back at its end, so that one that fails leaves the backend as it was; only ids may be
used up. -/

set_option autoImplicit false

namespace Testbook

structure Store where
  backend : Backend
  ids : IdSource

namespace Store

variable {α : Type}

def load (store : Store) (project : String) : Except Error Project := do
  match ← store.backend.get? project with
  | some found => .ok found
  | none => .error (.missing (.project project))

def takeId (store : Store) : String × Store :=
  let (id, ids) := store.ids.next
  (id, { store with ids })

def save (store : Store) (project : Project) (answer : α) : Except Error α × Store :=
  match store.backend.put project with
  | .ok backend => (.ok answer, { store with backend })
  | .error e => (.error e, store)

/-- Change a project. It is stored if the change gives one to store. -/
def edit (store : Store) (project : String) (f : Project → Except Error (α × Option Project)) :
    Except Error α × Store :=
  match store.load project >>= f with
  | .error e => (.error e, store)
  | .ok (answer, none) => (.ok answer, store)
  | .ok (answer, some changed) => store.save changed answer

def rewrite (store : Store) (project : String) (f : Project → Except Error (α × Project)) :
    Except Error α × Store :=
  store.edit project fun p => (f p).map fun (answer, changed) => (answer, some changed)

/-! ### Projects -/

def createProject (store : Store) (name : String) (description : Option String) :
    Except Error Project × Store :=
  match Text.trimmed? name with
  | none => (.error (.refused .emptyProjectName), store)
  | some name =>
    let (id, store) := store.takeId
    let project : Project := { id, name, description := description.bind Text.trimmed? }
    store.save project project

def listProjects (store : Store) : Except Error (List Project) := store.backend.list

def getProject (store : Store) (project : String) : Except Error Project := store.load project

def deleteProject (store : Store) (project : String) : Except Error Unit × Store :=
  match store.load project >>= fun _ => store.backend.delete project with
  | .ok backend => (.ok (), { store with backend })
  | .error e => (.error e, store)

def exportProject (store : Store) (project : String) : Except Error String :=
  (store.load project).map (·.json.pretty)

/-- Store the project of a document, instead of one with its id. -/
def importProject (store : Store) (document : String) : Except Error Project × Store :=
  match Project.ofText? document with
  | none => (.error .document, store)
  | some project =>
    if Text.allBlank project.id then (.error (.refused .importWithoutId), store)
    else
      match store.backend.get? project.id with
      | .error e => (.error e, store)
      | .ok _ => store.save project project

end Store

end Testbook
