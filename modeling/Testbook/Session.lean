import Testbook.Directory
import Testbook.Store.Runs

/-! A store that is in use, and the directory that it is kept in. A log and a database are found in
the directory anew for each operation, and put back after it. -/

set_option autoImplicit false

namespace Testbook

inductive Medium where
  | shelf (projects : List Project)
  /-- A database that is kept nowhere. -/
  | rows (rows : List TableRow)
  | log (path : String)
  | database (path : String)

namespace Medium

def kind : Medium → BackendKind
  | shelf _ => .memory
  | rows _ => .sqlite
  | log _ => .file
  | database _ => .sqlite

def location : Medium → String
  | shelf _ => "memory"
  | rows _ => ":memory:"
  | log path => path
  | database path => path

/-! Beginning to keep a store in a folder. The folders that were made on the way stay, also where that
fails. -/

def logName : String := "projects.jsonl"

def databaseName : String := "bddtrack.db"

def beginLog (directory : Directory) (folder : String) : Except Error Medium × Directory :=
  let path := FilePath.join folder logName
  match directory.makeFolders folder with
  | (.error fault, made) => (.error (.file fault), made)
  | (.ok (), made) =>
    if made.holds path then (.ok (.log path), made)
    else
      match made.write path .empty with
      | .ok begun => (.ok (.log path), begun)
      | .error fault => (.error (.file fault), made)

/-- Begin a database in a folder, unless there is one. An empty file counts as none. -/
def beginDatabase (directory : Directory) (folder : String) : Except Error Medium × Directory :=
  let path := FilePath.join folder databaseName
  match directory.makeFolders folder with
  | (.error fault, made) => (.error (.file fault), made)
  | (.ok (), made) =>
    match made.place path with
    | .error _ => (.error .database, made)
    | .ok place =>
      let begun := (.ok (.database path), made.put place (.table []))
      match made.entry? place with
      | some (.table _) => (.ok (.database path), made)
      | some (.file bytes) => if bytes.isEmpty then begun else (.error .database, made)
      | some .folder => (.error .database, made)
      | none => begun

def begin (directory : Directory) (folder : String) : BackendKind → Except Error Medium × Directory
  | .memory => (.ok (.shelf []), directory)
  | .file => beginLog directory folder
  | .sqlite => beginDatabase directory folder

end Medium

structure Session where
  directory : Directory
  medium : Medium
  ids : IdSource

namespace Session

def backend (session : Session) : Backend :=
  let held (path : String) (missing : Entry) : Entry :=
    (session.directory.find path).toOption.getD missing
  match session.medium with
  | .shelf projects => .memory projects
  | .rows rows => .table (.table rows)
  | .log path => .log (held path (.file .empty))
  | .database path => .table (held path (.table []))

def store (session : Session) : Store := ⟨session.backend, session.ids⟩

def place (session : Session) (path : String) (entry : Entry) : Session :=
  match session.directory.place path with
  | .ok place => { session with directory := session.directory.put place entry }
  | .error _ => session

def keep (session : Session) (backend : Backend) : Session :=
  match session.medium, backend with
  | .shelf _, .memory projects => { session with medium := .shelf projects }
  | .rows _, .table (.table rows) => { session with medium := .rows rows }
  | .log path, .log held => session.place path held
  | .database path, .table held => session.place path held
  | _, _ => session

def act {α : Type} (session : Session) (f : Store → Except Error α × Store) :
    Except Error α × Session :=
  let (answer, store) := f session.store
  (answer, { session.keep store.backend with ids := store.ids })

end Session

end Testbook
