import Testbook.Store.Log
import Testbook.Store.Table

/-! Where projects are kept, in one of three ways: on a shelf in memory, or in what stands at the place
of a log or of a database. All three answer alike. -/

set_option autoImplicit false

namespace Testbook

inductive Backend where
  | memory (shelf : List Project)
  | log (held : Entry)
  | table (held : Entry)

namespace Backend

def kind : Backend → BackendKind
  | memory _ => .memory
  | log _ => .file
  | table _ => .sqlite

def logText (held : Entry) : Except Error String :=
  (held.bytes.bind Directory.textOf).mapError .file

def tableRows : Entry → Except Error (List TableRow)
  | .table rows => .ok rows
  | _ => .error .database

def extend (held : Entry) (record : LogRecord) : Except Error Backend := do
  let bytes ← held.bytes.mapError .file
  .ok (log (.file (bytes ++ (Log.line record).toUTF8)))

def get? (backend : Backend) (id : String) : Except Error (Option Project) :=
  match backend with
  | memory shelf => .ok (Shelf.get? shelf id)
  | log held => (logText held).map fun content => Shelf.get? (Log.replay content) id
  | table held => (tableRows held).bind (Table.get? · id)

def put (backend : Backend) (project : Project) : Except Error Backend :=
  match backend with
  | memory shelf => .ok (memory (Shelf.put shelf project))
  | log held => extend held (.project project)
  | table held => (tableRows held).map fun rows => table (.table (Table.put rows project))

/-- Take a project away. It need not be there. -/
def delete (backend : Backend) (id : String) : Except Error Backend :=
  match backend with
  | memory shelf => .ok (memory (Shelf.remove shelf id))
  | log held => extend held (.removal id true)
  | table held => (tableRows held).map fun rows => table (.table (Table.remove rows id))

def list (backend : Backend) : Except Error (List Project) :=
  match backend with
  | memory shelf => .ok (Shelf.listed shelf)
  | log held => (logText held).map fun content => Shelf.listed (Log.replay content)
  | table held => (tableRows held).bind Table.listed

/-- Rewrite a log with one line for each project. Nothing else can be rewritten. -/
def compact (backend : Backend) : Except Error (Log.Shrinkage × Backend) :=
  match backend with
  | log held =>
    (logText held).map fun content =>
      (Log.shrinkage content, log (.file (Log.rewritten content).toUTF8))
  | other => .error (.refused (.notCompactable other.kind))

end Backend

end Testbook
