import Testbook.Text.Lowercase

/-! The ways to keep projects: in a database, in a log of documents, or nowhere but in memory. -/

set_option autoImplicit false

namespace Testbook

inductive BackendKind where
  | sqlite
  | file
  | memory
  deriving DecidableEq, Repr

namespace BackendKind

def all : List BackendKind := [.sqlite, .file, .memory]

def name : BackendKind → String
  | sqlite => "sqlite"
  | file => "file"
  | memory => "memory"

def words : BackendKind → List String
  | sqlite => ["sqlite", "db", "default"]
  | file => ["file", "jsonl"]
  | memory => ["memory", "mem"]

def ofName? (s : String) : Option BackendKind := all.find? (·.name = s)

def ofWord? (s : String) : Option BackendKind :=
  let word := Text.lower s
  all.find? (·.words.contains word)

end BackendKind

end Testbook
