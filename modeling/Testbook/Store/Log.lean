import Testbook.Document.Reader
import Testbook.Document.Written
import Testbook.Store.Shelf
import Testbook.Text.Line

/-! A log of projects. Each line holds a project as it became, or the removal of one; the last line
that tells of a project counts. Lines that cannot be read are skipped, and blank lines are none. -/

set_option autoImplicit false

namespace Testbook

open Json (Tree)

inductive LogRecord where
  /-- Not `deleted`, it removes nothing. -/
  | removal (id : String) (deleted : Bool)
  | project (project : Project)

namespace LogRecord

def json : LogRecord → Json
  | removal id deleted => .record [("id", .text id), ("deleted", .bool deleted)]
  | project p => p.json

/-- A removal is written as a record; a list never stands for one. -/
def removalOfTree? : Tree → Option LogRecord
  | .record members => do
    let id ← Document.required Tree.text? (← Tree.once? "id" members)
    let deleted ← Document.required Tree.bool? (← Tree.once? "deleted" members)
    some (removal id deleted)
  | _ => none

/-- Whatever can be read as a removal is one, whatever else it holds. -/
def ofTree? (tree : Tree) : Option LogRecord :=
  (removalOfTree? tree).orElse fun _ => (Project.ofTree? tree).map project

/-- The record of a line. The whole line must be read, also what the record leaves out. -/
def ofLine? (line : List Char) : Option LogRecord := do
  let tree ← Tree.ofChars? line
  if tree.depth ≤ Tree.depthLimit ∧ tree.value?.isSome then ofTree? tree else none

end LogRecord

namespace Log

def lines (content : String) : List (List Char) :=
  (Text.records content.toList).filter fun line => !line.all Text.isBlank

def apply (shelf : List Project) (line : List Char) : List Project :=
  match LogRecord.ofLine? line with
  | some (.project p) => Shelf.put shelf p
  | some (.removal id true) => Shelf.remove shelf id
  | _ => shelf

/-- The projects that a log tells of in the end. -/
def replay (content : String) : List Project := (lines content).foldl apply []

def line (record : LogRecord) : String := record.json.compact ++ "\n"

/-- The log of the projects that another tells of, by id. -/
def rewritten (content : String) : String :=
  String.join (((replay content).mergeSort fun a b => a.id ≤ b.id).map (line ∘ .project))

structure Shrinkage where
  before : Nat
  after : Nat
  deriving DecidableEq, Repr

def shrinkage (content : String) : Shrinkage := ⟨(lines content).length, (replay content).length⟩

end Log

end Testbook
