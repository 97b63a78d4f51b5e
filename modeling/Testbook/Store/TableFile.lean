import Testbook.Store.Table
import Testbook.Text.Line

/-! A table in a file: a line that says what the file is, and after it a line for each row. -/

set_option autoImplicit false

namespace Testbook.Table

open Json (Tree)

def heading : String := "table of projects"

def rowLine (row : TableRow) : String :=
  (Json.list [.text row.id, .text row.name, .text row.data]).compact

def rowOfLine? (line : List Char) : Option TableRow := do
  match ← (← Tree.ofChars? line).items? with
  | [id, name, data] => some ⟨← id.text?, ← name.text?, ← data.text?⟩
  | _ => none

def written (rows : List TableRow) : String :=
  String.join ((heading :: rows.map rowLine).map (· ++ "\n"))

def ofText? (text : String) : Option (List TableRow) :=
  match Text.records text.toList with
  | [] => none
  | first :: rest => if first = heading.toList then rest.mapM rowOfLine? else none

end Testbook.Table
