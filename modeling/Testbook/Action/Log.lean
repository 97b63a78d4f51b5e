import Testbook.Action
import Testbook.Directory
import Testbook.Text.Line

/-! The log of actions: a line for each, the oldest first. -/

set_option autoImplicit false

namespace Testbook.ActionLog

def fileName : String := "action.log"

def path (folder : String) : String := FilePath.join folder fileName

def line (action : Action) : String := action.json.compact ++ "\n"

/-- The actions of a log. Lines that cannot be read are skipped. -/
def actions (content : String) : List Action :=
  (Text.records content.toList).filterMap fun line => (Json.Tree.ofChars? line).bind Action.ofTree?

def recent (limit : Nat) (actions : List Action) : List Action :=
  actions.drop (actions.length - limit)

/-- Add an action to the log in a folder, which is made if it is missing. What cannot be written is
left out. -/
def add (directory : Directory) (folder : String) (action : Action) : Directory :=
  match directory.makeFolders (FilePath.parent (path folder)) with
  | (.error _, made) => made
  | (.ok (), made) => (made.append (path folder) (line action).toUTF8).toOption.getD made

def read (directory : Directory) (folder : String) : Except FileFault (List Action) :=
  if directory.holds (path folder) then (directory.readText (path folder)).map actions else .ok []

end Testbook.ActionLog
