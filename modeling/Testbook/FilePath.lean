import Testbook.Text.Blank
import Testbook.Text.Lowercase

/-! The text of a path: names with slashes between them. Empty names and single dots mean nothing,
except that a path may begin with a slash or with a dot. -/

set_option autoImplicit false

namespace Testbook.FilePath

/-- The pieces between slashes, given the reversed beginning of the first. -/
def piecesFrom (begun : List Char) : List Char → List String
  | [] => [String.ofList begun.reverse]
  | c :: cs =>
    if c = '/' then String.ofList begun.reverse :: piecesFrom [] cs else piecesFrom (c :: begun) cs

def pieces (path : String) : List String := piecesFrom [] path.toList

def isRooted (path : String) : Bool := Text.startsWith ['/'] path.toList

def names (path : String) : List String := (pieces path).filter fun name => name ≠ "" && name ≠ "."

def parent (path : String) : String :=
  (if isRooted path then "/" else "") ++ String.intercalate "/" (names path).dropLast

/-- The last name, unless it leads upward. -/
def fileName? (path : String) : Option String :=
  match (names path).getLast? with
  | some ".." => none
  | last => last

/-- What stands after the last dot of a name that does not begin with that dot. -/
def extension? (path : String) : Option String := do
  let cs := (← fileName? path).toList
  let tail := (cs.reverse.takeWhile (· ≠ '.')).reverse
  if tail.length + 1 < cs.length then some (String.ofList tail) else none

/-- The path of a name within a folder. A rooted name stands for itself. -/
def join (folder name : String) : String :=
  if folder = "" || isRooted name then name
  else if Text.endsWith ['/'] folder.toList then folder ++ name
  else folder ++ "/" ++ name

end Testbook.FilePath
