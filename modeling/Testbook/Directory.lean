import Testbook.Error
import Testbook.FilePath
import Testbook.First

/-! Files and folders, as far as the program sees them. A place is the list of names that lead to it
from the working folder, or from the root, whose name is a slash. Of a database only the rows are
known. -/

set_option autoImplicit false

namespace Testbook

/-- A row of a database: a text kept under an id and listed by a name. -/
structure TableRow where
  id : String
  name : String
  data : String
  deriving DecidableEq

inductive Entry where
  | file (bytes : ByteArray)
  | table (rows : List TableRow)
  | folder

def Entry.agrees : Entry → Entry → Bool
  | .file a, .file b => a.toList = b.toList
  | .table a, .table b => a = b
  | .folder, .folder => true
  | _, _ => false

def Entry.bytes : Entry → Except FileFault ByteArray
  | .file bytes => .ok bytes
  | .table _ => .ok .empty
  | .folder => .error .isFolder

abbrev Place := List String

structure Directory where
  entries : List (Place × Entry) := []

namespace Directory

/-- The root, the working folder and the folders above it are always there. -/
def entry? (directory : Directory) (place : Place) : Option Entry :=
  if place = ["/"] ∨ place.all (· = "..") then some .folder
  else directory.entries.lookup place

def put (directory : Directory) (place : Place) (entry : Entry) : Directory :=
  ⟨replaceOrAppend (·.1 = place) (place, entry) directory.entries⟩

/-- The steps along a path. A dot is a step too, and so is the root of a rooted path. -/
def steps (path : String) : List String :=
  (if FilePath.isRooted path then ["/"] else []) ++ (FilePath.pieces path).filter (· ≠ "")

def asksFolder (path : String) : Bool := Text.endsWith ['/'] path.toList

/-- The folder above a place. Above the working folder stand folders without names; the root is above
itself. -/
def above (place : Place) : Place :=
  match place.getLast? with
  | none | some ".." => place ++ [".."]
  | some "/" => place
  | some _ => place.dropLast

def enter (place : Place) (name : String) : Place :=
  if name = "." then place else if name = ".." then above place else place ++ [name]

def along (place : Place) : List String → List Place
  | [] => []
  | name :: names => enter place name :: along (enter place name) names

def pathOf : Place → String
  | [] => "."
  | "/" :: names => "/" ++ String.intercalate "/" names
  | names => String.intercalate "/" names

def longestName : Nat := 255

def longestPath : Nat := 4095

def pathFault? (path : String) : Option FileFault :=
  if path.toList.contains (Char.ofNat 0) then some .nulInPath
  else if path = "" then some .missing
  else if longestPath < path.utf8ByteSize then some .nameTooLong
  else none

/-- The place that steps lead to. Each step starts from a folder; what stands at the end is left
open. -/
def walk (directory : Directory) (place : Place) : List String → Except FileFault Place
  | [] => .ok place
  | name :: names =>
    match directory.entry? place with
    | some .folder =>
      if longestName < name.utf8ByteSize then .error .nameTooLong
      else directory.walk (enter place name) names
    | some _ => .error .notFolder
    | none => .error .missing

def place (directory : Directory) (path : String) : Except FileFault Place :=
  match pathFault? path with
  | some fault => .error fault
  | none => directory.walk [] (steps path ++ if asksFolder path then ["."] else [])

def find (directory : Directory) (path : String) : Except FileFault Entry := do
  match directory.entry? (← directory.place path) with
  | some entry => .ok entry
  | none => .error .missing

def holds (directory : Directory) (path : String) : Bool := (directory.find path).toOption.isSome

def textOf (bytes : ByteArray) : Except FileFault String :=
  match String.fromUTF8? bytes with
  | some text => .ok text
  | none => .error .notText

def readBytes (directory : Directory) (path : String) : Except FileFault ByteArray := do
  (← directory.find path).bytes

def readText (directory : Directory) (path : String) : Except FileFault String := do
  textOf (← directory.readBytes path)

/-- The place of a file that is written at a path; no folder may stand there. -/
def filePlace (directory : Directory) (path : String) : Except FileFault Place :=
  match pathFault? path with
  | some fault => .error fault
  | none =>
    if asksFolder path then
      (directory.walk [] ((steps path).dropLast ++ ["."])).bind fun _ => .error .isFolder
    else do
      let place ← directory.walk [] (steps path)
      match directory.entry? place with
      | some .folder => .error .isFolder
      | _ => .ok place

def write (directory : Directory) (path : String) (bytes : ByteArray) : Except FileFault Directory :=
  (directory.filePlace path).map fun place => directory.put place (.file bytes)

def writeText (directory : Directory) (path text : String) : Except FileFault Directory :=
  directory.write path text.toUTF8

/-- Write on at the end of a file, beginning it if it is missing. -/
def append (directory : Directory) (path : String) (bytes : ByteArray) : Except FileFault Directory := do
  let place ← directory.filePlace path
  match directory.entry? place with
  | some entry => .ok (directory.put place (.file ((← entry.bytes) ++ bytes)))
  | none => .ok (directory.put place (.file bytes))

def isFolder (directory : Directory) (names : List String) : Bool :=
  match (directory.walk [] names).map directory.entry? with
  | .ok (some .folder) => true
  | _ => false

def makeFolder (directory : Directory) (names : List String) : Except FileFault Directory := do
  let place ← directory.walk [] names
  match directory.entry? place with
  | some _ => .error .exists
  | none => .ok (directory.put place .folder)

/-- Make the first of some folders, of which each stands in the next one, and where the way to it is
missing make the next one before. -/
def makeNested (directory : Directory) : List (List String) → Except FileFault Unit × Directory
  | [] => (.ok (), directory)
  | names :: around =>
    let orHeld (directory : Directory) (fault : FileFault) : Except FileFault Unit × Directory :=
      (if directory.isFolder names then .ok () else .error fault, directory)
    match directory.makeFolder names with
    | .ok made => (.ok (), made)
    | .error .missing =>
      match directory.makeNested around with
      | (.error fault, made) => (.error fault, made)
      | (.ok (), made) =>
        match made.makeFolder names with
        | .ok made => (.ok (), made)
        | .error fault => orHeld made fault
    | .error fault => orHeld directory fault

/-- The steps to the folders on the way along a path, the last ones first. Dots are left out. -/
def around (path : String) : List (List String) :=
  let root := if FilePath.isRooted path then ["/"] else []
  let names := FilePath.names path
  (List.range (names.length - 1)).reverse.map fun n => root ++ names.take (n + 1)

/-- Make the folder of a path and all folders on the way to it, as far as they are missing. Those that
were made stay where a later one cannot be made. The empty path asks for nothing. -/
def makeFolders (directory : Directory) (path : String) : Except FileFault Unit × Directory :=
  if path = "" then (.ok (), directory)
  else
    match pathFault? path with
    | some fault => (.error fault, directory)
    | none => directory.makeNested (steps path :: around path)

def changes (directory later : Directory) : List (Place × Entry) :=
  later.entries.filter fun (place, entry) =>
    !(directory.entries.lookup place).any entry.agrees

end Directory

end Testbook
