import Testbook.CommandLine.Grammar
import Testbook.Decimal
import Testbook.Text.Blank
import Testbook.Variables

/-! Reading the words of a command line, one after another. A value that an option waits for, or that
stands in a place, is checked when the next option or place begins, or at the end. What stands below a
command is read to its end before the command itself is. -/

set_option autoImplicit false

namespace Testbook.CommandLine

/-- Why a command line is not carried out. The first three only ask for information. -/
inductive Fault where
  | helpWanted
  | versionWanted
  | nothingGiven
  | unknownCommand
  | missingCommand
  | missingValue
  | unknownOption
  | badValue
  | conflict
  | badNumber
  | unwantedValue
  deriving DecidableEq, Repr

/-- Values under the names of options and places; a switch has no value. -/
abbrev Values := List (String × List String)

structure Pending where
  name : String
  form : Form
  values : List String
  /-- Whether more values may come for the same place. -/
  many : Bool

structure Reading where
  values : Values := []
  pending : Option Pending := none
  /-- Whether the next word is the value of an option. -/
  awaiting : Bool := false
  /-- Whether a place for many values is being filled. -/
  filling : Bool := false
  /-- How many places are filled. -/
  placed : Nat := 0
  /-- Whether two hyphens have been met, after which all words are values. -/
  plain : Bool := false

def readNumber? (s : String) : Option Nat :=
  let digits := match s.toList with
    | '+' :: rest => rest
    | cs => cs
  if digits.isEmpty then none
  else (digits.mapM Decimal.digit?).bind fun ds =>
    let n := Decimal.value ds
    if n < UInt64.size then some n else none

def Form.check (form : Form) (value : String) : Except Fault Unit :=
  match form with
  | .text => .ok ()
  | .path => if value = "" then .error .badValue else .ok ()
  | .oneOf names => if names.contains value then .ok () else .error .badValue
  | .number => if (readNumber? value).isSome then .ok () else .error .badNumber

namespace Reading

/-- Take values under a name. Only a place for many values takes some twice. -/
def take (reading : Reading) (name : String) (values : List String) (many : Bool) :
    Except Fault Reading :=
  match reading.values.lookup name with
  | none => .ok { reading with values := reading.values ++ [(name, values)] }
  | some known =>
    if many then
      .ok { reading with values := replaceOrAppend (·.1 = name) (name, known ++ values) reading.values }
    else .error .conflict

def settle (reading : Reading) : Except Fault Reading :=
  match reading.pending with
  | none => .ok reading
  | some pending =>
    if pending.values.isEmpty then .error .badValue
    else do
      let settled ← { reading with pending := none }.take pending.name pending.values pending.many
      pending.values.forM pending.form.check
      .ok settled

def readOption (reading : Reading) (spec : OptionSpec) (attached : Option String) :
    Except Fault Reading :=
  match spec.form, attached with
  | .value form, some value => do
    let reading ← reading.settle
    let taken ← reading.take spec.name [value] false
    form.check value
    .ok { taken with awaiting := false, filling := false }
  | .value form, none => do
    let reading ← reading.settle
    .ok
      { reading with
        pending := some { name := spec.name, form, values := [], many := false }
        awaiting := true
        filling := false }
  | _, some _ => .error .unwantedValue
  | .switch, none => do
    let taken ← (← reading.settle).take spec.name [] false
    .ok { taken with awaiting := false, filling := false }
  | .help, none => do
    let _ ← reading.settle
    .error .helpWanted
  | .version, none => do
    let _ ← reading.settle
    .error .versionWanted

def readLong (reading : Reading) (options : List OptionSpec) (cs : List Char) :
    Except Fault Reading :=
  let name := String.ofList (cs.takeWhile (· ≠ '='))
  let attached := match cs.dropWhile (· ≠ '=') with
    | [] => none
    | _ :: value => some (String.ofList value)
  match options.find? (·.name = name) with
  | some spec => reading.readOption spec attached
  | none => .error .unknownOption

/-- Read options by their letters. What follows the letter of an option with a value is its value. -/
def readLetters (reading : Reading) (options : List OptionSpec) :
    List Char → Except Fault Reading
  | [] => .ok reading
  | c :: rest =>
    match options.find? (·.letter = some c) with
    | none => .error .unknownOption
    | some spec =>
      match spec.form, rest with
      | .value _, [] => reading.readOption spec none
      | .value _, '=' :: value => reading.readOption spec (some (String.ofList value))
      | .value _, value => reading.readOption spec (some (String.ofList value))
      | _, rest => do
        let reading ← reading.readOption spec none
        reading.readLetters options rest

def readAwaited (reading : Reading) (word : String) : Reading :=
  { reading with
    pending := reading.pending.map fun pending => { pending with values := pending.values ++ [word] }
    awaiting := false }

def misplaced (reading : Reading) (spec : CommandSpec) (word : String) : Fault :=
  if spec.commands.isEmpty then .unknownOption
  else if reading.plain && ((spec.findCommand? word).isSome || word = "help") then .unknownOption
  else .unknownCommand

def readPlaced (reading : Reading) (spec : CommandSpec) (word : String) : Except Fault Reading :=
  match spec.places[reading.placed]? with
  | none => .error (reading.misplaced spec word)
  | some place =>
    match reading.pending with
    | some pending =>
      if place.many && pending.many && pending.name = place.name then
        .ok { reading.readAwaited word with filling := true }
      else begin place
    | none => begin place
where
  begin (place : PlaceSpec) : Except Fault Reading := do
    let reading ← reading.settle
    .ok
      { reading with
        pending := some { name := place.name, form := place.form, values := [word], many := place.many }
        awaiting := false
        filling := place.many
        placed := if place.many then reading.placed else reading.placed + 1 }

end Reading

/-- The command that is given with its way down to it, and the values given at each level, the top
level first. -/
structure Given where
  path : List String
  levels : List Values

def dataFolderVariable : String := "BDT_DATA_DIR"

def withEnvironment (env : Variables) (values : Values) : Except Fault Values :=
  match values.lookup "data-dir", env.get? dataFolderVariable with
  | none, some folder => do
    Form.path.check folder
    .ok (values ++ [("data-dir", [folder])])
  | _, _ => .ok values

def isComplete (spec : CommandSpec) (values : Values) : Bool :=
  let given (name : String) : Bool := (values.lookup name).isSome
  spec.places.all (given ·.name) && spec.options.all (fun o => !o.required || given o.name) &&
    (spec.alternatives.isEmpty || spec.alternatives.any given)

/-- Close a level, below which a command was given or not. The values that count are those of the
command line. -/
def close (spec : CommandSpec) (env : Variables) (reading : Reading) (below : Bool) :
    Except Fault Values := do
  let reading ← reading.settle
  let all ← withEnvironment env reading.values
  if !below && !spec.commands.isEmpty then
    .error (if all.isEmpty then .nothingGiven else .missingCommand)
  else if 1 < (spec.alternatives.filter fun name => (all.lookup name).isSome).length then
    .error .conflict
  else if isComplete spec all then .ok reading.values
  else .error .missingValue

/-- Words after a request for help name the command that it is about. -/
def readHelp (spec : CommandSpec) : List String → Fault
  | [] => .helpWanted
  | word :: rest =>
    match spec.findCommand? word with
    | some below => readHelp below rest
    | none =>
      if word = "help" && !spec.commands.isEmpty then
        if rest.isEmpty then .helpWanted else .unknownCommand
      else .unknownCommand

def readWords (env : Variables) (options : List OptionSpec) (spec : CommandSpec)
    (reading : Reading) : List String → Except Fault Given
  | [] => do .ok ⟨[], [← close spec env reading false]⟩
  | word :: rest =>
    let isFree := !reading.plain && !reading.awaiting && !reading.filling
    match if isFree then spec.findCommand? word else none with
    | some below => do
      let given ← readWords env (sharedOptions ++ below.options) below {} rest
      let values ← close spec env reading true
      .ok ⟨below.name :: given.path, values :: given.levels⟩
    | none =>
      if isFree && word = "help" && !spec.commands.isEmpty then .error (readHelp spec rest)
      else do
        let next ← step word
        readWords env options spec next rest
where
  step (word : String) : Except Fault Reading :=
    if reading.plain then reading.readPlaced spec word
    else
      match word.toList with
      | ['-', '-'] => .ok { reading with plain := true }
      | '-' :: '-' :: name => reading.readLong options name
      | '-' :: c :: letters => reading.readLetters options (c :: letters)
      | _ =>
        if reading.awaiting then .ok (reading.readAwaited word) else reading.readPlaced spec word

def read (env : Variables) (words : List String) : Except Fault Given :=
  readWords env (sharedOptions ++ [versionOption]) program {} words

end Testbook.CommandLine
