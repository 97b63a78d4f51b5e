import Testbook.Answer.Plain
import Testbook.Answer.Written
import Testbook.CommandLine.Invocation
import Testbook.Request.Performed

/-! One invocation of the program: from the words of a command line, the environment and the files to
what is printed, the exit code and the files afterwards. An invocation that is understood leaves one
line in the action log, unless the settings switch it off. -/

set_option autoImplicit false

namespace Testbook.Program

/-- What an invocation changes: the files, and how many ids are used up. -/
structure World where
  directory : Directory
  ids : IdSource

/-- What an invocation prints, each text with its end of line, and its exit code. -/
structure Result where
  code : Nat
  out : String := ""
  err : String := ""
  deriving DecidableEq, Repr

def print (human : Bool) : Answer → String
  | .document text => text ++ "\n"
  | answer => (if human then answer.plain else answer.json.compact) ++ "\n"

def complain (human : Bool) (error : Error) : String :=
  (if human then "Error: " ++ error.message
   else (Json.record [("error", .text error.message)]).compact) ++ "\n"

def refuse : CommandLine.Fault → Result
  | .helpWanted => { code := 0, out := "Usage: bdt [OPTIONS] <COMMAND>\n" }
  | .versionWanted => { code := 0, out := "bdt 0.1.0\n" }
  | _ => { code := 2, err := "error: the command line is not understood; try 'bdt --help'\n" }

def overrides (invocation : Invocation) : Overrides where
  outputFormat := if invocation.human then some .human else none
  backend := invocation.backend

/-- Carry out a request, after beginning a store if it needs one. -/
def perform (context : Context) (world : World) : Request → Except Error Answer × World
  | .store request =>
    match Medium.begin world.directory context.dataFolder context.settings.backend.value with
    | (.error e, directory) => (.error e, { world with directory })
    | (.ok medium, directory) =>
      let (answer, session) := request.perform context ⟨directory, medium, world.ids⟩
      (answer, ⟨session.directory, session.ids⟩)
  | .folder request =>
    let (answer, directory) := request.perform context world.directory
    (answer, { world with directory })

def actionOf (context : Context) (env : Variables) (request : Request)
    (answer : Except Error Answer) (elapsed : Nat) : Action :=
  match answer with
  | .ok _ => Action.record context.now env request.name request.args true none elapsed
  | .error e =>
    Action.record context.now env request.name request.args false (some e.message) elapsed

/-- Log an action if the settings say so. A log that cannot be written is no failure. -/
def log (context : Context) (world : World) (action : Action) : World :=
  if context.settings.actionLog.value then
    { world with directory := ActionLog.add world.directory context.dataFolder action }
  else world

def conclude (human : Bool) : Except Error Answer → Result
  | .ok answer => { code := 0, out := print human answer }
  | .error e => { code := 1, err := complain human e }

/-- Carry out an invocation. The action log says that it took `elapsed` milliseconds. -/
def carryOut (build : Build) (env : Variables) (now : Instant) (elapsed : Nat) (world : World)
    (invocation : Invocation) : Result × World :=
  match Context.load build world.directory env now invocation.dataFolder
      (overrides invocation) with
  | .error e => ({ code := 1, err := complain invocation.human e }, world)
  | .ok context =>
    let (answer, world) := perform context world invocation.request
    (conclude context.settings.isHuman answer,
      log context world (actionOf context env invocation.request answer elapsed))

def run (build : Build) (env : Variables) (now : Instant) (elapsed : Nat) (world : World)
    (words : List String) : Result × World :=
  match Invocation.ofWords env words with
  | .error fault => (refuse fault, world)
  | .ok invocation => carryOut build env now elapsed world invocation

end Testbook.Program
