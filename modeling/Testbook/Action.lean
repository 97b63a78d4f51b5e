import Testbook.Action.Sanitized
import Testbook.Document.Reader
import Testbook.Json.Printer
import Testbook.Instant.Written
import Testbook.Variables

/-! What was done, when, by whom, and with what success. -/

set_option autoImplicit false

namespace Testbook

open Json (Tree)

structure Action where
  timestamp : Instant
  command : String
  args : Json
  success : Bool
  error : Option String
  /-- In milliseconds. -/
  duration : Nat
  user : String

namespace Action

/-- Who is at work, as far as the environment tells. -/
def currentUser (env : Variables) : String :=
  ((env.get? "USER").or (env.get? "USERNAME")).getD "unknown"

def record (now : Instant) (env : Variables) (command : String) (args : Json) (success : Bool)
    (error : Option String) (duration : Nat) : Action where
  timestamp := now
  command
  args := sanitized args
  success
  error
  duration
  user := currentUser env

def json (action : Action) : Json :=
  .record <|
    [("timestamp", .text action.timestamp.stamp), ("command", .text action.command),
      ("args", action.args), ("success", .bool action.success)] ++
    Json.optional "error" (action.error.map .text) ++
    [("duration_ms", .nat action.duration), ("user", .text action.user)]

/-- Arguments may be any value that is read whole within a record. -/
def argsOfTree? (tree : Tree) : Option Json :=
  if tree.depth + 1 ≤ Tree.depthLimit then tree.value? else none

/-- In the form of a list nothing may lack. -/
def isWhole : Tree → Bool
  | .list items => items.length = 7
  | _ => true

def ofTree? (tree : Tree) : Option Action := do
  match ← tree.fields? ["timestamp", "command", "args", "success", "error", "duration_ms", "user"] with
  | [timestamp, command, args, success, error, duration, user] =>
    let timestamp ← Document.required Document.instant timestamp
    let command ← Document.required Tree.text? command
    let args ← Document.required argsOfTree? args
    let success ← Document.required Tree.bool? success
    let error ← Document.nullable Tree.text? error
    let duration ← Document.required Tree.nat? duration
    let user ← Document.required Tree.text? user
    if isWhole tree then some { timestamp, command, args, success, error, duration, user } else none
  | _ => none

end Action

end Testbook
