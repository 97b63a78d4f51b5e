import Testbook.Error

/-! What a note or an attachment belongs to. -/

set_option autoImplicit false

namespace Testbook

inductive Target where
  | step (id : String)
  | scenario (id : String)
  deriving DecidableEq, Repr

namespace Target

def ofOptions (step scenario : Option String) : Except Error Target :=
  match step, scenario with
  | some id, none => .ok (.step id)
  | none, some id => .ok (.scenario id)
  | _, _ => .error (.refused .unclearTarget)

def step? : Target → Option String
  | step id => some id
  | scenario _ => none

def scenario? : Target → Option String
  | step _ => none
  | scenario id => some id

def label : Target → String
  | step id => "step " ++ id
  | scenario id => "scenario " ++ id

end Target

end Testbook
