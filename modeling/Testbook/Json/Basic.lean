/-! JSON values. Members of a record keep their order. -/

set_option autoImplicit false

namespace Testbook

inductive Json where
  | null
  | bool (b : Bool)
  | int (n : Int)
  | real (x : Float)
  | text (s : String)
  | list (items : List Json)
  | record (members : List (String × Json))
  deriving Inhabited

namespace Json

def nat (n : Nat) : Json := .int n

def optional (key : String) : Option Json → List (String × Json)
  | none => []
  | some value => [(key, value)]

def orNull : Option Json → Json
  | none => .null
  | some value => value

/-- Put a member into its place in the order of keys, instead of one with the same key. -/
def putMember (key : String) (value : Json) : List (String × Json) → List (String × Json)
  | [] => [(key, value)]
  | (k, v) :: rest =>
    if key < k then (key, value) :: (k, v) :: rest
    else if key = k then (key, value) :: rest
    else (k, v) :: putMember key value rest

/-- A record in the order of its keys; of members with one key the last one counts. -/
def sorted (members : List (String × Json)) : Json :=
  .record (members.foldl (fun sorted (key, value) => putMember key value sorted) [])

end Json

end Testbook
