import Testbook.Json.Basic
import Testbook.Decimal

/-! What a JSON text says before its numbers and texts are taken for values. A text with an unpaired
surrogate is no text of characters, and a number may be too large; both may stand where they are
skipped. Members of a record keep their order and their repetitions. -/

set_option autoImplicit false

namespace Testbook.Json

structure Numeral where
  negative : Bool
  whole : Nat
  /-- The digits after the point; none without a point. -/
  fraction : List Nat
  exponent : Option Int
  deriving DecidableEq, Repr

inductive Tree where
  | null
  | bool (b : Bool)
  | number (n : Numeral)
  | text (s : Option String)
  | list (items : List Tree)
  | record (members : List (Option String × Tree))
  deriving Inhabited

def wordLimit : Nat := UInt64.size

def Numeral.nat? (n : Numeral) : Option Nat :=
  if n.negative = false ∧ n.fraction = [] ∧ n.exponent = none ∧ n.whole < wordLimit then some n.whole
  else none

/-- Scale by a power of ten, at most 308 places at a time. No result means one too large. -/
def scaleReal? : Nat → Float → Int → Option Float
  | 0, _, _ => none
  | fuel + 1, x, exponent =>
    if exponent.natAbs ≤ 308 then
      let power := Float.ofScientific 1 false exponent.natAbs
      let y := if 0 ≤ exponent then x * power else x / power
      if y.isInf then none else some y
    else if x == 0 then some x
    else if 0 ≤ exponent then none
    else scaleReal? fuel (x / Float.ofScientific 1 false 308) (exponent + 308)

/-- Digits that are taken into a mantissa of 64 bits, and how many are left out. -/
def takeDigits : Nat → List Nat → Nat × Nat
  | mantissa, [] => (mantissa, 0)
  | mantissa, d :: ds =>
    if 10 * mantissa + d < wordLimit then takeDigits (10 * mantissa + d) ds
    else (mantissa, ds.length + 1)

def Numeral.real? (n : Numeral) : Option Float :=
  let wholeDigits := (Decimal.digits n.whole).filterMap Decimal.digit?
  let (head, left) := takeDigits 0 wholeDigits
  let (mantissa, dropped) := takeDigits head n.fraction
  let shift : Int := left - ((n.fraction.length - dropped : Nat) : Int)
  let exponent := n.exponent.getD 0
  let value :=
    if exponent.natAbs > 2147483647 then if mantissa = 0 ∨ exponent < 0 then some 0 else none
    else scaleReal? (exponent.natAbs + n.fraction.length + left + 2) (Float.ofNat mantissa) (shift + exponent)
  value.map fun x => if n.negative then -x else x

/-- Whole numbers of 64 bits keep their value; all others, and minus zero, are binary numbers. -/
def Numeral.value? (n : Numeral) : Option Json :=
  if n.fraction = [] ∧ n.exponent = none then
    if n.negative then
      if 0 < n.whole ∧ 2 * n.whole ≤ wordLimit then some (.int (-(n.whole : Int))) else n.real?.map .real
    else if n.whole < wordLimit then some (.int n.whole)
    else n.real?.map .real
  else n.real?.map .real

namespace Tree

mutual

def value? : Tree → Option Json
  | .null => some .null
  | .bool b => some (.bool b)
  | .number n => n.value?
  | .text s => s.map .text
  | .list items => (values? items).map .list
  | .record members => (members? members).map Json.sorted

def values? : List Tree → Option (List Json)
  | [] => some []
  | item :: items => do
    let value ← value? item
    let values ← values? items
    some (value :: values)

def members? : List (Option String × Tree) → Option (List (String × Json))
  | [] => some []
  | (key, item) :: members => do
    let key ← key
    let value ← value? item
    let values ← members? members
    some ((key, value) :: values)

end

mutual

def depth : Tree → Nat
  | .list items => depths items + 1
  | .record members => memberDepths members + 1
  | _ => 0

def depths : List Tree → Nat
  | [] => 0
  | item :: items => max (depth item) (depths items)

def memberDepths : List (Option String × Tree) → Nat
  | [] => 0
  | (_, item) :: members => max (depth item) (memberDepths members)

end

def depthLimit : Nat := 127

/-- All values standing under a key, in order; none of them if some key is no text of characters. -/
def under? (key : String) : List (Option String × Tree) → Option (List Tree)
  | [] => some []
  | (k, item) :: members => do
    let name ← k
    let items ← under? key members
    some (if name = key then item :: items else items)

def once? (key : String) (members : List (Option String × Tree)) : Option (Option Tree) := do
  match ← under? key members with
  | [] => some none
  | [item] => some (some item)
  | _ => none

/-- The fields of a record by their names, each there or not. Unknown names are skipped, a known one
may not occur twice. A list stands for the record of its items in the order of the names, of which the
last may lack. -/
def fields? (names : List String) : Tree → Option (List (Option Tree))
  | .record members => names.mapM fun name => once? name members
  | .list items =>
    if items.length ≤ names.length then
      some (items.map some ++ List.replicate (names.length - items.length) none)
    else none
  | _ => none

def text? : Tree → Option String
  | .text s => s
  | _ => none

def bool? : Tree → Option Bool
  | .bool b => some b
  | _ => none

def nat? : Tree → Option Nat
  | .number n => n.nat?
  | _ => none

def items? : Tree → Option (List Tree)
  | .list items => some items
  | _ => none

/-- A choice is written as its name, or as a record of its name with nothing under it. -/
def choice? : Tree → Option String
  | .text s => s
  | .record [(key, .null)] => key
  | _ => none

end Tree

end Testbook.Json
