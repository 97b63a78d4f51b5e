/-! Numbers in decimal digits. -/

set_option autoImplicit false

namespace Testbook.Decimal

def digits (n : Nat) : List Char := Nat.toDigits 10 n

def text (n : Nat) : String := String.ofList (digits n)

/-- A number of things: the word gets an `s` unless it is one. -/
def counted (n : Nat) (word : String) : String :=
  text n ++ " " ++ word ++ if n = 1 then "" else "s"

def intDigits : Int → List Char
  | .ofNat n => digits n
  | .negSucc n => '-' :: digits (n + 1)

/-- The last `width` digits of a number, with leading zeros. -/
def fixed : Nat → Nat → List Char
  | 0, _ => []
  | width + 1, n => fixed width (n / 10) ++ [Nat.digitChar (n % 10)]

def padded (width n : Nat) : List Char :=
  if n < Nat.pow 10 width then fixed width n else digits n

def digit? (c : Char) : Option Nat :=
  if '0' ≤ c ∧ c ≤ '9' then some (c.toNat - 48) else none

def isDigit (c : Char) : Bool := (digit? c).isSome

def value (ds : List Nat) : Nat := ds.foldl (fun n d => 10 * n + d) 0

/-- At most `limit` digits from the beginning, and what follows them. -/
def take : Nat → List Char → List Nat × List Char
  | 0, cs => ([], cs)
  | _, [] => ([], [])
  | limit + 1, c :: cs =>
    match digit? c with
    | some d => let (ds, rest) := take limit cs; (d :: ds, rest)
    | none => ([], c :: cs)

def span (cs : List Char) : List Nat × List Char := take cs.length cs

end Testbook.Decimal
