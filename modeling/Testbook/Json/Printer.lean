import Testbook.Hexadecimal
import Testbook.Json.Basic
import Testbook.Json.Shortest

/-! Writing JSON: on one line without blanks, or with two blanks of indentation for each level. Only
quotes, backslashes and control characters are escaped. -/

set_option autoImplicit false

namespace Testbook.Json

def escapeChar (c : Char) : List Char :=
  match c with
  | '"' => ['\\', '"']
  | '\\' => ['\\', '\\']
  | '\n' => ['\\', 'n']
  | '\r' => ['\\', 'r']
  | '\t' => ['\\', 't']
  | c =>
    if c.toNat = 8 then ['\\', 'b']
    else if c.toNat = 12 then ['\\', 'f']
    else if c.toNat < 32 then '\\' :: 'u' :: Hexadecimal.fixed 4 c.toNat
    else [c]

def quote (s : String) : List Char := '"' :: (s.toList.flatMap escapeChar ++ ['"'])

/-- A positive decimal: with a point while it has at most sixteen places before it and at most five
zeros after it, else with an exponent, which always has a sign. -/
def scaledText (s : Shortest.Scaled) : List Char :=
  let ds := Decimal.digits s.digits
  let point : Int := ds.length + s.exponent
  if 0 ≤ s.exponent ∧ point ≤ 16 then ds ++ List.replicate s.exponent.toNat '0' ++ ['.', '0']
  else if 0 < point ∧ point ≤ 16 then ds.take point.toNat ++ '.' :: ds.drop point.toNat
  else if -5 < point ∧ point ≤ 0 then '0' :: '.' :: (List.replicate (-point).toNat '0' ++ ds)
  else
    let rest := ds.drop 1
    let sign := if 0 < point then ['+'] else []
    ds.take 1 ++ (if rest.isEmpty then [] else '.' :: rest) ++
      'e' :: (sign ++ Decimal.intDigits (point - 1))

def realText (x : Float) : List Char :=
  let bits := x.toBits
  let magnitude := bits &&& 0x7FFFFFFFFFFFFFFF
  if magnitude ≥ 0x7FF0000000000000 then "null".toList
  else
    (if bits = magnitude then [] else ['-']) ++
      (if magnitude = 0 then "0.0".toList else scaledText (Shortest.ofBits magnitude))

mutual

def compactChars : Json → List Char
  | .null => "null".toList
  | .bool true => "true".toList
  | .bool false => "false".toList
  | .int n => Decimal.intDigits n
  | .real x => realText x
  | .text s => quote s
  | .list [] => ['[', ']']
  | .list (item :: items) => '[' :: (compactChars item ++ compactItems items)
  | .record [] => ['\x7b', '\x7d']
  | .record ((key, value) :: members) =>
    '\x7b' :: (quote key ++ ':' :: (compactChars value ++ compactMembers members))

def compactItems : List Json → List Char
  | [] => [']']
  | item :: items => ',' :: (compactChars item ++ compactItems items)

def compactMembers : List (String × Json) → List Char
  | [] => ['\x7d']
  | (key, value) :: members =>
    ',' :: (quote key ++ ':' :: (compactChars value ++ compactMembers members))

end

def compact (json : Json) : String := String.ofList (compactChars json)

def newLine (depth : Nat) : List Char := '\n' :: List.replicate (2 * depth) ' '

mutual

def prettyChars (depth : Nat) : Json → List Char
  | .list [] => ['[', ']']
  | .list (item :: items) =>
    '[' :: (newLine (depth + 1) ++ (prettyChars (depth + 1) item ++ prettyItems depth items))
  | .record [] => ['\x7b', '\x7d']
  | .record ((key, value) :: members) =>
    '\x7b' :: (newLine (depth + 1) ++ (quote key ++ ':' :: ' ' ::
      (prettyChars (depth + 1) value ++ prettyMembers depth members)))
  | .null => "null".toList
  | .bool true => "true".toList
  | .bool false => "false".toList
  | .int n => Decimal.intDigits n
  | .real x => realText x
  | .text s => quote s

def prettyItems (depth : Nat) : List Json → List Char
  | [] => newLine depth ++ [']']
  | item :: items =>
    ',' :: (newLine (depth + 1) ++ (prettyChars (depth + 1) item ++ prettyItems depth items))

def prettyMembers (depth : Nat) : List (String × Json) → List Char
  | [] => newLine depth ++ ['\x7d']
  | (key, value) :: members =>
    ',' :: (newLine (depth + 1) ++ (quote key ++ ':' :: ' ' ::
      (prettyChars (depth + 1) value ++ prettyMembers depth members)))

end

def pretty (json : Json) : String := String.ofList (prettyChars 0 json)

end Testbook.Json
