/-! Cutting a text into lines, in two ways. `pieces` cuts at every line feed and keeps what
stands after the last one, empty or not; `records` reads lines that each end in a line feed, or in
a carriage return and a line feed, where only the last may lack its end. -/

set_option autoImplicit false

namespace Testbook.Text

def piecesFrom (begun : List Char) : List Char → List (List Char)
  | [] => [begun.reverse]
  | c :: cs => if c = '\n' then begun.reverse :: piecesFrom [] cs else piecesFrom (c :: begun) cs

def pieces (cs : List Char) : List (List Char) := piecesFrom [] cs

/-- A line whose end was found, given in reverse, without a carriage return at its end. -/
def closeRecord : List Char → List Char
  | '\r' :: rest => rest.reverse
  | rest => rest.reverse

def recordsFrom (begun : List Char) : List Char → List (List Char)
  | [] => if begun.isEmpty then [] else [begun.reverse]
  | c :: cs => if c = '\n' then closeRecord begun :: recordsFrom [] cs else recordsFrom (c :: begun) cs

def records (cs : List Char) : List (List Char) := recordsFrom [] cs

end Testbook.Text
