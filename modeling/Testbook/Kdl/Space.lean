/-! What stands between the parts of a KDL document: blanks, line breaks, comments, and line breaks
that a backslash takes back. -/

set_option autoImplicit false

namespace Testbook.Kdl

def isBreak (c : Char) : Bool :=
  let n := c.toNat
  (0xA ≤ n && n ≤ 0xD) || n == 0x85 || n == 0x2028 || n == 0x2029

def isSpace (c : Char) : Bool :=
  let n := c.toNat
  n == 9 || n == 0x20 || n == 0xA0 || n == 0x1680 || (0x2000 ≤ n && n ≤ 0x200A) || n == 0x202F ||
    n == 0x205F || n == 0x3000

/-- Control characters below the space, marks of direction, and the byte order mark; they must not
stand in a text as they are. -/
def isForbidden (c : Char) : Bool :=
  let n := c.toNat
  n ≤ 8 || (0xE ≤ n && n ≤ 0x1F) || n == 0x200E || n == 0x200F ||
    (0x202A ≤ n && n ≤ 0x202E) || (0x2066 ≤ n && n ≤ 0x2069) || n == 0xFEFF

def readBreak? : List Char → Option (List Char)
  | '\r' :: '\n' :: rest => some rest
  | c :: rest => if isBreak c then some rest else none
  | [] => none

/-- What follows a comment that may hold others, given how many it stands in. -/
def skipBlock : Nat → List Char → Option (List Char)
  | 0, '*' :: '/' :: rest => some rest
  | depth + 1, '*' :: '/' :: rest => skipBlock depth rest
  | depth, '/' :: '*' :: rest => skipBlock (depth + 1) rest
  | depth, _ :: rest => skipBlock depth rest
  | _, [] => none

def skipLine (cs : List Char) : List Char := cs.dropWhile (!isBreak ·)

/-- Skip blanks and comments, and line breaks too if they mean nothing here. Nothing is the result
where a comment has no end, or a backslash no line break to take back. -/
def skipFrom (breaks : Bool) : Nat → List Char → Option (List Char)
  | 0, cs => some cs
  | fuel + 1, cs =>
    match cs with
    | [] => some []
    | '/' :: '*' :: rest => (skipBlock 0 rest).bind (skipFrom breaks fuel)
    | '/' :: '/' :: rest => if breaks then skipFrom breaks fuel (skipLine rest) else some cs
    | '\\' :: rest => (skipBack fuel rest).bind (skipFrom breaks fuel)
    | c :: rest =>
      if isSpace c || (breaks && isBreak c) then skipFrom breaks fuel rest else some cs
where
  /-- What follows the line break after a backslash. -/
  skipBack : Nat → List Char → Option (List Char)
    | 0, _ => none
    | fuel + 1, cs =>
      match cs with
      | [] => some []
      | '/' :: '*' :: rest => (skipBlock 0 rest).bind (skipBack fuel)
      | '/' :: '/' :: rest => some ((readBreak? (skipLine rest)).getD [])
      | c :: rest => if isSpace c then skipBack fuel rest else readBreak? cs

def skipSpace (cs : List Char) : Option (List Char) := skipFrom false (cs.length + 1) cs

def skipSomeSpace? (cs : List Char) : Option (List Char) := do
  let rest ← skipSpace cs
  if rest.length < cs.length then some rest else none

def skipLines (cs : List Char) : Option (List Char) := skipFrom true (cs.length + 1) cs

/-- Skip what separates two nodes: a semicolon, a line break, or a comment up to the end of its
line. -/
def skipEnd? : List Char → Option (List Char)
  | ';' :: rest => some rest
  | '/' :: '/' :: rest => some ((readBreak? (skipLine rest)).getD [])
  | cs => readBreak? cs

def endsValue : List Char → Bool
  | [] => true
  | '/' :: c :: _ => c == '/' || c == '*'
  | c :: _ => isSpace c || isBreak c || "\\)=;\x7b\x7d".toList.contains c

end Testbook.Kdl
