/-! White space and trimming. A character is blank when it has the Unicode property
White_Space; a byte order mark or a zero width space is not. -/

set_option autoImplicit false

namespace Testbook.Text

/-- The Unicode property White_Space. -/
def isBlank (c : Char) : Bool :=
  let n := c.toNat
  (9 ≤ n && n ≤ 13) || n == 0x20 || n == 0x85 || n == 0xA0 || n == 0x1680 ||
    (0x2000 ≤ n && n ≤ 0x200A) || n == 0x2028 || n == 0x2029 || n == 0x202F ||
    n == 0x205F || n == 0x3000

def trimStart (cs : List Char) : List Char := cs.dropWhile isBlank

def trimEnd (cs : List Char) : List Char := (cs.reverse.dropWhile isBlank).reverse

def trimChars (cs : List Char) : List Char := trimEnd (trimStart cs)

def trim (s : String) : String := String.ofList (trimChars s.toList)

def allBlank (s : String) : Bool := s.toList.all isBlank

def trimmed? (s : String) : Option String :=
  if allBlank s then none else some (trim s)

def afterLead? : List Char → List Char → Option (List Char)
  | [], cs => some cs
  | _ :: _, [] => none
  | l :: lead, c :: cs => if l = c then afterLead? lead cs else none

def startsWith (lead cs : List Char) : Bool := (afterLead? lead cs).isSome

def endsWith (tail cs : List Char) : Bool := startsWith tail.reverse cs.reverse

def contains (part : List Char) : List Char → Bool
  | [] => part.isEmpty
  | c :: cs => startsWith part (c :: cs) || contains part cs

def joinWith (separator : String) (pieces : List String) : String :=
  String.intercalate separator pieces

end Testbook.Text
