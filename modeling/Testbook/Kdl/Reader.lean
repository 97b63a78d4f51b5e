import Testbook.Kdl.Basic
import Testbook.Kdl.Text

/-! Reading KDL, version 2. -/

set_option autoImplicit false

namespace Testbook.Kdl

def isDigitOf (base : Nat) (c : Char) : Bool := (Hexadecimal.digit? c).any (· < base)

def readDigits? (base : Nat) (cs : List Char) : Option (List Char × List Char) :=
  let isPart (c : Char) : Bool := c == '_' || isDigitOf base c
  match cs with
  | c :: _ => if isDigitOf base c then some (cs.takeWhile isPart, cs.dropWhile isPart) else none
  | [] => none

def wholeLimit : Nat := Nat.pow 2 127

def valueOf (base : Nat) (digits : List Char) : Nat :=
  (digits.filterMap Hexadecimal.digit?).foldl (base * · + ·) 0

/-- Digits that stand for at most 127 bits, be they a whole number, a fraction or a power. -/
def readGroup? (base : Nat) (cs : List Char) : Option (List Char × List Char) :=
  (readDigits? base cs).filter fun (ds, _) => valueOf base ds < wholeLimit

def readFraction? : List Char → Option (List Char × List Char)
  | '.' :: rest => (readGroup? 10 rest).map fun (ds, rest) => ('.' :: ds, rest)
  | cs => some ([], cs)

def readPower? (cs : List Char) : Option (List Char × List Char) :=
  match cs with
  | e :: rest =>
    if e = 'e' ∨ e = 'E' then
      match rest with
      | s :: rest =>
        if isSign s then (readGroup? 10 rest).map fun (ds, rest) => (e :: s :: ds, rest)
        else (readGroup? 10 (s :: rest)).map fun (ds, rest) => (e :: ds, rest)
      | [] => none
    else some ([], cs)
  | [] => some ([], [])

def base? (letter : Char) : Option Nat :=
  if letter = 'x' ∨ letter = 'X' then some 16
  else if letter = 'o' ∨ letter = 'O' then some 8
  else if letter = 'b' ∨ letter = 'B' then some 2
  else none

def readDecimal? (cs : List Char) : Option (List Char × List Char) := do
  let (whole, cs) ← readGroup? 10 cs
  let (fraction, cs) ← readFraction? cs
  let (power, cs) ← readPower? cs
  some (whole ++ fraction ++ power, cs)

/-- A number without its sign. One in another base than ten begins with a zero and the letter of the
base. -/
def readUnsigned? (cs : List Char) : Option (List Char × List Char) :=
  match cs with
  | '0' :: letter :: rest =>
    match base? letter with
    | some base => (readGroup? base rest).map fun (ds, rest) => ('0' :: letter :: ds, rest)
    | none => readDecimal? cs
  | _ => readDecimal? cs

def readNumber? (cs : List Char) : Option (Value × List Char) := do
  let (sign, digits) := match cs with
    | c :: rest => if isSign c then ([c], rest) else ([], cs)
    | [] => ([], [])
  let (ds, rest) ← readUnsigned? digits
  if endsValue rest then some (.number (String.ofList (sign ++ ds)), rest) else none

def keywords : List (String × Value) :=
  [("#true", .bool true), ("#false", .bool false), ("#null", .null), ("#inf", .number "#inf"),
    ("#-inf", .number "#-inf"), ("#nan", .number "#nan")]

def readKeyword? (cs : List Char) : Option (Value × List Char) :=
  keywords.findSome? fun (word, value) => (Text.afterLead? word.toList cs).map fun rest => (value, rest)

def startsNumber : List Char → Bool
  | c :: d :: _ => Decimal.isDigit c || (isSign c && Decimal.isDigit d)
  | [c] => Decimal.isDigit c
  | [] => false

def skipType? : List Char → Option (List Char)
  | '(' :: rest => do
    let (_, rest) ← readText? (← skipSpace rest)
    match ← skipSpace rest with
    | ')' :: rest => skipSpace rest
    | _ => none
  | cs => some cs

def readPlain? (cs : List Char) : Option (Value × List Char) :=
  if startsNumber cs then readNumber? cs
  else (readKeyword? cs).orElse fun _ => (readText? cs).map fun (s, rest) => (.text s, rest)

def readValue? (cs : List Char) : Option (Value × List Char) := do readPlain? (← skipType? cs)

/-- A value or a property. A text before an equals sign is the name of a property. -/
def readGiven? (cs : List Char) : Option (Entry × List Char) := do
  let (value, rest) ← readValue? cs
  match value, ← skipSpace rest with
  | .text name, '=' :: after =>
    if cs.head? = some '(' then none
    else
      let (value, rest) ← readValue? (← skipSpace after)
      some (⟨some name, value⟩, rest)
  | _, _ => some (⟨none, value⟩, rest)

/-! What follows a slash and a hyphen is left out: a node, an entry, or children. Each reader takes the
most that it can; where one that is optional fails, nothing is taken. -/

mutual

/-- Nodes, each but the last with what ends it, up to where no more can be read. -/
def readNodes? : Nat → List Char → Option (List Node × List Char)
  | 0, _ => none
  | fuel + 1, cs => do
    let cs ← skipLead? fuel cs
    match readNode? fuel cs with
    | none => some ([], cs)
    | some (node, rest) =>
      match skipEnd? rest with
      | none => some ([node], ← skipLead? fuel rest)
      | some rest =>
        let (nodes, rest) ← readNodes? fuel rest
        some (node :: nodes, rest)

/-- The nodes of a document or of a node. A lone semicolon stands for none. -/
def readBody? : Nat → List Char → Option (List Node × List Char)
  | 0, _ => none
  | fuel + 1, cs => do
    match ← readNodes? fuel cs with
    | ([], ';' :: rest) => some ([], ← skipLead? fuel rest)
    | answer => some answer

def skipLead? : Nat → List Char → Option (List Char)
  | 0, _ => none
  | fuel + 1, cs => do
    match ← skipLines cs with
    | '/' :: '-' :: rest =>
      let (_, rest) ← readNode? fuel (← skipLines rest)
      skipLead? fuel rest
    | cs => some cs

/-- A node without what ends it. Blanks at its end belong to it, unless it has children. -/
def readNode? : Nat → List Char → Option (Node × List Char)
  | 0, _ => none
  | fuel + 1, cs => do
    let (name, rest) ← readText? (← skipType? cs)
    let (entries, rest) ← readEntries? fuel rest
    let rest := ((skipSomeSpace? rest).bind (skipEntries? fuel)).getD rest
    let rest := ((skipSomeSpace? rest).bind (skipChildren? fuel)).getD rest
    match ← skipSpace rest with
    | '\x7b' :: rest =>
      let (children, rest) ← readChildren? fuel rest
      some (.mk name entries children, (skipChildren? fuel rest).getD rest)
    | rest => some (.mk name entries [], rest)

def readEntries? : Nat → List Char → Option (List Entry × List Char)
  | 0, _ => none
  | fuel + 1, cs =>
    match (skipSomeSpace? cs).bind fun cs => readEntry? fuel cs with
    | none => some ([], cs)
    | some (entry, rest) => do
      let (entries, rest) ← readEntries? fuel rest
      some (entry :: entries, rest)

def readEntry? : Nat → List Char → Option (Entry × List Char)
  | 0, _ => none
  | fuel + 1, cs => do
    let cs ← skipSpace cs
    readGiven? (((skipEntries? fuel cs).bind skipSomeSpace?).getD cs)

def skipEntries? : Nat → List Char → Option (List Char)
  | 0, _ => none
  | fuel + 1, cs =>
    match cs with
    | '/' :: '-' :: rest => do
      let (_, rest) ← readEntry? fuel (← skipLines rest)
      some (((skipSomeSpace? rest).bind (skipEntries? fuel)).getD rest)
    | _ => none

def skipChildren? : Nat → List Char → Option (List Char)
  | 0, _ => none
  | fuel + 1, cs => do
    match ← skipSpace cs with
    | '/' :: '-' :: rest =>
      match ← skipLines rest with
      | '\x7b' :: rest =>
        let (_, rest) ← readChildren? fuel rest
        some (((skipSomeSpace? rest).bind (skipChildren? fuel)).getD rest)
      | _ => none
    | _ => none

def readChildren? : Nat → List Char → Option (List Node × List Char)
  | 0, _ => none
  | fuel + 1, cs => do
    match ← readBody? fuel cs with
    | (nodes, '\x7d' :: rest) => some (nodes, rest)
    | _ => none

end

/-- A document may begin with a byte order mark. Each step reads a character or leads to one that
does in at most four steps, so that four times the length of the text is fuel enough. -/
def ofChars? (cs : List Char) : Option (List Node) :=
  let cs := match cs with
    | c :: rest => if c.toNat = 0xFEFF then rest else cs
    | [] => []
  match readBody? (4 * cs.length + 8) cs with
  | some (nodes, []) => some nodes
  | _ => none

def ofText? (s : String) : Option (List Node) := ofChars? s.toList

end Testbook.Kdl
