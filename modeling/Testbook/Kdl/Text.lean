import Testbook.Decimal
import Testbook.Hexadecimal
import Testbook.Kdl.Space
import Testbook.Text.Blank

/-! Texts in KDL: bare words, quoted texts with escapes, raw texts between hash signs, and texts over
several lines, of which every line begins with the blanks before the closing quotes. -/

set_option autoImplicit false

namespace Testbook.Kdl

def isWordChar (c : Char) : Bool :=
  !(isSpace c || isBreak c || isForbidden c || "\\/()\x7b\x7d;[]\"#=".toList.contains c)

def isSign (c : Char) : Bool := c == '+' || c == '-'

/-- Words that only look like keywords. -/
def reservedWords : List String := ["true", "false", "null", "inf", "nan"]

def isWord (cs : List Char) : Bool :=
  let begins : List Char → Bool
    | [] => true
    | '.' :: d :: _ => !Decimal.isDigit d
    | c :: _ => !Decimal.isDigit c
  !cs.isEmpty && !reservedWords.contains (String.ofList cs) &&
    match cs with
    | c :: rest => begins cs && (!isSign c || begins rest)
    | [] => false

def readWord? (cs : List Char) : Option (String × List Char) :=
  let word := cs.takeWhile isWordChar
  if isWord word then some (String.ofList word, cs.dropWhile isWordChar) else none

/-- A character of a text, and whether it was written as itself. -/
structure Glyph where
  char : Char
  plain : Bool
  deriving DecidableEq, Repr

def Glyph.isBreak (g : Glyph) : Bool := g.plain && g.char == '\n'

def Glyph.isSpace (g : Glyph) : Bool := g.plain && Kdl.isSpace g.char

def readCode? (cs : List Char) : Option (Char × List Char) := do
  let digits ← (cs.takeWhile (· ≠ '\x7d')).mapM Hexadecimal.digit?
  let n := digits.foldl (16 * · + ·) 0
  match cs.dropWhile (· ≠ '\x7d') with
  | '\x7d' :: rest =>
    if 0 < digits.length ∧ digits.length ≤ 6 ∧ n.isValidChar then some (Char.ofNat n, rest) else none
  | _ => none

def escaped? (c : Char) : Option Char :=
  match c with
  | '"' => some '"'
  | '\\' => some '\\'
  | 'b' => some (Char.ofNat 8)
  | 'f' => some (Char.ofNat 12)
  | 'n' => some '\n'
  | 'r' => some '\r'
  | 't' => some '\t'
  | 's' => some ' '
  | _ => none

def dropBlank (cs : List Char) : List Char := cs.dropWhile fun c => isSpace c || isBreak c

/-- The glyphs up to the end of a text, and what follows it. The text ends where `close?` finds its
end; escapes are read if `escapes` holds. -/
def readGlyphs? (close? : List Char → Option (List Char)) (escapes : Bool) :
    Nat → List Char → Option (List Glyph × List Char)
  | 0, _ => none
  | fuel + 1, cs =>
    match close? cs with
    | some rest => some ([], rest)
    | none => do
      let (glyphs, cs) ← glyph? cs
      let (more, cs) ← readGlyphs? close? escapes fuel cs
      some (glyphs ++ more, cs)
where
  /-- One character. A backslash before blanks stands for nothing, and takes them with it. -/
  glyph? (cs : List Char) : Option (List Glyph × List Char) :=
    match cs with
    | [] => none
    | '\r' :: '\n' :: rest => some ([⟨'\n', true⟩], rest)
    | c :: rest =>
      if escapes ∧ c = '\\' then escape? rest
      else if isForbidden c then none
      else some ([⟨if isBreak c then '\n' else c, true⟩], rest)
  escape? (cs : List Char) : Option (List Glyph × List Char) :=
    match cs with
    | 'u' :: '\x7b' :: rest => (readCode? rest).map fun (c, rest) => ([⟨c, false⟩], rest)
    | c :: rest =>
      if isSpace c || isBreak c then some ([], dropBlank rest)
      else (escaped? c).map fun c => ([⟨c, false⟩], rest)
    | [] => none

def textOf (glyphs : List Glyph) : String := String.ofList (glyphs.map (·.char))

def linesFrom (begun : List Glyph) : List Glyph → List (List Glyph)
  | [] => [begun.reverse]
  | g :: gs => if g.isBreak then begun.reverse :: linesFrom [] gs else linesFrom (g :: begun) gs

/-- A line without the margin. A blank line need not have it. -/
def withoutMargin? (margin line : List Glyph) : Option (List Glyph) :=
  if line.all (·.isSpace) then some []
  else if line.take margin.length = margin then some (line.drop margin.length)
  else none

/-- The text of several lines: the last one, of blanks alone, is their margin. -/
def unindented? (glyphs : List Glyph) : Option String := do
  let lines := linesFrom [] glyphs
  let margin ← lines.getLast?
  if margin.all (·.isSpace) then
    let kept ← lines.dropLast.mapM (withoutMargin? margin)
    some (String.intercalate "\n" (kept.map textOf))
  else none

/-- A text from its opening quote on; the hash signs around it count as `hashes`. Three quotes before a
line break open a text of several lines. -/
def readQuoted? (hashes : Nat) (cs : List Char) : Option (String × List Char) :=
  let tail := List.replicate hashes '#'
  let escapes := hashes = 0
  match (Text.afterLead? ['"', '"', '"'] cs).bind readBreak? with
  | some body => do
    let close? := Text.afterLead? (['"', '"', '"'] ++ tail)
    let (glyphs, rest) ← readGlyphs? close? escapes (body.length + 1) body
    some (← unindented? glyphs, rest)
  | none => do
    let body ← Text.afterLead? ['"'] cs
    let (glyphs, rest) ← readGlyphs? (Text.afterLead? ('"' :: tail)) escapes (body.length + 1) body
    if glyphs.any (·.isBreak) then none else some (textOf glyphs, rest)

def readText? (cs : List Char) : Option (String × List Char) :=
  match cs with
  | '"' :: _ => (readQuoted? 0 cs).filter fun (_, rest) => endsValue rest
  | '#' :: _ =>
    (readQuoted? (cs.takeWhile (· = '#')).length (cs.dropWhile (· = '#'))).filter
      fun (_, rest) => endsValue rest
  | _ => readWord? cs

end Testbook.Kdl
