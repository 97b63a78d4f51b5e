import Testbook.Decimal
import Testbook.Text.Blank
import Testbook.Instant.Basic

/-! Reading an instant. The form is that of RFC 3339, read leniently: numbers may lack leading
zeros, a year may carry a sign and then have any length, blanks may stand around the parts, the date
may be joined to the time by a blank, and the offset may be `UTC` or lack its colon. The instant is
that of universal time, whatever the offset. -/

set_option autoImplicit false

namespace Testbook.Instant

def readNumber? (limit : Nat) (cs : List Char) : Option (Nat × List Char) :=
  match Decimal.take limit (Text.trimStart cs) with
  | ([], _) => none
  | (ds, rest) => some (Decimal.value ds, rest)

def readDigits? (cs : List Char) : Option (Nat × List Char) :=
  match Decimal.span cs with
  | ([], _) => none
  | (ds, rest) => some (Decimal.value ds, rest)

/-- A sign lifts the limit of four digits. -/
def readYear? (cs : List Char) : Option (Int × List Char) :=
  match Text.trimStart cs with
  | '-' :: rest => (readDigits? rest).map fun (n, rest) => (-(n : Int), rest)
  | '+' :: rest => (readDigits? rest).map fun (n, rest) => ((n : Int), rest)
  | rest => (readNumber? 4 rest).map fun (n, rest) => ((n : Int), rest)

def readMark? (mark : Char) (cs : List Char) : Option (List Char) :=
  match Text.trimStart cs with
  | c :: rest => if c = mark then some rest else none
  | [] => none

/-- Nanoseconds of a fraction: digits beyond the ninth count for nothing. -/
def readFraction? : List Char → Option (Nat × List Char)
  | '.' :: cs =>
    match Decimal.span cs with
    | ([], _) => none
    | (ds, rest) => some (Decimal.value ((ds ++ List.replicate 9 0).take 9), rest)
  | cs => some (0, cs)

def isOffsetGap (c : Char) : Bool := c == ':' || Text.isBlank c

def readPair? : List Char → Option (Nat × List Char)
  | a :: b :: rest => do
    let a ← Decimal.digit? a
    let b ← Decimal.digit? b
    some (10 * a + b, rest)
  | _ => none

def readSign? : List Char → Option (Int × List Char)
  | '+' :: rest => some (1, rest)
  | '-' :: rest => some (-1, rest)
  | c :: rest => if c.toNat = 0x2212 then some (-1, rest) else none
  | [] => none

/-- Seconds east of Greenwich, less than a day. -/
def readOffset? (cs : List Char) : Option (Int × List Char) :=
  match cs with
  | 'Z' :: rest => some (0, rest)
  | 'z' :: rest => some (0, rest)
  | u :: t :: c :: rest =>
    if [u.toUpper, t.toUpper, c.toUpper] = ['U', 'T', 'C'] then some (0, rest) else signed cs
  | _ => signed cs
where
  signed (cs : List Char) : Option (Int × List Char) := do
    let (sign, cs) ← readSign? cs
    let (hours, cs) ← readPair? cs
    let (minutes, cs) ← readPair? (cs.dropWhile isOffsetGap)
    if hours < 24 ∧ minutes < 60 then some (sign * (3600 * hours + 60 * minutes), cs) else none

def ofChars? (cs : List Char) : Option Instant := do
  let (year, cs) ← readYear? cs
  let (month, cs) ← readNumber? 2 (← readMark? '-' cs)
  let (day, cs) ← readNumber? 2 (← readMark? '-' cs)
  let cs ← match cs with
    | c :: rest => if c = 't' ∨ c = 'T' ∨ c = ' ' then some rest else none
    | [] => none
  let (hour, cs) ← readNumber? 2 cs
  let (minute, cs) ← readNumber? 2 (← readMark? ':' cs)
  let (second, cs) ← readNumber? 2 (← readMark? ':' cs)
  let (nanos, cs) ← readFraction? cs
  let (offset, cs) ← readOffset? (Text.trimStart cs)
  let date : Date := ⟨year, month, day⟩
  let leap := second / 60
  let first := date.seconds + (3600 * hour + 60 * minute + (second - leap) : Nat)
  if cs.all Text.isBlank ∧ date.inCalendar ∧ hour < 24 ∧ minute < 60 ∧ second ≤ 60 ∧
      earliest ≤ first ∧ first ≤ latest then
    ofEpoch? (first - offset) (nanos + 1000000000 * leap)
  else none

def ofText? (s : String) : Option Instant := ofChars? s.toList

end Testbook.Instant
