import Testbook.Decimal
import Testbook.Json.Basic
import Testbook.Text.Blank
import Testbook.Text.Lowercase

/-! Arguments as the action log may keep them: no secrets, no folders, no contents of files, and
nothing long. -/

set_option autoImplicit false

namespace Testbook.Action

def isSensitive (key : String) : Bool :=
  let key := Text.lowerChars key.toList
  Text.contains "password".toList key || Text.contains "token".toList key ||
    Text.contains "secret".toList key || Text.endsWith "api_key".toList key ||
    Text.endsWith "apikey".toList key

def redacted : String := "[REDACTED]"

def itemLimit : Nat := 10

def lengthLimit : Nat := 100

def isSlash (c : Char) : Bool := c == '/' || c == '\\'

def lastPart (cs : List Char) : List Char := (cs.reverse.takeWhile (!isSlash ·)).reverse

def shortened (cs : List Char) : String :=
  if lengthLimit < cs.length then
    String.ofList (cs.take (lengthLimit - 3)) ++ "... (" ++ Decimal.text cs.length ++ " chars)"
  else String.ofList cs

/-- The last part of a text, shortened. Of a data URL only the length is kept. -/
def sanitizedText (s : String) : String :=
  if Text.startsWith "data:".toList s.toList then
    "[data URL, " ++ Decimal.text s.length ++ " chars]"
  else shortened (lastPart s.toList)

mutual

def sanitized : Json → Json
  | .text s => .text (sanitizedText s)
  | .list items =>
    if itemLimit < items.length then .text ("[Array with " ++ Decimal.text items.length ++ " items]")
    else .list (sanitizedItems items)
  | .record members => .record (sanitizedMembers members)
  | .null => .null
  | .bool b => .bool b
  | .int n => .int n
  | .real x => .real x

def sanitizedItems : List Json → List Json
  | [] => []
  | item :: items => sanitized item :: sanitizedItems items

def sanitizedMembers : List (String × Json) → List (String × Json)
  | [] => []
  | (key, value) :: members =>
    (key, if isSensitive key then .text redacted else sanitized value) :: sanitizedMembers members

end

end Testbook.Action
