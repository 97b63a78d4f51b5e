/-! The first entry of a list that satisfies a condition: changing it, and putting another in its
place. -/

set_option autoImplicit false

namespace Testbook

variable {α : Type}

/-- Change the first entry that satisfies the condition, if there is one. -/
def modifyFirst (p : α → Bool) (f : α → α) : List α → List α
  | [] => []
  | x :: xs => if p x then f x :: xs else x :: modifyFirst p f xs

/-- The same, and nothing if no entry satisfies it. -/
def modifyFirst? (p : α → Bool) (f : α → α) : List α → Option (List α)
  | [] => none
  | x :: xs => if p x then some (f x :: xs) else (modifyFirst? p f xs).map (x :: ·)

/-- Put an entry in the place of the first one that satisfies the condition, else at the end. -/
def replaceOrAppend (p : α → Bool) (new : α) : List α → List α
  | [] => [new]
  | x :: xs => if p x then new :: xs else x :: replaceOrAppend p new xs

end Testbook
