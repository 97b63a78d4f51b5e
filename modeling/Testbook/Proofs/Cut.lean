/-! Cutting a list before certain entries. Nothing is lost by it, and each part begins with one of
them. -/

set_option autoImplicit false

namespace Testbook

variable {α : Type} {begins : α → Bool} {x : α} {xs : List α}

/-- The entries before the first that begins a part, and each entry that begins one with those that
follow it. -/
def cut (begins : α → Bool) : List α → List α × List (α × List α)
  | [] => ([], [])
  | x :: xs =>
    if begins x then ([], (x, (cut begins xs).1) :: (cut begins xs).2)
    else (x :: (cut begins xs).1, (cut begins xs).2)

theorem cut_cons_pos (holds : begins x = true) :
    cut begins (x :: xs) = ([], (x, (cut begins xs).1) :: (cut begins xs).2) := if_pos holds

theorem cut_cons_neg (fails : begins x = false) :
    cut begins (x :: xs) = (x :: (cut begins xs).1, (cut begins xs).2) :=
  if_neg (by simp [fails])

theorem cut_flatten (begins : α → Bool) (xs : List α) :
    (cut begins xs).1 ++ (cut begins xs).2.flatMap (fun part => part.1 :: part.2) = xs := by
  induction xs with
  | nil => rfl
  | cons x xs ih =>
    cases holds : begins x with
    | true => simpa [cut_cons_pos holds] using ih
    | false => simpa [cut_cons_neg holds] using ih

theorem cut_begins (begins : α → Bool) (xs : List α) :
    (∀ x ∈ (cut begins xs).1, begins x = false) ∧
      ∀ part ∈ (cut begins xs).2, begins part.1 = true ∧ ∀ x ∈ part.2, begins x = false := by
  induction xs with
  | nil => simp [cut]
  | cons x xs ih =>
    cases holds : begins x with
    | true => simpa [cut_cons_pos holds, holds] using ih
    | false => simpa [cut_cons_neg holds, holds] using ih

theorem cut_append {front : List α} (plain : ∀ x ∈ front, begins x = false) (xs : List α) :
    cut begins (front ++ xs) = (front ++ (cut begins xs).1, (cut begins xs).2) := by
  induction front with
  | nil => rfl
  | cons x front ih =>
    have others := ih fun y member => plain y (List.mem_cons_of_mem x member)
    rw [List.cons_append, cut_cons_neg (plain x List.mem_cons_self), others, List.cons_append]

/-- Parts that begin where one is to begin, and nowhere else, are found again. -/
theorem cut_flatMap {parts : List (α × List α)}
    (each : ∀ part ∈ parts, begins part.1 = true ∧ ∀ x ∈ part.2, begins x = false) :
    cut begins (parts.flatMap fun part => part.1 :: part.2) = ([], parts) := by
  induction parts with
  | nil => rfl
  | cons part parts ih =>
    obtain ⟨header, plain⟩ := each part List.mem_cons_self
    have others := ih fun other member => each other (List.mem_cons_of_mem part member)
    rw [List.flatMap_cons, List.cons_append, cut_cons_pos header, cut_append plain, others,
      List.append_nil]

end Testbook
