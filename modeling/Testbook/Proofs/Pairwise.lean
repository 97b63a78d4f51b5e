import Mathlib.Data.List.Forall2

/-! Lists that correspond entry by entry. -/

set_option autoImplicit false

namespace Testbook

variable {α β : Type}

theorem forall₂_trans {R : α → α → Prop} {first second third : List α}
    (each : ∀ a b c, R a b → R b c → R a c) (left : List.Forall₂ R first second)
    (right : List.Forall₂ R second third) : List.Forall₂ R first third := by
  induction left generalizing third with
  | nil => exact right
  | cons head _ ih =>
    cases right with
    | cons head' tail' => exact .cons (each _ _ _ head head') (ih tail')

theorem map_eq_of_forall₂ {R : α → α → Prop} {first second : List α} {f : α → β}
    (each : ∀ a b, R a b → f b = f a) (related : List.Forall₂ R first second) :
    second.map f = first.map f := by
  induction related with
  | nil => rfl
  | cons head _ ih => simp [each _ _ head, ih]

theorem exists_of_mem_right {R : α → β → Prop} {first : List α} {second : List β}
    (related : List.Forall₂ R first second) {b : β} (member : b ∈ second) : ∃ a ∈ first, R a b := by
  induction related with
  | nil => cases member
  | cons head _ ih =>
    rcases List.mem_cons.mp member with rfl | later
    · exact ⟨_, List.mem_cons_self, head⟩
    · obtain ⟨a, stands, same⟩ := ih later
      exact ⟨a, List.mem_cons_of_mem _ stands, same⟩

/-- Where each entry is read, what was read corresponds to the entries. -/
theorem forall₂_of_mapM {f : α → Option β} {xs : List α} {ys : List β}
    (read : xs.mapM f = some ys) : List.Forall₂ (fun x y => f x = some y) xs ys := by
  induction xs generalizing ys with
  | nil =>
    cases read
    exact .nil
  | cons x xs ih =>
    rw [List.mapM_cons] at read
    obtain ⟨y, first, read⟩ := Option.bind_eq_some_iff.mp read
    obtain ⟨others, later, same⟩ := Option.bind_eq_some_iff.mp read
    cases same
    exact .cons first (ih later)

end Testbook
