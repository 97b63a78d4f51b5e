import Testbook.Proofs.Json.Layout

/-! What is known of the trees of exact values: their texts and numbers have values, lists and records
are taken item by item, and their depth is that of what they hold. -/

set_option autoImplicit false

namespace Testbook.Json

variable {α : Type} {members : List (String × Json)}

theorem numeral_value?_int {n : Int} (exact : (Json.int n).isExact) :
    (Numeral.ofInt n).value? = some (.int n) := by
  simp only [isExact, Bool.and_eq_true, decide_eq_true_eq] at exact
  obtain ⟨low, high⟩ := exact
  by_cases negative : n < 0
  · have bound : 0 < n.natAbs ∧ 2 * n.natAbs ≤ wordLimit := by omega
    have same : -(n.natAbs : Int) = n := by omega
    simp only [Numeral.value?, Numeral.ofInt, negative, bound, same, decide_true, and_self, if_true]
  · have bound : n.natAbs < wordLimit := by omega
    have same : (n.natAbs : Int) = n := by omega
    simp only [Numeral.value?, Numeral.ofInt, negative, bound, same, decide_false, and_self, if_true,
      Bool.false_eq_true, if_false]

mutual

theorem value?_tree_isSome : ∀ json : Json, json.isExact → json.tree.value?.isSome
  | .null, _ => rfl
  | .bool _, _ => rfl
  | .int n, exact => by simp [tree, Tree.value?, numeral_value?_int exact]
  | .real _, exact => by simp [isExact] at exact
  | .text _, _ => rfl
  | .list items, exact => by
    have values := values?_trees_isSome items (by simpa [isExact] using exact)
    simpa [tree, Tree.value?] using values
  | .record members, exact => by
    have values := members?_memberTrees_isSome members (by simpa [isExact] using exact)
    simpa [tree, Tree.value?] using values

theorem values?_trees_isSome : ∀ items, areExact items → (Tree.values? (trees items)).isSome
  | [], _ => rfl
  | item :: items, exact => by
    simp only [areExact, Bool.and_eq_true] at exact
    obtain ⟨value, first⟩ := Option.isSome_iff_exists.mp (value?_tree_isSome item exact.1)
    obtain ⟨values, others⟩ := Option.isSome_iff_exists.mp (values?_trees_isSome items exact.2)
    simp [trees, Tree.values?, first, others]

theorem members?_memberTrees_isSome :
    ∀ members, membersExact members → (Tree.members? (memberTrees members)).isSome
  | [], _ => rfl
  | (key, item) :: members, exact => by
    simp only [membersExact, Bool.and_eq_true] at exact
    obtain ⟨value, first⟩ := Option.isSome_iff_exists.mp (value?_tree_isSome item exact.1)
    obtain ⟨values, others⟩ :=
      Option.isSome_iff_exists.mp (members?_memberTrees_isSome members exact.2)
    simp [memberTrees, Tree.members?, first, others]

end

/-! ### Lists and records in parts -/

@[simp] theorem areExact_map (f : α → Json) (items : List α) :
    areExact (items.map f) = items.all fun item => (f item).isExact := by
  induction items with
  | nil => rfl
  | cons item items ih => simp [areExact, ih]

theorem trees_map (f : α → Json) (items : List α) :
    trees (items.map f) = items.map fun item => (f item).tree := by
  induction items with
  | nil => rfl
  | cons item items ih => simp [trees, ih]

@[simp] theorem memberTrees_append (first second : List (String × Json)) :
    memberTrees (first ++ second) = memberTrees first ++ memberTrees second := by
  induction first with
  | nil => rfl
  | cons member first ih =>
    obtain ⟨key, value⟩ := member
    simp [memberTrees, ih]

@[simp] theorem memberDepths_append (first second : List (Option String × Tree)) :
    Tree.memberDepths (first ++ second) = max (Tree.memberDepths first) (Tree.memberDepths second) := by
  induction first with
  | nil => simp [Tree.memberDepths]
  | cons member first ih =>
    obtain ⟨key, item⟩ := member
    simp [Tree.memberDepths, ih, Nat.max_assoc]

theorem areExact_iff {items : List Json} : areExact items = true ↔ ∀ item ∈ items, item.isExact := by
  induction items with
  | nil => simp [areExact]
  | cons item items ih => simp [areExact, ih]

theorem membersExact_iff : membersExact members = true ↔ ∀ member ∈ members, member.2.isExact := by
  induction members with
  | nil => simp [membersExact]
  | cons member members ih => simp [membersExact, ih]

theorem depths_le_iff {items : List Json} {deepest : Nat} :
    Tree.depths (trees items) ≤ deepest ↔ ∀ item ∈ items, item.tree.depth ≤ deepest := by
  induction items with
  | nil => simp [trees, Tree.depths]
  | cons item items ih => rw [trees, Tree.depths, Nat.max_le, ih, List.forall_mem_cons]

theorem memberDepths_le_iff {deepest : Nat} :
    Tree.memberDepths (memberTrees members) ≤ deepest ↔
      ∀ member ∈ members, member.2.tree.depth ≤ deepest := by
  induction members with
  | nil => simp [memberTrees, Tree.memberDepths]
  | cons member members ih =>
    rw [memberTrees, Tree.memberDepths, Nat.max_le, ih, List.forall_mem_cons]

theorem depths_map_le (f : α → Json) (items : List α) (deepest : Nat)
    (each : ∀ item ∈ items, (f item).tree.depth ≤ deepest) :
    Tree.depths (trees (items.map f)) ≤ deepest :=
  depths_le_iff.mpr (List.forall_mem_map.mpr each)

end Testbook.Json
