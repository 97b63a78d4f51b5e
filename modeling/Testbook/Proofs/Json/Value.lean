import Testbook.Proofs.Json.Exact

/-! The value that a tree stands for. Records are kept in the order of their keys, each key once; a value
that is in order is read back as it was written. -/

set_option autoImplicit false

namespace Testbook.Json

variable {key : String} {value : Json} {members : List (String × Json)}

def KeysAscend (members : List (String × Json)) : Prop := members.Pairwise fun a b => a.1 < b.1

theorem KeysAscend.map {members : List (String × Json)} (ascend : KeysAscend members)
    (change : String × Json → Json) :
    KeysAscend (members.map fun member => (member.1, change member)) :=
  List.pairwise_map.mpr ascend

theorem putMember_last (above : ∀ member ∈ members, member.1 < key) :
    putMember key value members = members ++ [(key, value)] := by
  induction members with
  | nil => rfl
  | cons first others ih =>
    obtain ⟨k, v⟩ := first
    obtain ⟨below, others_below⟩ := List.forall_mem_cons.mp above
    have apart : key ≠ k := fun same => String.lt_irrefl key (same ▸ below)
    simp [putMember, String.lt_asymm below, apart, ih others_below]

theorem sorted_fold (members : List (String × Json)) :
    sorted members =
      .record (members.foldl (fun sorted member => putMember member.1 member.2 sorted) []) := rfl

theorem sorted_eq (ascend : KeysAscend members) : sorted members = .record members := by
  have each (front rest : List (String × Json)) (ascend : KeysAscend (front ++ rest)) :
      rest.foldl (fun sorted member => putMember member.1 member.2 sorted) front = front ++ rest := by
    induction rest generalizing front with
    | nil => exact (List.append_nil front).symm
    | cons first rest ih =>
      have above : ∀ member ∈ front, member.1 < first.1 := fun member stands =>
        (List.pairwise_append.mp ascend).2.2 member stands _ List.mem_cons_self
      have longer : KeysAscend ((front ++ [first]) ++ rest) := by
        rwa [List.append_assoc]
      rw [List.foldl_cons, putMember_last above, ih _ longer, List.append_assoc, List.singleton_append]
  rw [sorted_fold, each [] members ascend, List.nil_append]

/-! ### Values in order -/

mutual

/-- The members of each record are in order, however deep it stands. -/
def InOrder : Json → Prop
  | .list items => AllInOrder items
  | .record members => KeysAscend members ∧ MembersInOrder members
  | _ => True

def AllInOrder : List Json → Prop
  | [] => True
  | item :: items => InOrder item ∧ AllInOrder items

def MembersInOrder : List (String × Json) → Prop
  | [] => True
  | (_, value) :: members => InOrder value ∧ MembersInOrder members

end

theorem allInOrder_iff {items : List Json} : AllInOrder items ↔ ∀ item ∈ items, item.InOrder := by
  induction items with
  | nil => simp [AllInOrder]
  | cons item items ih => simp [AllInOrder, ih]

theorem membersInOrder_iff : MembersInOrder members ↔ ∀ member ∈ members, member.2.InOrder := by
  induction members with
  | nil => simp [MembersInOrder]
  | cons member members ih => simp [MembersInOrder, ih]

/-! ### Reading back -/

mutual

/-- An exact value in order is the value of its tree. -/
theorem value?_tree : ∀ json : Json, json.isExact → json.InOrder → json.tree.value? = some json
  | .null, _, _ => rfl
  | .bool _, _, _ => rfl
  | .int _, exact, _ => numeral_value?_int exact
  | .real _, exact, _ => by simp [isExact] at exact
  | .text _, _, _ => rfl
  | .list items, exact, inOrder => by
    simp [tree, Tree.value?, values?_trees items (by simpa [isExact] using exact) inOrder]
  | .record members, exact, inOrder => by
    simp [tree, Tree.value?, members?_memberTrees members (by simpa [isExact] using exact) inOrder.2,
      sorted_eq inOrder.1]

theorem values?_trees :
    ∀ items, areExact items → AllInOrder items → Tree.values? (trees items) = some items
  | [], _, _ => rfl
  | item :: items, exact, inOrder => by
    simp only [areExact, Bool.and_eq_true] at exact
    simp [trees, Tree.values?, value?_tree item exact.1 inOrder.1, values?_trees items exact.2 inOrder.2]

theorem members?_memberTrees : ∀ members, membersExact members → MembersInOrder members →
    Tree.members? (memberTrees members) = some members
  | [], _, _ => rfl
  | (key, value) :: members, exact, inOrder => by
    simp only [membersExact, Bool.and_eq_true] at exact
    simp [memberTrees, Tree.members?, value?_tree value exact.1 inOrder.1,
      members?_memberTrees members exact.2 inOrder.2]

end

/-! ### Values of some depth -/

/-- A value that is read back from its tree, nested so deep at most: its numbers are whole and of 64 bits, and
its records are in order. -/
structure Regular (deepest : Nat) (json : Json) : Prop where
  exact : json.isExact
  inOrder : json.InOrder
  depth : json.tree.depth ≤ deepest

/-- A list is one level deeper than its items. -/
theorem regular_list {items : List Json} {deepest : Nat} :
    Regular deepest (.list items) ↔ ∃ inner < deepest, ∀ item ∈ items, Regular inner item := by
  constructor
  · rintro ⟨exact, inOrder, depth⟩
    simp only [tree, Tree.depth] at depth
    refine ⟨deepest - 1, by omega, fun item stands => ⟨?_, ?_, ?_⟩⟩
    · exact areExact_iff.mp (by simpa [isExact] using exact) item stands
    · exact allInOrder_iff.mp inOrder item stands
    · exact depths_le_iff.mp (by omega) item stands
  · rintro ⟨inner, less, each⟩
    have depth := depths_le_iff.mpr fun item stands => (each item stands).depth
    refine ⟨?_, allInOrder_iff.mpr fun item stands => (each item stands).inOrder, ?_⟩
    · simpa [isExact] using areExact_iff.mpr fun item stands => (each item stands).exact
    · simp only [tree, Tree.depth]
      omega

theorem regular_record {deepest : Nat} :
    Regular deepest (.record members) ↔
      KeysAscend members ∧ ∃ inner < deepest, ∀ member ∈ members, Regular inner member.2 := by
  constructor
  · rintro ⟨exact, ⟨ascend, inOrder⟩, depth⟩
    simp only [tree, Tree.depth] at depth
    refine ⟨ascend, deepest - 1, by omega, fun member stands => ⟨?_, ?_, ?_⟩⟩
    · exact membersExact_iff.mp (by simpa [isExact] using exact) member stands
    · exact membersInOrder_iff.mp inOrder member stands
    · exact memberDepths_le_iff.mp (by omega) member stands
  · rintro ⟨ascend, inner, less, each⟩
    have depth := memberDepths_le_iff.mpr fun member stands => (each member stands).depth
    have inOrder := membersInOrder_iff.mpr fun member stands => (each member stands).inOrder
    refine ⟨?_, ⟨ascend, inOrder⟩, ?_⟩
    · simpa [isExact] using membersExact_iff.mpr fun member stands => (each member stands).exact
    · simp only [tree, Tree.depth]
      omega

theorem regular_text (deepest : Nat) (s : String) : Regular deepest (.text s) :=
  ⟨rfl, trivial, Nat.zero_le deepest⟩

end Testbook.Json
