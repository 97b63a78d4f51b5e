import Mathlib.Data.List.Sort

/-! Sorted lists. Where keys are distinct, one list only is in order and has these entries, whatever the order
they came in. Where entries may be level, sorting leaves them as they came, and one list only is in order and
has the entries of each rank as they came; so it is all the same to leave some out before or after. -/

set_option autoImplicit false

namespace Testbook

variable {α κ : Type} {comesFirst : α → α → Bool} {Before : α → α → Prop} {key : α → κ} {xs ys : List α}

/-- A comparison that puts one of two entries before the other if they have different keys. -/
structure Sorts (comesFirst : α → α → Bool) (Before : α → α → Prop) (key : α → κ) : Prop where
  trans : ∀ a b c, comesFirst a b → comesFirst b c → comesFirst a c
  total : ∀ a b, comesFirst a b || comesFirst b a
  strict : ∀ a b, comesFirst a b → key a ≠ key b → Before a b
  asymm : ∀ a b, Before a b → ¬Before b a

namespace Sorts

theorem pairwise (sorts : Sorts comesFirst Before key) (distinct : (xs.map key).Nodup) :
    (xs.mergeSort comesFirst).Pairwise Before := by
  have ordered : (xs.mergeSort comesFirst).Pairwise fun a b => comesFirst a b :=
    List.pairwise_mergeSort sorts.trans sorts.total xs
  have apart : (xs.mergeSort comesFirst).Pairwise fun a b => key a ≠ key b :=
    List.pairwise_map.mp (((List.mergeSort_perm xs comesFirst).map key).nodup_iff.mpr distinct)
  exact (ordered.and apart).imp fun {a b} both => sorts.strict a b both.1 both.2

theorem eq_of_perm (sorts : Sorts comesFirst Before key) (distinct : (xs.map key).Nodup)
    (perm : xs.Perm ys) : xs.mergeSort comesFirst = ys.mergeSort comesFirst := by
  have same : (xs.mergeSort comesFirst).Perm (ys.mergeSort comesFirst) :=
    ((List.mergeSort_perm xs _).trans perm).trans (List.mergeSort_perm ys _).symm
  refine same.eq_of_pairwise ?_ (sorts.pairwise distinct)
    (sorts.pairwise ((perm.map key).nodup_iff.mp distinct))
  exact fun a b _ _ first second => absurd second (sorts.asymm a b first)

end Sorts

/-- A comparison that goes by a rank: entries of one rank are level, and come in either order. -/
structure Ranks (comesFirst : α → α → Bool) (rank : α → κ) : Prop where
  trans : ∀ a b c, comesFirst a b → comesFirst b c → comesFirst a c
  total : ∀ a b, comesFirst a b || comesFirst b a
  level : ∀ a b, comesFirst a b → comesFirst b a → rank a = rank b
  same : ∀ a b, rank a = rank b → comesFirst a b

namespace Ranks

variable {rank : α → κ}

theorem pairwise (ranks : Ranks comesFirst rank) (xs : List α) :
    (xs.mergeSort comesFirst).Pairwise fun a b => comesFirst a b :=
  List.pairwise_mergeSort ranks.trans ranks.total xs

theorem head_first (ranks : Ranks comesFirst rank) {first x : α}
    (ordered : (first :: xs).Pairwise fun a b => comesFirst a b) (member : x ∈ first :: xs) :
    comesFirst first x := by
  rcases List.mem_cons.mp member with rfl | later
  · exact ranks.same x x rfl
  · exact List.rel_of_pairwise_cons ordered later

variable [DecidableEq κ]

-- Entries of one rank are in order as they came, so they are found in the sorted list as they came; and
-- there are no more of them.
/-- Sorting leaves the entries of one rank as they came. -/
theorem filter_rank_mergeSort (ranks : Ranks comesFirst rank) (xs : List α) (k : κ) :
    (xs.mergeSort comesFirst).filter (rank · = k) = xs.filter (rank · = k) := by
  have of_rank : ∀ x ∈ xs.filter (rank · = k), rank x = k := by simp
  have ordered : (xs.filter (rank · = k)).Pairwise fun a b => comesFirst a b :=
    List.pairwise_of_forall_mem_list fun a first b second =>
      ranks.same a b ((of_rank a first).trans (of_rank b second).symm)
  have stands := List.sublist_mergeSort ranks.trans ranks.total ordered List.filter_sublist
  have among := stands.filter (rank · = k)
  simp only [List.filter_filter, Bool.and_self] at among
  exact (among.eq_of_length ((List.mergeSort_perm xs _).filter _).length_eq.symm).symm

theorem mem_iff_of_filter_rank {rank : α → κ}
    (same : ∀ k, xs.filter (rank · = k) = ys.filter (rank · = k)) (x : α) : x ∈ xs ↔ x ∈ ys := by
  have row : x ∈ xs.filter (rank · = rank x) ↔ x ∈ ys.filter (rank · = rank x) := by rw [same]
  simpa using row

-- By induction on both lists: each of the two heads comes first in its own list and stands in the other, so
-- they are level; and then they are the heads of the same row of entries of their rank.
/-- One list only is in order and has these entries of each rank, as they come. -/
theorem eq_of_filter_rank (ranks : Ranks comesFirst rank)
    (ordered : xs.Pairwise fun a b => comesFirst a b)
    (ordered' : ys.Pairwise fun a b => comesFirst a b)
    (same : ∀ k, xs.filter (rank · = k) = ys.filter (rank · = k)) : xs = ys := by
  induction xs generalizing ys with
  | nil =>
    cases ys with
    | nil => rfl
    | cons y ys => simpa using mem_iff_of_filter_rank same y
  | cons x xs ih =>
    have mem_iff := mem_iff_of_filter_rank same
    cases ys with
    | nil => simpa using mem_iff x
    | cons y ys =>
      have level : rank x = rank y :=
        ranks.level x y (ranks.head_first ordered ((mem_iff y).mpr List.mem_cons_self))
          (ranks.head_first ordered' ((mem_iff x).mp List.mem_cons_self))
      obtain ⟨rfl, _⟩ : x = y ∧ _ := by simpa [level] using same (rank x)
      have rest (k : κ) : xs.filter (rank · = k) = ys.filter (rank · = k) := by
        by_cases of_rank : rank x = k
        · simpa [of_rank] using same k
        · simpa [of_rank] using same k
      rw [ih ordered.of_cons ordered'.of_cons rest]

/-- It is all the same whether some entries are left out before sorting or after. -/
theorem filter_mergeSort (ranks : Ranks comesFirst rank) (xs : List α) (p : α → Bool) :
    (xs.mergeSort comesFirst).filter p = (xs.filter p).mergeSort comesFirst := by
  refine ranks.eq_of_filter_rank ((ranks.pairwise xs).filter p) (ranks.pairwise (xs.filter p)) ?_
  intro k
  rw [ranks.filter_rank_mergeSort, List.filter_comm, ranks.filter_rank_mergeSort, List.filter_comm]

end Ranks

end Testbook
