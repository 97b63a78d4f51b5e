import Mathlib.Data.List.Nodup
import Testbook.Proofs.Decimal
import Testbook.IdSource

/-! A source of ids only moves forward. An id that it has issued is not the next one, as long as its
row has no repetition. -/

set_option autoImplicit false

namespace Testbook.IdSource

variable {ids later last : IdSource} {id : String}

/-- The same row of names, at the same place or further on. -/
structure Before (ids later : IdSource) : Prop where
  name : later.name = ids.name
  issued : ids.issued ≤ later.issued

theorem Before.refl (ids : IdSource) : Before ids ids := ⟨rfl, Nat.le_refl _⟩

theorem Before.trans (first : Before ids later) (second : Before later last) : Before ids last :=
  ⟨second.name.trans first.name, Nat.le_trans first.issued second.issued⟩

theorem before_next (ids : IdSource) : Before ids ids.next.2 := ⟨rfl, Nat.le_succ _⟩

-- Names are not taken back, not even those of projects that are gone.
def Issued (ids : IdSource) (id : String) : Prop := ∃ n < ids.issued, ids.name n = id

theorem Issued.mono (issued : Issued ids id) (before : Before ids later) : Issued later id := by
  obtain ⟨n, early, rfl⟩ := issued
  exact ⟨n, Nat.lt_of_lt_of_le early before.issued, by rw [before.name]⟩

theorem next_issued (ids : IdSource) : Issued ids.next.2 ids.next.1 :=
  ⟨ids.issued, Nat.lt_succ_self _, rfl⟩

theorem next_not_issued (injective : Function.Injective ids.name) : ¬Issued ids ids.next.1 := by
  rintro ⟨n, early, same⟩
  have : n = ids.issued := injective same
  omega

/-! ### Many ids -/

def skip (ids : IdSource) (n : Nat) : IdSource := { ids with issued := ids.issued + n }

def upcoming (ids : IdSource) (n : Nat) : List String := (List.range' ids.issued n).map ids.name

theorem next_skip (ids : IdSource) (n : Nat) :
    (ids.skip n).next = (ids.name (ids.issued + n), ids.skip (n + 1)) := rfl

theorem upcoming_succ (ids : IdSource) (n : Nat) :
    ids.upcoming (n + 1) = ids.upcoming n ++ [ids.name (ids.issued + n)] := by
  simp [upcoming, List.range'_1_concat]

theorem upcoming_cons (ids : IdSource) (n : Nat) :
    ids.upcoming (n + 1) = ids.name ids.issued :: (ids.skip 1).upcoming n := rfl

theorem skip_skip_one (ids : IdSource) (n : Nat) : (ids.skip 1).skip n = ids.skip (n + 1) := by
  simp [skip, Nat.add_assoc, Nat.add_comm 1 n]

theorem length_upcoming (ids : IdSource) (n : Nat) : (ids.upcoming n).length = n := by
  simp [upcoming]

theorem nodup_upcoming (injective : Function.Injective ids.name) (n : Nat) :
    (ids.upcoming n).Nodup :=
  List.Nodup.map injective List.nodup_range'

/-- The ids that are taken next have not been issued before, and have been afterwards. -/
theorem upcoming_fresh (injective : Function.Injective ids.name) {n : Nat}
    (member : id ∈ ids.upcoming n) : ¬ids.Issued id ∧ (ids.skip n).Issued id := by
  obtain ⟨k, place, rfl⟩ := List.mem_map.mp member
  rw [List.mem_range'_1] at place
  refine ⟨?_, k, place.2, rfl⟩
  rintro ⟨m, early, same⟩
  have : m = k := injective same
  omega

theorem sequential_injective (lead : String) : Function.Injective (sequential lead).name := by
  intro n m same
  have numbers : Decimal.text (n + 1) = Decimal.text (m + 1) := by
    have chars := congrArg String.toList same
    simp only [sequential, String.toList_append] at chars
    exact String.toList_injective (List.append_cancel_left chars)
  have := Decimal.text_injective numbers
  omega

end Testbook.IdSource
