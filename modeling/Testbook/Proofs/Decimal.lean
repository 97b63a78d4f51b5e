import Mathlib.Algebra.GroupWithZero.Nat
import Testbook.Decimal

/-! Digits that are written are read back: all of them, whatever follows that is no digit, with the
value that was written. -/

set_option autoImplicit false

namespace Testbook.Decimal

structure Spells (cs : List Char) (ds : List Nat) : Prop where
  chars : cs = ds.map Nat.digitChar
  small : ∀ d ∈ ds, d < 10

/-- What follows a number: nothing that could belong to it. -/
def NoDigit (rest : List Char) : Prop := ∀ c ∈ rest.head?, digit? c = none

theorem noDigit_nil : NoDigit [] := by
  intro c head
  cases head

theorem noDigit_cons {c : Char} (rest : List Char) (none : digit? c = none) :
    NoDigit (c :: rest) := by
  intro c' head
  cases head
  exact none

theorem digit?_digitChar {d : Nat} (small : d < 10) : digit? (Nat.digitChar d) = some d := by
  have all : ∀ d < 10, digit? (Nat.digitChar d) = some d := by decide
  exact all d small

@[simp] theorem value_append_digit (ds : List Nat) (d : Nat) :
    value (ds ++ [d]) = 10 * value ds + d := by
  simp [value]

theorem value_append_zeros (ds : List Nat) (n : Nat) :
    value (ds ++ List.replicate n 0) = value ds * 10 ^ n := by
  induction n with
  | zero => simp
  | succ n ih =>
    rw [List.replicate_succ', ← List.append_assoc, value_append_digit, ih, Nat.pow_succ]
    grind

theorem Spells.append_digit {cs : List Char} {ds : List Nat} (spells : Spells cs ds) {d : Nat}
    (small : d < 10) : Spells (cs ++ [Nat.digitChar d]) (ds ++ [d]) where
  chars := by simp [spells.chars]
  small := by
    intro e member
    rcases List.mem_append.mp member with member | member
    · exact spells.small e member
    · rw [List.mem_singleton.mp member]
      exact small

theorem digits_spelled (n : Nat) : ∃ ds, Spells (digits n) ds ∧ value ds = n ∧ ds ≠ [] := by
  induction n using Nat.strongRecOn with
  | _ n ih =>
    by_cases small : n < 10
    · refine ⟨[n], ⟨?_, by simpa using small⟩, by simp [value], by simp⟩
      exact Nat.toDigits_of_lt_base small
    · obtain ⟨ds, spells, same, _⟩ := ih (n / 10) (by omega)
      refine ⟨ds ++ [n % 10], ?_, ?_, by simp⟩
      · have split : digits n = digits (n / 10) ++ [Nat.digitChar (n % 10)] :=
          Nat.toDigits_of_base_le (by decide) (by omega)
        rw [split]
        exact spells.append_digit (Nat.mod_lt _ (by decide))
      · rw [value_append_digit, same]
        omega

theorem digits_head_ne_zero {n : Nat} (positive : 0 < n) : (digits n).head? ≠ some '0' := by
  induction n using Nat.strongRecOn with
  | _ n ih =>
    by_cases small : n < 10
    · have each : ∀ n < 10, 0 < n → (digits n).head? ≠ some '0' := by decide
      exact each n small positive
    · have split : digits n = digits (n / 10) ++ [Nat.digitChar (n % 10)] :=
        Nat.toDigits_of_base_le (by decide) (by omega)
      have begun : digits (n / 10) ≠ [] := Nat.toDigits_ne_nil
      rw [split, List.head?_append, Option.or_of_isSome (by simpa using begun)]
      exact ih (n / 10) (by omega) (by omega)

theorem fixed_spelled (width n : Nat) :
    ∃ ds, Spells (fixed width n) ds ∧ ds.length = width ∧ value ds = n % 10 ^ width := by
  induction width generalizing n with
  | zero => exact ⟨[], ⟨rfl, by simp⟩, rfl, by simp [value, Nat.mod_one]⟩
  | succ width ih =>
    obtain ⟨ds, spells, length, same⟩ := ih (n / 10)
    refine ⟨ds ++ [n % 10], spells.append_digit (Nat.mod_lt _ (by decide)), by simp [length], ?_⟩
    rw [value_append_digit, same, Nat.pow_succ, Nat.mul_comm (10 ^ width) 10, Nat.mod_mul]
    omega

/-- Digits are taken as far as the limit allows, and no further than they go. -/
theorem take_spelled {cs : List Char} {ds : List Nat} (spells : Spells cs ds) (limit : Nat)
    (rest : List Char) (enough : ds.length ≤ limit) (stops : ds.length = limit ∨ NoDigit rest) :
    take limit (cs ++ rest) = (ds, rest) := by
  obtain ⟨rfl, small⟩ := spells
  induction ds generalizing limit with
  | nil =>
    cases limit with
    | zero => simp [take]
    | succ limit =>
      have none : NoDigit rest := by simpa using stops
      cases rest with
      | nil => simp [take]
      | cons c rest => simp [take, none c rfl]
  | cons d ds ih =>
    cases limit with
    | zero => simp at enough
    | succ limit =>
      have tail := ih limit (by simpa using enough) (by simpa using stops)
        fun e member => small e (List.mem_cons_of_mem d member)
      simp [take, digit?_digitChar (small d List.mem_cons_self), tail]

theorem span_spelled {cs : List Char} {ds : List Nat} (spells : Spells cs ds) {rest : List Char}
    (stops : NoDigit rest) : span (cs ++ rest) = (ds, rest) := by
  apply take_spelled spells _ rest _ (.inr stops)
  simp [spells.chars]

theorem text_injective : Function.Injective text := by
  intro n m same
  have digits : digits n = digits m := String.ofList_injective same
  obtain ⟨ds, spells, value, _⟩ := digits_spelled n
  obtain ⟨ds', spells', value', _⟩ := digits_spelled m
  have read := span_spelled spells noDigit_nil
  have read' := span_spelled spells' noDigit_nil
  rw [digits, read'] at read
  cases read
  exact value.symm.trans value'

end Testbook.Decimal
