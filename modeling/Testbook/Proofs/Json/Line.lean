import Testbook.Proofs.Json.Layout
import Testbook.Proofs.Text.Line

/-! What is written on one line stands on one line: control characters are escaped. -/

set_option autoImplicit false

namespace Testbook.Json

def Visible (cs : List Char) : Prop := ∀ c ∈ cs, 32 ≤ c.toNat

instance (cs : List Char) : Decidable (Visible cs) := List.decidableBAll _ cs

namespace Visible

variable {first second : List Char}

theorem append (visible : Visible first) (visible' : Visible second) : Visible (first ++ second) := by
  intro c member
  rcases List.mem_append.mp member with member | member
  · exact visible c member
  · exact visible' c member

theorem cons {c : Char} (visible : 32 ≤ c.toNat) (others : Visible first) : Visible (c :: first) := by
  intro c' member
  rcases List.mem_cons.mp member with rfl | member
  · exact visible
  · exact others c' member

theorem nil : Visible [] := by
  intro c member
  cases member

end Visible

theorem digitChar_visible {d : Nat} (small : d < 16) : 32 ≤ (Nat.digitChar d).toNat := by
  have all : ∀ d < 16, 32 ≤ (Nat.digitChar d).toNat := by decide
  exact all d small

theorem fixed_visible (width n : Nat) : Visible (Hexadecimal.fixed width n) := by
  induction width generalizing n with
  | zero => exact .nil
  | succ width ih =>
    exact (ih (n / 16)).append (.cons (digitChar_visible (Nat.mod_lt n (by decide))) .nil)

theorem digits_visible (n : Nat) : Visible (Decimal.digits n) := by
  obtain ⟨ds, spells, _⟩ := Decimal.digits_spelled n
  rw [spells.chars]
  intro c member
  obtain ⟨d, stands, rfl⟩ := List.mem_map.mp member
  have small := spells.small d stands
  exact digitChar_visible (by omega)

theorem intDigits_visible (n : Int) : Visible (Decimal.intDigits n) := by
  cases n with
  | ofNat n => exact digits_visible n
  | negSucc n => exact .cons (by decide) (digits_visible (n + 1))

theorem escapeChar_visible (c : Char) : Visible (escapeChar c) := by
  unfold escapeChar
  split
  case h_6 =>
    split
    · exact .cons (by decide) (.cons (by decide) .nil)
    split
    · exact .cons (by decide) (.cons (by decide) .nil)
    split
    · exact .cons (by decide) (.cons (by decide) (fixed_visible 4 _))
    · exact .cons (by omega) .nil
  all_goals exact .cons (by decide) (.cons (by decide) .nil)

theorem quote_visible (s : String) : Visible (quote s) := by
  refine .cons (by decide) (.append ?_ (.cons (by decide) .nil))
  intro c member
  obtain ⟨c', _, escaped⟩ := List.mem_flatMap.mp member
  exact escapeChar_visible c' c escaped

theorem takeDigits_visible (n k : Nat) : Visible ((Decimal.digits n).take k) :=
  fun c member => digits_visible n c (List.mem_of_mem_take member)

theorem dropDigits_visible (n k : Nat) : Visible ((Decimal.digits n).drop k) :=
  fun c member => digits_visible n c (List.mem_of_mem_drop member)

theorem zeros_visible (n : Nat) : Visible (List.replicate n '0') := by
  intro c member
  rw [List.eq_of_mem_replicate member]
  decide

theorem scaledText_visible (s : Shortest.Scaled) : Visible (scaledText s) := by
  unfold scaledText
  dsimp only
  split
  · exact ((digits_visible _).append (zeros_visible _)).append (by decide)
  split
  · exact (takeDigits_visible _ _).append (.cons (by decide) (dropDigits_visible _ _))
  split
  · exact .cons (by decide) (.cons (by decide) ((zeros_visible _).append (digits_visible _)))
  · refine ((takeDigits_visible _ _).append ?_).append
      (.cons (by decide) (.append ?_ (intDigits_visible _)))
    · split
      · exact .nil
      · exact .cons (by decide) (dropDigits_visible _ _)
    · split <;> decide

theorem realText_visible (x : Float) : Visible (realText x) := by
  unfold realText
  dsimp only
  split
  · decide
  · refine .append ?_ ?_
    · split <;> decide
    · split
      · decide
      · exact scaledText_visible _

mutual

theorem compactChars_visible : ∀ json : Json, Visible (compactChars json)
  | .null => by unfold compactChars; decide
  | .bool true => by unfold compactChars; decide
  | .bool false => by unfold compactChars; decide
  | .int n => intDigits_visible n
  | .real x => realText_visible x
  | .text s => quote_visible s
  | .list [] => by unfold compactChars; decide
  | .list (item :: items) =>
    .cons (by decide) ((compactChars_visible item).append (compactItems_visible items))
  | .record [] => by unfold compactChars; decide
  | .record ((key, value) :: members) =>
    .cons (by decide) ((quote_visible key).append (.cons (by decide)
      ((compactChars_visible value).append (compactMembers_visible members))))

theorem compactItems_visible : ∀ items, Visible (compactItems items)
  | [] => by unfold compactItems; decide
  | item :: items =>
    .cons (by decide) ((compactChars_visible item).append (compactItems_visible items))

theorem compactMembers_visible : ∀ members, Visible (compactMembers members)
  | [] => by unfold compactMembers; decide
  | (key, value) :: members =>
    .cons (by decide) ((quote_visible key).append (.cons (by decide)
      ((compactChars_visible value).append (compactMembers_visible members))))

end

theorem compactChars_isLine (json : Json) : Text.IsLine (compactChars json) := by
  have visible := compactChars_visible json
  constructor
  · intro feed
    exact absurd (visible _ feed) (by decide)
  · intro returned
    exact absurd (visible _ (List.mem_of_getLast? returned)) (by decide)

end Testbook.Json
