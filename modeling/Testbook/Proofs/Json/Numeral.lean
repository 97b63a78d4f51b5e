import Testbook.Json.Reader
import Testbook.Proofs.Decimal

/-! A whole number is read back as it was written, if nothing follows that could belong to it. -/

set_option autoImplicit false

namespace Testbook.Json

structure EndsNumber (rest : List Char) : Prop where
  noDigit : Decimal.NoDigit rest
  noMark : ∀ c ∈ rest.head?, c ≠ '.' ∧ c ≠ 'e' ∧ c ≠ 'E'

theorem endsNumber_nil : EndsNumber [] := ⟨Decimal.noDigit_nil, by simp⟩

theorem endsNumber_cons {c : Char} (rest : List Char) (noDigit : Decimal.digit? c = none)
    (noMark : c ≠ '.' ∧ c ≠ 'e' ∧ c ≠ 'E') : EndsNumber (c :: rest) where
  noDigit := Decimal.noDigit_cons rest noDigit
  noMark := by
    intro c' head
    cases head
    exact noMark

theorem readFraction?_none {rest : List Char} (ends : EndsNumber rest) :
    readFraction? rest = some ([], rest) := by
  cases rest with
  | nil => rfl
  | cons c rest => simp [readFraction?, (ends.noMark c rfl).1]

theorem readExponent?_none {rest : List Char} (ends : EndsNumber rest) :
    readExponent? rest = some (none, rest) := by
  cases rest with
  | nil => rfl
  | cons c rest => simp [readExponent?, (ends.noMark c rfl).2]

theorem readWhole?_digits (n : Nat) {rest : List Char} (ends : EndsNumber rest) :
    readWhole? (Decimal.digits n ++ rest) = some (n, rest) := by
  by_cases zero : n = 0
  · subst zero
    rfl
  · obtain ⟨ds, spells, same, begun⟩ := Decimal.digits_spelled n
    have span := Decimal.span_spelled spells ends.noDigit
    have noZero := Decimal.digits_head_ne_zero (Nat.pos_of_ne_zero zero)
    rw [readWhole?.eq_def]
    split
    · next first =>
      have begun' : Decimal.digits n ≠ [] := Nat.toDigits_ne_nil
      cases digits : Decimal.digits n with
      | nil => exact absurd digits begun'
      | cons c cs => simp_all
    · rw [span]
      cases ds with
      | nil => exact absurd rfl begun
      | cons d ds => simp [same]

theorem digits_head (n : Nat) : ∃ d < 10, ∃ cs, Decimal.digits n = Nat.digitChar d :: cs := by
  obtain ⟨ds, spells, _, begun⟩ := Decimal.digits_spelled n
  cases ds with
  | nil => exact absurd rfl begun
  | cons d ds => exact ⟨d, spells.small d List.mem_cons_self, ds.map Nat.digitChar, spells.chars⟩

theorem readMinus_digits (n : Nat) (rest : List Char) :
    readMinus (Decimal.digits n ++ rest) = (false, Decimal.digits n ++ rest) := by
  obtain ⟨d, small, cs, digits⟩ := digits_head n
  have noSign : ∀ d < 10, Nat.digitChar d ≠ '-' := by decide
  rw [digits]
  simp [readMinus, noSign d small]

def Numeral.ofInt (n : Int) : Numeral := ⟨n < 0, n.natAbs, [], none⟩

theorem readNumeral?_intDigits (n : Int) {rest : List Char} (ends : EndsNumber rest) :
    readNumeral? (Decimal.intDigits n ++ rest) = some (Numeral.ofInt n, rest) := by
  cases n with
  | ofNat n =>
    simp [readNumeral?, Decimal.intDigits, readMinus_digits, readWhole?_digits n ends,
      readFraction?_none ends, readExponent?_none ends, Numeral.ofInt]
  | negSucc n =>
    simp [readNumeral?, Decimal.intDigits, readMinus, readWhole?_digits (n + 1) ends,
      readFraction?_none ends, readExponent?_none ends, Numeral.ofInt]

end Testbook.Json
