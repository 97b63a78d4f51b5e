import Testbook.Instant.Reader
import Testbook.Instant.Written
import Testbook.Proofs.Decimal
import Testbook.Proofs.Instant.Calendar

/-! The stamp of an instant names that instant: in any year, with any fraction of a second, and within
a leap second. -/

set_option autoImplicit false

namespace Testbook

theorem Text.trimStart_cons {c : Char} (solid : isBlank c = false) (cs : List Char) :
    trimStart (c :: cs) = c :: cs := by
  simp [trimStart, solid]

namespace Instant

open Decimal (Spells NoDigit)

theorem digitChar_solid {d : Nat} (small : d < 10) :
    Text.isBlank (Nat.digitChar d) = false ∧ Nat.digitChar d ≠ '-' ∧ Nat.digitChar d ≠ '+' := by
  have all : ∀ d < 10, Text.isBlank (Nat.digitChar d) = false ∧ Nat.digitChar d ≠ '-' ∧
      Nat.digitChar d ≠ '+' := by decide
  exact all d small

theorem readNumber?_fixed (width n : Nat) (some_width : 0 < width) (bound : n < 10 ^ width)
    (rest : List Char) : readNumber? width (Decimal.fixed width n ++ rest) = some (n, rest) := by
  obtain ⟨ds, spells, length, same⟩ := Decimal.fixed_spelled width n
  have taken := Decimal.take_spelled spells width rest (by omega) (.inl length)
  rw [Nat.mod_eq_of_lt bound] at same
  cases ds with
  | nil => simp at length; omega
  | cons d ds =>
    have solid := (digitChar_solid (spells.small d List.mem_cons_self)).1
    rw [spells.chars] at taken ⊢
    simp only [List.map_cons, List.cons_append] at taken ⊢
    simp only [readNumber?, Text.trimStart_cons solid, taken, same]

theorem readMark?_cons (mark : Char) (solid : Text.isBlank mark = false) (rest : List Char) :
    readMark? mark (mark :: rest) = some rest := by
  simp [readMark?, Text.trimStart_cons solid]

theorem padded_spelled (width n : Nat) (some_width : 0 < width) :
    ∃ ds, Spells (Decimal.padded width n) ds ∧ Decimal.value ds = n ∧ ds ≠ [] := by
  by_cases short : n < 10 ^ width
  · obtain ⟨ds, spells, length, same⟩ := Decimal.fixed_spelled width n
    rw [Nat.mod_eq_of_lt short] at same
    refine ⟨ds, ?_, same, ?_⟩
    · simpa [Decimal.padded, short] using spells
    · rintro rfl
      simp at length
      omega
  · simpa [Decimal.padded, short] using Decimal.digits_spelled n

theorem readDigits?_padded (width n : Nat) (some_width : 0 < width) {rest : List Char}
    (stops : NoDigit rest) : readDigits? (Decimal.padded width n ++ rest) = some (n, rest) := by
  obtain ⟨ds, spells, same, begun⟩ := padded_spelled width n some_width
  rw [readDigits?, Decimal.span_spelled spells stops]
  cases ds with
  | nil => exact absurd rfl begun
  | cons d ds => simp [same]

theorem readYear?_yearText (year : Int) {rest : List Char} (stops : NoDigit rest) :
    readYear? (yearText year ++ rest) = some (year, rest) := by
  rw [yearText]
  split
  · next plain =>
    have number := readNumber?_fixed 4 year.toNat (by decide) (by omega) rest
    obtain ⟨ds, spells, length, _⟩ := Decimal.fixed_spelled 4 year.toNat
    cases ds with
    | nil => simp at length
    | cons d ds =>
      obtain ⟨solid, noMinus, noPlus⟩ := digitChar_solid (spells.small d List.mem_cons_self)
      rw [spells.chars] at number ⊢
      simp only [List.map_cons, List.cons_append] at number ⊢
      simp [readYear?, Text.trimStart_cons solid, noMinus, noPlus, number]
      omega
  · have digits := readDigits?_padded 4 year.natAbs (by decide) stops
    split
    · next negative =>
      have solid : Text.isBlank '-' = false := by decide
      have same : -(year.natAbs : Int) = year := by omega
      simp only [List.cons_append, readYear?, Text.trimStart_cons solid, digits, Option.map_some, same]
    · next positive =>
      have solid : Text.isBlank '+' = false := by decide
      have same : (year.natAbs : Int) = year := by omega
      simp only [List.cons_append, readYear?, Text.trimStart_cons solid, digits, Option.map_some, same]

theorem readFraction?_fixed (places scale n : Nat) (some_places : 0 < places)
    (nine : places + scale = 9) (bound : n < 10 ^ places) {rest : List Char}
    (stops : NoDigit rest) :
    readFraction? ('.' :: (Decimal.fixed places n ++ rest)) = some (n * 10 ^ scale, rest) := by
  obtain ⟨ds, spells, length, same⟩ := Decimal.fixed_spelled places n
  rw [Nat.mod_eq_of_lt bound] at same
  have filled : (ds ++ List.replicate 9 0).take 9 = ds ++ List.replicate scale 0 := by
    rw [List.take_append, List.take_of_length_le (by omega), List.take_replicate]
    congr 2
    omega
  rw [readFraction?, Decimal.span_spelled spells stops]
  cases ds with
  | nil => simp at length; omega
  | cons d ds => simp only [filled, Decimal.value_append_zeros, same]

theorem readFraction?_fractionText (nanos : Nat) (bound : nanos < 1000000000) (rest : List Char) :
    readFraction? (fractionText nanos ++ 'Z' :: rest) = some (nanos, 'Z' :: rest) := by
  have stops : NoDigit ('Z' :: rest) := Decimal.noDigit_cons rest (by decide)
  rw [fractionText]
  split
  · next none => simp [readFraction?, none]
  · split
    · next millis =>
      rw [List.cons_append, readFraction?_fixed 3 6 _ (by decide) rfl (by omega) stops]
      congr 2
      omega
    · split
      · next micros =>
        rw [List.cons_append, readFraction?_fixed 6 3 _ (by decide) rfl (by omega) stops]
        congr 2
        omega
      · rw [List.cons_append, readFraction?_fixed 9 0 _ (by decide) rfl (by omega) stops]
        congr 2
        omega

theorem seconds_eq (t : Instant) : t.date.seconds + t.ofDay = t.seconds := by
  simp only [date, Date.seconds, dayNumber_ofDayNumber, ofDay, epochDay]
  omega

/-- The second that is written is the sixtieth within a leap second, and only there. -/
theorem leap_second (t : Instant) :
    (t.ofDay % 60 + t.nanos / 1000000000) / 60 = t.nanos / 1000000000 ∧
      t.ofDay % 60 + t.nanos / 1000000000 ≤ 60 := by
  obtain ⟨_, _, bound, leap⟩ := t.valid
  have same : ((t.ofDay % 60 : Nat) : Int) = t.seconds % 60 := by simp only [ofDay]; omega
  omega

theorem ofChars?_stampChars (t : Instant) : ofChars? (stampChars t ++ ['Z']) = some t := by
  have calendar : t.date.inCalendar = true := inCalendar_ofDayNumber _
  obtain ⟨month, day⟩ : t.date.month < 100 ∧ t.date.day < 100 := ofDayNumber_small _
  obtain ⟨leap, second⟩ := leap_second t
  have bounds := t.valid
  have clock : t.ofDay < 86400 := by simp only [ofDay]; omega
  have dash : ∀ rest, NoDigit ('-' :: rest) := fun rest => Decimal.noDigit_cons rest (by decide)
  have text : stampChars t ++ ['Z'] = yearText t.date.year ++ '-' :: (Decimal.fixed 2 t.date.month ++
      '-' :: (Decimal.fixed 2 t.date.day ++ 'T' :: (Decimal.fixed 2 (t.ofDay / 3600) ++
      ':' :: (Decimal.fixed 2 (t.ofDay / 60 % 60) ++ ':' ::
      (Decimal.fixed 2 (t.ofDay % 60 + t.nanos / 1000000000) ++
      (fractionText (t.nanos % 1000000000) ++ 'Z' :: [])))))) := by
    simp only [stampChars, dateText, clockText, List.append_assoc, List.cons_append]
  have total : t.date.seconds + ((3600 * (t.ofDay / 3600) + 60 * (t.ofDay / 60 % 60) +
      (t.ofDay % 60 + t.nanos / 1000000000 - t.nanos / 1000000000) : Nat) : Int) = t.seconds := by
    have seconds := seconds_eq t
    omega
  have nanos : t.nanos % 1000000000 + 1000000000 * (t.nanos / 1000000000) = t.nanos := by omega
  rw [text, ofChars?]
  -- Each reader takes the part that was written for it, and leaves the rest to the next one.
  refine Option.bind_eq_some_iff.mpr ⟨_, readYear?_yearText _ (dash _), ?_⟩
  refine Option.bind_eq_some_iff.mpr ⟨_, readMark?_cons '-' (by decide) _, ?_⟩
  refine Option.bind_eq_some_iff.mpr ⟨_, readNumber?_fixed 2 _ (by decide) month _, ?_⟩
  refine Option.bind_eq_some_iff.mpr ⟨_, readMark?_cons '-' (by decide) _, ?_⟩
  refine Option.bind_eq_some_iff.mpr ⟨_, readNumber?_fixed 2 _ (by decide) day _, ?_⟩
  refine Option.bind_eq_some_iff.mpr ⟨_, readNumber?_fixed 2 _ (by decide) (by omega) _, ?_⟩
  refine Option.bind_eq_some_iff.mpr ⟨_, readMark?_cons ':' (by decide) _, ?_⟩
  refine Option.bind_eq_some_iff.mpr ⟨_, readNumber?_fixed 2 _ (by decide) (by omega) _, ?_⟩
  refine Option.bind_eq_some_iff.mpr ⟨_, readMark?_cons ':' (by decide) _, ?_⟩
  refine Option.bind_eq_some_iff.mpr ⟨_, readNumber?_fixed 2 _ (by decide) (by omega) _, ?_⟩
  refine Option.bind_eq_some_iff.mpr ⟨_, readFraction?_fractionText _ (Nat.mod_lt _ (by decide)) [], ?_⟩
  refine Option.bind_eq_some_iff.mpr ⟨(0, []), by decide, ?_⟩
  simp only [leap, total, nanos, Int.sub_zero]
  have accepted : ([] : List Char).all Text.isBlank = true ∧ t.date.inCalendar = true ∧
      t.ofDay / 3600 < 24 ∧ t.ofDay / 60 % 60 < 60 ∧
      t.ofDay % 60 + t.nanos / 1000000000 ≤ 60 ∧ earliest ≤ t.seconds ∧ t.seconds ≤ latest :=
    ⟨rfl, calendar, by omega, by omega, second, bounds.1, bounds.2.1⟩
  rw [if_pos accepted, ofEpoch?, dif_pos bounds]

theorem ofText?_stamp (t : Instant) : ofText? t.stamp = some t := by
  rw [ofText?, stamp, String.toList_ofList]
  exact ofChars?_stampChars t

end Instant

end Testbook
