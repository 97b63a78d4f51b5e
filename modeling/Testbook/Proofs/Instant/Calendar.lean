import Mathlib.Algebra.GroupWithZero.Nat
import Testbook.Instant.Calendar

/-! Every day has one date in the calendar, and the date leads back to the day. -/

set_option autoImplicit false

namespace Testbook.Instant

theorem isLeap_iff (year : Int) :
    isLeap year = true ↔ year % 4 = 0 ∧ (year % 100 ≠ 0 ∨ year % 400 = 0) := by
  simp [isLeap]

theorem daysBeforeYear_succ (year : Int) :
    daysBeforeYear (year + 1) = daysBeforeYear year + if isLeap year then 366 else 365 := by
  by_cases leap : isLeap year
  · rw [if_pos leap]
    rw [isLeap_iff] at leap
    simp only [daysBeforeYear]
    omega
  · rw [if_neg leap]
    rw [isLeap_iff] at leap
    simp only [daysBeforeYear]
    omega

theorem sum_monthLengths (leap : Bool) :
    (monthLengths leap).sum = if leap then 366 else 365 := by
  cases leap <;> rfl

/-- 400 years have 146097 days, and no stretch of years strays from that mean by two days. -/
theorem daysBeforeYear_near (year : Int) :
    146097 * (year - 1) - 800 < 400 * daysBeforeYear year ∧
      400 * daysBeforeYear year < 146097 * (year - 1) + 400 := by
  simp only [daysBeforeYear]
  omega

-- The mean length of a year leads to the right year or to one beside it, which is then put right.
theorem yearOf_spec (days : Int) :
    daysBeforeYear (yearOf days) ≤ days ∧ days < daysBeforeYear (yearOf days + 1) := by
  have before := daysBeforeYear_near (400 * days / 146097 + 1 - 1)
  have after := daysBeforeYear_near (400 * days / 146097 + 1 + 1 + 1)
  simp only [yearOf]
  split
  · next early =>
    rw [Int.sub_add_cancel]
    omega
  · split
    · omega
    · omega

/-- Days are split into whole months, all of them within the year, and the rest. -/
theorem splitMonths_spec {lengths : List Nat} {days : Nat} (within : days < lengths.sum) :
    (splitMonths lengths days).1 < lengths.length ∧
      (splitMonths lengths days).2 < lengths.getD (splitMonths lengths days).1 0 ∧
      (lengths.take (splitMonths lengths days).1).sum + (splitMonths lengths days).2 = days := by
  induction lengths generalizing days with
  | nil => simp at within
  | cons length lengths ih =>
    rw [splitMonths]
    split
    · next first => simpa using first
    · next later =>
      obtain ⟨month, day, total⟩ := @ih (days - length) (by simp at within; omega)
      refine ⟨by simpa using month, by simpa using day, ?_⟩
      simp only [List.take_succ_cons, List.sum_cons]
      omega

/-- The months and days of a date, counted from nought, and the day of the year that they make. -/
theorem ofDayNumber_spec (days : Int) :
    ∃ month day : Nat, Date.ofDayNumber days = ⟨yearOf days, month + 1, day + 1⟩ ∧ month < 12 ∧
      day < (monthLengths (isLeap (yearOf days))).getD month 0 ∧
      daysBeforeYear (yearOf days) +
        (((monthLengths (isLeap (yearOf days))).take month).sum + day : Nat) = days := by
  have year := yearOf_spec days
  rw [daysBeforeYear_succ] at year
  let lengths := monthLengths (isLeap (yearOf days))
  let rest := (days - daysBeforeYear (yearOf days)).toNat
  have within : rest < lengths.sum := by
    rw [sum_monthLengths]
    split at year <;> simp_all <;> omega
  obtain ⟨month, day, total⟩ := splitMonths_spec within
  refine ⟨(splitMonths lengths rest).1, (splitMonths lengths rest).2, ?_, month, day, ?_⟩
  · simp only [Date.ofDayNumber, lengths, rest]
  · rw [total]
    omega

theorem dayNumber_ofDayNumber (days : Int) : (Date.ofDayNumber days).dayNumber = days := by
  obtain ⟨month, day, date, _, _, total⟩ := ofDayNumber_spec days
  rw [date, Date.dayNumber]
  simpa [List.sum] using total

theorem inCalendar_ofDayNumber (days : Int) : (Date.ofDayNumber days).inCalendar = true := by
  obtain ⟨month, day, date, bound, length, _⟩ := ofDayNumber_spec days
  rw [date]
  simp only [Date.inCalendar, Nat.add_sub_cancel, Bool.and_eq_true, decide_eq_true_eq]
  omega

theorem ofDayNumber_small (days : Int) :
    (Date.ofDayNumber days).month < 100 ∧ (Date.ofDayNumber days).day < 100 := by
  obtain ⟨month, day, date, bound, length, _⟩ := ofDayNumber_spec days
  have longest : ∀ leap, ∀ month < 12, (monthLengths leap).getD month 0 ≤ 31 := by decide
  have day31 := longest (isLeap (yearOf days)) month bound
  rw [date]
  simp only
  omega

end Testbook.Instant
