/-! The Gregorian calendar, extended to all years. Days are numbered from 1 January of year 1. -/

set_option autoImplicit false

namespace Testbook.Instant

structure Date where
  year : Int
  month : Nat
  day : Nat
  deriving DecidableEq, Repr

def isLeap (year : Int) : Bool := year % 4 = 0 && (year % 100 ≠ 0 || year % 400 = 0)

def monthLengths (leap : Bool) : List Nat :=
  [31, if leap then 29 else 28, 31, 30, 31, 30, 31, 31, 30, 31, 30, 31]

def daysBeforeYear (year : Int) : Int :=
  let n := year - 1
  365 * n + n / 4 - n / 100 + n / 400

/-- Months that have passed, and days of the month that have. -/
def splitMonths : List Nat → Nat → Nat × Nat
  | [], days => (0, days)
  | length :: lengths, days =>
    if days < length then (0, days)
    else let (m, d) := splitMonths lengths (days - length); (m + 1, d)

/-- The year that holds a day. The mean length of a year leads at most one year astray. -/
def yearOf (days : Int) : Int :=
  let guess := 400 * days / 146097 + 1
  if days < daysBeforeYear guess then guess - 1
  else if daysBeforeYear (guess + 1) ≤ days then guess + 1
  else guess

def Date.inCalendar (d : Date) : Bool :=
  1 ≤ d.month && d.month ≤ 12 && 1 ≤ d.day &&
    d.day ≤ (monthLengths (isLeap d.year)).getD (d.month - 1) 0

def Date.dayNumber (d : Date) : Int :=
  let before := ((monthLengths (isLeap d.year)).take (d.month - 1)).foldr (· + ·) 0
  daysBeforeYear d.year + (before + (d.day - 1) : Nat)

def Date.ofDayNumber (days : Int) : Date :=
  let year := yearOf days
  let (month, day) := splitMonths (monthLengths (isLeap year)) (days - daysBeforeYear year).toNat
  ⟨year, month + 1, day + 1⟩

end Testbook.Instant
