import Testbook.Instant.Calendar

/-! Instants of universal time, to the nanosecond, from the year -262143 to the year 262142. A leap
second is the nanoseconds from one thousand million on, after the last second of a minute.

These are the instants that a clock gives, that a document names and that can be made of seconds and
nanoseconds (chrono's `from_timestamp`). Left out are leap seconds elsewhere in a minute, which only
`with_nanosecond` makes: their text is that of the next second, so that they are not read back. -/

set_option autoImplicit false

namespace Testbook

/-- The day number of 1 January 1970. -/
def Instant.epochDay : Int := 719162

def Instant.Date.seconds (d : Instant.Date) : Int := (d.dayNumber - Instant.epochDay) * 86400

def Instant.earliest : Int := -8334601228800

def Instant.latest : Int := 8210266876799

/-- Whether seconds since 1970 and nanoseconds name an instant. -/
def Instant.Names (seconds : Int) (nanos : Nat) : Prop :=
  Instant.earliest ≤ seconds ∧ seconds ≤ Instant.latest ∧ nanos < 2000000000 ∧
    (1000000000 ≤ nanos → seconds % 60 = 59)

instance (seconds : Int) (nanos : Nat) : Decidable (Instant.Names seconds nanos) := by
  unfold Instant.Names
  infer_instance

structure Instant where
  seconds : Int
  nanos : Nat
  valid : Instant.Names seconds nanos
  deriving DecidableEq

namespace Instant

def ofEpoch? (seconds : Int) (nanos : Nat) : Option Instant :=
  if h : Names seconds nanos then some ⟨seconds, nanos, h⟩ else none

def epoch : Instant := ⟨0, 0, by decide⟩

/-- In the order of time; a leap second comes after the second that it follows. -/
def before (a b : Instant) : Bool :=
  a.seconds < b.seconds || (a.seconds = b.seconds && a.nanos < b.nanos)

def notAfter (a b : Instant) : Bool := !b.before a

def date (t : Instant) : Date := Date.ofDayNumber (t.seconds / 86400 + epochDay)

def ofDay (t : Instant) : Nat := (t.seconds % 86400).toNat

end Instant

end Testbook
