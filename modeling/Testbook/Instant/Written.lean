import Testbook.Decimal
import Testbook.Instant.Basic

/-! How an instant is written. Years outside 0 to 9999 get a sign; the fraction of a second has as
many digits, in groups of three, as lose nothing. -/

set_option autoImplicit false

namespace Testbook.Instant

def yearText (year : Int) : List Char :=
  if 0 ≤ year ∧ year ≤ 9999 then Decimal.fixed 4 year.toNat
  else (if year < 0 then '-' else '+') :: Decimal.padded 4 year.natAbs

def dateText (t : Instant) : List Char :=
  yearText t.date.year ++ '-' :: Decimal.fixed 2 t.date.month ++ '-' :: Decimal.fixed 2 t.date.day

/-- A leap second is written as the sixtieth. -/
def clockText (t : Instant) : List Char :=
  Decimal.fixed 2 (t.ofDay / 3600) ++ ':' :: Decimal.fixed 2 (t.ofDay / 60 % 60) ++
    ':' :: Decimal.fixed 2 (t.ofDay % 60 + t.nanos / 1000000000)

def fractionText (nanos : Nat) : List Char :=
  if nanos = 0 then []
  else if nanos % 1000000 = 0 then '.' :: Decimal.fixed 3 (nanos / 1000000)
  else if nanos % 1000 = 0 then '.' :: Decimal.fixed 6 (nanos / 1000)
  else '.' :: Decimal.fixed 9 nanos

def stampChars (t : Instant) : List Char :=
  dateText t ++ 'T' :: clockText t ++ fractionText (t.nanos % 1000000000)

def stamp (t : Instant) : String := String.ofList (stampChars t ++ ['Z'])

def offsetStamp (t : Instant) : String := String.ofList (stampChars t ++ "+00:00".toList)

def plain (t : Instant) : String := String.ofList (dateText t ++ ' ' :: clockText t)

end Testbook.Instant
