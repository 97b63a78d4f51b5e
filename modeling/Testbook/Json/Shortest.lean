import Testbook.Decimal

/-! The shortest decimal that reads back as a given binary number: of all decimals that round to the
number, those with the fewest digits, and of these the nearest to it. -/

set_option autoImplicit false

namespace Testbook.Json.Shortest

/-- The value `digits * 10 ^ exponent`. -/
structure Scaled where
  digits : Nat
  exponent : Int

/-- A positive number `mantissa * 2 ^ power`, with the width of the gap below it halved when it is the
least of its power. -/
structure Binary where
  mantissa : Nat
  power : Int
  narrowBelow : Bool

def Binary.ofBits (bits : UInt64) : Binary :=
  let field : Nat := (bits.toNat >>> 52) % 2048
  let low : Nat := bits.toNat % 0x10000000000000
  if field = 0 then ⟨low, -1074, false⟩
  else ⟨low + 0x10000000000000, (field : Int) - 1075, low = 0 && field > 1⟩

/-- A fraction in natural numbers: `n * 2 ^ p / 10 ^ e` over a common denominator. -/
structure Scale where
  times : Nat
  divisor : Nat

def scale (power exponent : Int) : Scale :=
  ⟨Nat.pow 2 power.toNat * Nat.pow 10 (-exponent).toNat,
    Nat.pow 2 (-power).toNat * Nat.pow 10 exponent.toNat⟩

/-- Whether `d * 10 ^ exponent` lies between the midpoints to the neighbours; the midpoints themselves
round to the number when its mantissa is even. -/
def roundsTo (b : Binary) (exponent : Int) (d : Nat) : Bool :=
  let s := scale (b.power - 2) exponent
  let value := d * s.divisor
  let low := (4 * b.mantissa - (if b.narrowBelow then 1 else 2)) * s.times
  let high := (4 * b.mantissa + 2) * s.times
  if b.mantissa % 2 = 0 then low ≤ value && value ≤ high else low < value && value < high

/-- The one of the two neighbours on the grid of `10 ^ exponent` that rounds to the number and is
nearest to it; of two that are equally near, the even one. -/
def onGrid? (b : Binary) (exponent : Int) : Option Nat :=
  let s := scale b.power exponent
  let value := b.mantissa * s.times
  let below := value / s.divisor
  let above := below + 1
  let twice := 2 * (value - below * s.divisor)
  let belowFirst := twice < s.divisor || (twice == s.divisor && below % 2 == 0)
  let first := if belowFirst then [below, above] else [above, below]
  first.find? fun d => 0 < d && roundsTo b exponent d

/-- The decimal exponent of the leading digit, or one more. -/
def leading (b : Binary) : Int :=
  let s := scale b.power 0
  let whole := b.mantissa * s.times / s.divisor
  if 0 < whole then ((Decimal.digits whole).length : Int) - 1
  else -((Decimal.digits (s.divisor / (b.mantissa * s.times))).length : Int) + 1

def search (b : Binary) (top : Int) : Nat → Nat → Option Scaled
  | 0, _ => none
  | fuel + 1, width =>
    let exponent := top - width
    match onGrid? b exponent with
    | some d => some ⟨d, exponent⟩
    | none => search b top fuel (width + 1)

def trimZeros : Nat → Scaled → Scaled
  | 0, s => s
  | fuel + 1, s =>
    if s.digits % 10 = 0 ∧ s.digits ≠ 0 then trimZeros fuel ⟨s.digits / 10, s.exponent + 1⟩ else s

def ofBits (bits : UInt64) : Scaled :=
  let b := Binary.ofBits bits
  trimZeros 20 (((search b (leading b) 20 0).getD ⟨0, 0⟩))

end Testbook.Json.Shortest
