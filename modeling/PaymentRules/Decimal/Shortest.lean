import PaymentRules.Decimal.Double

/-!
# Shortest decimals

A double is written with the fewest significant digits that lead back to it. The decimals that lead
back to a double are those in its rounding interval, which reaches half way to each neighbour; its
ends belong to it when the mantissa is even. For each number of digits the two decimals next to the
double are tried, in exact arithmetic. The first number of digits with a decimal in the interval
wins, and of two the nearer one.

## Main definitions

* `Decimal` — digits and the power of ten of the last one
* `Double.shortest` — the shortest decimal of a double that is not zero
-/

namespace PaymentRules

/-- The number `digits * 10 ^ exponent`. -/
structure Decimal where
  digits : Nat
  exponent : Int
  deriving DecidableEq, Repr

/-- The rounding interval of a positive double: the double, and the ends of the interval, all over
one denominator. -/
structure RoundingInterval where
  low : Nat
  value : Nat
  high : Nat
  denominator : Nat
  /-- Whether the ends belong to the interval. -/
  closed : Bool
  deriving DecidableEq, Repr

namespace RoundingInterval

/-- The interval of the magnitude of a double. Below a power of two the neighbours are half as far
away as above it. -/
def ofDouble (d : Double) : RoundingInterval :=
  let m := d.mantissa
  let below := if m = 0x10000000000000 ∧ 1 < d.exponentField then 1 else 2
  -- a quarter of the unit in the last place, as numerator and denominator
  let quarter := d.exponent - 2
  let up := Nat.pow 2 quarter.toNat
  let down := Nat.pow 2 (-quarter).toNat
  ⟨(4 * m - below) * up, 4 * m * up, (4 * m + 2) * up, down, m % 2 = 0⟩

/-- The power of ten of the first digit of the value. -/
def leadingExponent (i : RoundingInterval) : Int :=
  if i.denominator ≤ i.value then
    ((Nat.toDigits 10 (i.value / i.denominator)).length : Int) - 1
  else
    -((Nat.toDigits 10 ((i.denominator + i.value - 1) / i.value - 1)).length : Int)

/-- A decimal of `count` digits in the interval, if one of the two next to the value is. -/
def decimal? (i : RoundingInterval) (count : Nat) : Option Decimal :=
  let exponent := i.leadingExponent - (count - 1 : Nat)
  -- one unit of the last digit, and the interval, over a common denominator
  let unit := i.denominator * Nat.pow 10 exponent.toNat
  let scale := Nat.pow 10 (-exponent).toNat
  let digits := i.value * scale / unit
  let inside (n : Nat) : Bool :=
    if i.closed then i.low * scale ≤ n * unit && n * unit ≤ i.high * scale
    else i.low * scale < n * unit && n * unit < i.high * scale
  let below := i.value * scale - digits * unit
  let above := (digits + 1) * unit - i.value * scale
  match inside digits, inside (digits + 1) with
  | true, true =>
    if below < above ∨ (below = above ∧ digits % 2 = 0) then some ⟨digits, exponent⟩
    else some ⟨digits + 1, exponent⟩
  | true, false => some ⟨digits, exponent⟩
  | false, true => some ⟨digits + 1, exponent⟩
  | false, false => none

end RoundingInterval

/-- The shortest decimal of the magnitude of a double. Seventeen digits are always enough. -/
def Double.shortest (d : Double) : Decimal :=
  let interval := RoundingInterval.ofDouble d
  ((List.range' 1 17).findSome? interval.decimal?).getD ⟨0, 0⟩

end PaymentRules
