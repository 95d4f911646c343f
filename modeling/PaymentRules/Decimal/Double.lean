/-!
# Doubles

The numbers of carried data that are not integers are binary floating-point numbers of 64 bits. They
are held as their bits, so that equality is equality of bits and `-0.0` is not `0.0`.

## Main definitions

* `Double` — a number by its bits
* `Double.mantissa`, `Double.exponent` — a finite magnitude is the mantissa times a power of two
-/

namespace PaymentRules

/-- A 64-bit floating-point number. -/
structure Double where
  bits : UInt64
  deriving DecidableEq, Repr

namespace Double

/-- The number that the machine computed. -/
def ofFloat (f : Float) : Double :=
  ⟨f.toBits⟩

/-- Whether the sign bit is set. -/
def isNegative (d : Double) : Bool :=
  d.bits >>> 63 == 1

/-- The biased exponent field. -/
def exponentField (d : Double) : Nat :=
  ((d.bits >>> 52) &&& 0x7FF).toNat

/-- The fraction field. -/
def fractionField (d : Double) : Nat :=
  (d.bits &&& 0xFFFFFFFFFFFFF).toNat

/-- The integer that is scaled by a power of two. -/
def mantissa (d : Double) : Nat :=
  if d.exponentField = 0 then d.fractionField else d.fractionField + 0x10000000000000

/-- The power of two that scales the mantissa. -/
def exponent (d : Double) : Int :=
  if d.exponentField = 0 then -1074 else d.exponentField - 1075

end Double

end PaymentRules
