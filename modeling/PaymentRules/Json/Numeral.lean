import PaymentRules.Json.Basic

/-!
# JSON numerals

A numeral is an optional minus, digits without a needless zero in front, and perhaps a fraction and
an exponent. A numeral without either is an integer when it fits 64 bits, signed or unsigned; minus
zero does not.

Every other numeral is a double. Its digits are gathered into a 64-bit significand until the next
digit would not fit: from then on digits of the whole part raise the exponent, and digits of the
fraction are dropped. The significand is rounded to a double and then multiplied or divided by a
power of ten, rounding again, so that the result need not be the double nearest to the numeral. A
result beyond the range of doubles is unreadable.

## Main definitions

* `Numeral` and `Numeral.ofChars?` — the parts of a numeral
* `Numeral.toJson` — its value
-/

namespace PaymentRules

/-- The parts of a numeral. Digits are numbers below ten. -/
structure Numeral where
  isNegative : Bool
  whole : List Nat
  fraction : Option (List Nat)
  /-- The sign and the digits of the exponent. -/
  exponent : Option (Bool × List Nat)
  deriving DecidableEq, Repr

namespace Numeral

/-- The digits at the start of a text, and the rest. -/
def spanDigits (cs : List Char) : List Nat × List Char :=
  let (digits, rest) := cs.span Char.isDigit
  (digits.map fun c => c.toNat - '0'.toNat, rest)

/-- The whole part: a zero, or digits that start with another one. -/
def whole? (cs : List Char) : Option (List Nat × List Char) :=
  match spanDigits cs with
  | ([], _) => none
  | (0 :: _ :: _, _) => none
  | parts => some parts

/-- The fraction, when there is a point. -/
def fraction? (cs : List Char) : Option (Option (List Nat) × List Char) :=
  match cs with
  | '.' :: rest =>
    match spanDigits rest with
    | ([], _) => none
    | (digits, rest) => some (some digits, rest)
  | _ => some (none, cs)

/-- The exponent, when there is a mark of one. -/
def exponent? (cs : List Char) : Option (Option (Bool × List Nat) × List Char) :=
  match cs with
  | c :: rest =>
    if c = 'e' || c = 'E' then
      let (isNegative, rest) :=
        match rest with
        | '-' :: rest => (true, rest)
        | '+' :: rest => (false, rest)
        | _ => (false, rest)
      match spanDigits rest with
      | ([], _) => none
      | (digits, rest) => some (some (isNegative, digits), rest)
    else some (none, cs)
  | [] => some (none, [])

/-- The numeral that a text is. -/
def ofChars? (cs : List Char) : Option Numeral := do
  let (isNegative, rest) :=
    match cs with
    | '-' :: rest => (true, rest)
    | _ => (false, cs)
  let (whole, rest) ← whole? rest
  let (fraction, rest) ← fraction? rest
  let (exponent, rest) ← exponent? rest
  if rest.isEmpty then some { isNegative, whole, fraction, exponent } else none

/-- The largest significand. -/
def maxSignificand : Nat := 0xFFFFFFFFFFFFFFFF

/-- The significand with one more digit, if it fits. -/
def append? (significand digit : Nat) : Option Nat :=
  let next := significand * 10 + digit
  if next ≤ maxSignificand then some next else none

/-- The significand of the whole part, and the number of digits that did not fit. -/
def gatherWhole (significand : Nat) : List Nat → Nat × Nat
  | [] => (significand, 0)
  | digit :: digits =>
    match append? significand digit with
    | some next => gatherWhole next digits
    | none => (significand, digits.length + 1)

/-- The significand with the digits of the fraction that fit, and their number. -/
def gatherFraction (significand : Nat) : List Nat → Nat × Nat
  | [] => (significand, 0)
  | digit :: digits =>
    match append? significand digit with
    | some next =>
      let (result, count) := gatherFraction next digits
      (result, count + 1)
    | none => (significand, 0)

/-- The number of the digits. -/
def ofDigits (digits : List Nat) : Nat :=
  digits.foldl (fun n digit => n * 10 + digit) 0

/-- The power of ten as a double, for exponents up to 308. -/
def powerOfTen (exponent : Nat) : Float :=
  Float.ofScientific 1 false exponent

/-- A double divided by a power of ten, in steps that doubles can hold. -/
def divide (f : Float) (exponent : Nat) : Float :=
  if h : exponent ≤ 308 then f / powerOfTen exponent
  else if f == 0 then f
  else divide (f / powerOfTen 308) (exponent - 308)
termination_by exponent
decreasing_by omega

/-- A significand times a power of ten, unless it is too large for a double. -/
def scale? (significand : Nat) (exponent : Int) : Option Float :=
  let f := significand.toUInt64.toFloat
  if exponent < 0 then some (divide f exponent.natAbs)
  else if exponent ≤ 308 then
    let result := f * powerOfTen exponent.natAbs
    if result.isInf then none else some result
  else if f == 0 then some f
  else none

/-- The largest exponent that is counted. -/
def maxExponent : Nat := 0x7FFFFFFF

/-- The magnitude of a numeral as a double, unless it is too large. -/
def magnitude? (n : Numeral) : Option Float :=
  let (whole, skipped) := gatherWhole 0 n.whole
  let (significand, added) := gatherFraction whole (n.fraction.getD [])
  let start : Int := skipped - added
  match n.exponent with
  | none => scale? significand start
  | some (isNegative, digits) =>
    let exponent := ofDigits digits
    if maxExponent < exponent then
      if significand ≠ 0 ∧ !isNegative then none else some 0
    else scale? significand (if isNegative then start - exponent else start + exponent)

/-- The value of a numeral. -/
def toJson (n : Numeral) : Json :=
  let integer := ofDigits n.whole
  if n.fraction.isNone && n.exponent.isNone && !n.isNegative && integer ≤ maxSignificand then
    .integer integer
  else if n.fraction.isNone && n.exponent.isNone && n.isNegative && 0 < integer &&
      integer ≤ 0x8000000000000000 then
    .integer (-integer)
  else
    match n.magnitude? with
    | some f => .double (.ofFloat (if n.isNegative then -f else f))
    | none => .unreadable

end Numeral

end PaymentRules
