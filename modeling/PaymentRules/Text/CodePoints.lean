/-!
# Sets of characters

A property of characters is a table of code points. The table lists them as closed ranges.
-/

namespace PaymentRules.Text

/-- Code points as closed ranges, in ascending order and with gaps between them. -/
abbrev CodePoints := List (Nat × Nat)

namespace CodePoints

/-- A character is in the table when its code point lies in one of the ranges. -/
def contains (points : CodePoints) (c : Char) : Bool :=
  points.any fun range => range.1 ≤ c.toNat && c.toNat ≤ range.2

/-- Whether the ranges ascend, with at least one code point between neighbours. -/
def isAscending : CodePoints → Bool
  | [] => true
  | [range] => range.1 ≤ range.2
  | range :: next :: later =>
    range.1 ≤ range.2 && range.2 + 1 < next.1 && isAscending (next :: later)

/-- The number of code points in the ranges. -/
def count (points : CodePoints) : Nat :=
  (points.map fun range => range.2 + 1 - range.1).foldr (· + ·) 0

end CodePoints

end PaymentRules.Text
