import PaymentRules.Named

/-!
# Patterns of empty cells

Whether a row belongs to a component is told by which of some chosen cells are empty.
-/

namespace PaymentRules

/-- A condition on how many of some cells are empty. -/
inductive Pattern where
  | allEmpty
  | someEmpty
  | allFull
  | someFull
  deriving DecidableEq, Repr

namespace Pattern

instance : Named Pattern where
  all := [.allEmpty, .someEmpty, .allFull, .someFull]
  name
    | .allEmpty => "AllEmpty"
    | .someEmpty => "SomeEmpty"
    | .allFull => "AllFull"
    | .someFull => "SomeFull"

/-- Whether the cells satisfy the condition. -/
def holds (pattern : Pattern) (cells : List String) : Bool :=
  match pattern with
  | .allEmpty => cells.all (· == "")
  | .someEmpty => cells.any (· == "")
  | .allFull => !cells.any (· == "")
  | .someFull => !cells.all (· == "")

end Pattern

end PaymentRules
