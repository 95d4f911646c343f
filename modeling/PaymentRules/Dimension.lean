import PaymentRules.Constant
import PaymentRules.Text.Blank
import PaymentRules.Text.Letters

/-!
# Dimensions

A rule constrains one property of a payment, such as its country or its partner, by a *dimension*:
any value will do, one of some values, or none of some values. Values are compared up to the case of
A to Z. A payment may have no value for a property. A list of allowed values rejects it then, and a
list of excluded values accepts it.

A list in a dimension is never empty: an empty list constrains nothing and is `any`.

## Main definitions

* `Dimension` and `Dimension.accepts` — a constraint and its meaning
* `Dimension.covers` — a syntactic test for inclusion of meanings
* `Dimension.ofValues` — the dimension of a list that was already collected
* `Dimension.parse` — the dimension written in a cell
-/

namespace PaymentRules

/-- A constraint on one property of a payment. -/
inductive Dimension where
  | any
  | oneOf (values : List String) (nonempty : values ≠ [])
  | noneOf (values : List String) (nonempty : values ≠ [])
  deriving DecidableEq, Repr

namespace Dimension

instance : Inhabited Dimension := ⟨.any⟩

/-- A value is listed when some member of the list has the same letters. -/
def listed (values : List String) (value : String) : Bool :=
  values.any fun member => Text.sameLetters member value

/-- Whether a property with this value, or with none, satisfies the constraint. -/
def accepts : Dimension → Option String → Bool
  | .any, _ => true
  | .oneOf values _, some value => listed values value
  | .oneOf _ _, none => false
  | .noneOf values _, some value => !listed values value
  | .noneOf _ _, none => true

/-- Whether the dimension constrains nothing. -/
def isAny : Dimension → Bool
  | .any => true
  | _ => false

/-- Whether everything that `other` accepts is accepted, judged from the two lists alone. -/
def covers (self other : Dimension) : Bool :=
  match self, other with
  | .any, _ => true
  | _, .any => false
  | .oneOf mine _, .oneOf theirs _ => theirs.all (listed mine)
  -- what an exclusion accepts is endless, and so never covered by a list
  | .oneOf _ _, .noneOf _ _ => false
  | .noneOf mine _, .oneOf theirs _ => theirs.all fun value => !listed mine value
  | .noneOf mine _, .noneOf theirs _ => mine.all (listed theirs)

/-- The dimension of a list: of allowed values when `allowed` holds, of excluded ones otherwise. -/
def ofValues (values : List String) (allowed : Bool) : Dimension :=
  if h : values = [] then .any else if allowed then .oneOf values h else .noneOf values h

/-- The values written in a list, trimmed, without the blank ones. -/
def pieces (list : String) : List String :=
  ((Text.splitAt ',' list).map Text.trim).filter (· ≠ "")

/-- A cell's mark of exclusion and the list that follows it. -/
def exclusion (cell : String) : Bool × String :=
  match cell.toList with
  | '!' :: rest => (true, String.ofList rest)
  | _ => (false, cell)

/-- The dimension written in a cell. A blank cell constrains nothing. A list of values is separated
by commas and its values may be named constants; a leading `!` excludes the values instead of
allowing them, and then at least one has to follow. The column of the error is left to the
caller. -/
def parse (cell : String) (line : Nat) : Except LoadError Dimension :=
  let cell := Text.trim cell
  if cell = "" then .ok .any
  else
    let (excluded, list) := exclusion cell
    match (pieces list).mapM (Constant.resolve · line) with
    | .error e => .error e
    | .ok values =>
      -- an exclusion has to exclude something, while commas alone are let through
      if excluded && values.isEmpty then .error (.invalidValue "" cell line)
      else .ok (ofValues values (!excluded))

/-- The text of a dimension: a star, or its values with commas between them. -/
def display : Dimension → String
  | .any => "*"
  | .oneOf values _ => String.intercalate "," values
  | .noneOf values _ => "!" ++ String.intercalate "," values

@[simp] theorem accepts_any (value : Option String) : any.accepts value = true := rfl

@[simp] theorem ofValues_nil (allowed : Bool) : ofValues [] allowed = .any := rfl

end Dimension

end PaymentRules
