import PaymentRules.LoadError

/-!
# Headers

The first line of a sheet names its columns. Names are compared exactly and no name may stand twice.
Two things are kept of the line: the names in their order, in which errors look up what a position
is called, and a map from names to positions, in which columns are looked up. Both grow together,
name by name, while the line is read.

## Main definitions

* `ColumnMap` — the names and the map, with `ColumnMap.push` and `ColumnMap.pushAll`
* `Header` — the names and the map of a line that was read
* `Header.ofNames` — refuses the leftmost name that already stands further left
* `ColumnMap.indexOf?`, `Header.require` — the position of a name
* `Header.nameAt` — the name at a position
-/

namespace PaymentRules

/-- The names of columns, from left to right, and a map from names to positions. -/
structure ColumnMap where
  names : List String
  /-- What was put into the map, the latest first. -/
  positions : List (String × Nat)
  deriving DecidableEq, Repr

namespace ColumnMap

/-- No columns. -/
def empty : ColumnMap :=
  ⟨[], []⟩

/-- The position that the map has for a name. -/
def indexOf? (columns : ColumnMap) (name : String) : Option Nat :=
  columns.positions.lookup name

/-- One more column, which is put into the map with this position. -/
def push (columns : ColumnMap) (name : String) (index : Nat) : ColumnMap where
  names := columns.names ++ [name]
  positions := (name, index) :: columns.positions

/-- Adds columns one by one, the first of them with this position. A name that the map has already
is refused. -/
def pushAll (columns : ColumnMap) (index : Nat) : List String → Except LoadError ColumnMap
  | [] => .ok columns
  | name :: names =>
    if (columns.indexOf? name).isSome then .error (.duplicateColumn name)
    else (columns.push name index).pushAll (index + 1) names

/-- The names that are added stand behind the others, as they are. -/
theorem names_of_pushAll {columns result : ColumnMap} {index : Nat} {names : List String}
    (added : columns.pushAll index names = .ok result) : result.names = columns.names ++ names := by
  induction names generalizing columns index with
  | nil =>
    obtain rfl := Except.ok.inj added
    exact (List.append_nil _).symm
  | cons name names ih =>
    rw [pushAll] at added
    split at added
    · cases added
    · rw [ih added, push, List.append_assoc, List.singleton_append]

end ColumnMap

/-- The columns of a line of names. -/
structure Header extends ColumnMap where
  read : ColumnMap.empty.pushAll 0 names = .ok toColumnMap
  deriving DecidableEq, Repr

namespace Header

/-- The header with these names. The names are taken as they are. -/
def ofNames (names : List String) : Except LoadError Header :=
  match read : ColumnMap.empty.pushAll 0 names with
  | .error failure => .error failure
  | .ok columns => .ok ⟨columns, by rwa [ColumnMap.names_of_pushAll read]⟩

/-- The position of a column that a family of rules cannot do without. -/
def require (header : Header) (family name : String) : Except LoadError Nat :=
  match header.indexOf? name with
  | some index => .ok index
  | none => .error (.missingColumn family name)

/-- The name that is shown for a position. Beyond the header it is the position itself. -/
def nameAt (header : Header) (index : Nat) : String :=
  header.names[index]?.getD index.repr

/-- The number of columns. -/
def width (header : Header) : Nat :=
  header.names.length

end Header

end PaymentRules
