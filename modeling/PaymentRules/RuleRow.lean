import PaymentRules.Dimension
import PaymentRules.Sheet.Basic

/-!
# Rows seen through the columns of a family

A family of rules knows its columns by name. It needs every one of them, in whatever order they
stand in a file, and does not look at others, except to tell whether a row has anything in it at
all. A `RuleRow` is a row as the family sees it: a line, and a cell for each column. Errors call a
column by the name that the header has at the position at which the column was found.

## Main definitions

* `RuleColumn` — the columns of a family
* `RuleRow` and `Sheet.ruleRows` — the rows of a sheet, or the first column that it lacks
* `RuleRow.constant`, `RuleRow.dimension`, `RuleRow.word`, `RuleRow.flag` — readings of a cell
* `RuleRow.columnList` — the values that stand one below the other in a column
-/

namespace PaymentRules

/-- The columns of a family of rules, in the order in which they are looked for. -/
class RuleColumn (κ : Type) extends Named κ where
  /-- The name of the family in errors. -/
  family : String

/-- A row with a cell for each column of a family. -/
structure RuleRow (κ : Type) where
  line : Nat
  cell : κ → String
  /-- The name by which errors call a column. -/
  columnName : κ → String
  /-- Whether every cell below the header is empty, those of other columns included. -/
  isBlank : Bool

variable {κ : Type} [RuleColumn κ]

namespace Sheet

/-- The row as the family sees it, when the header has all of its columns. -/
def ruleRow (header : Header) (row : Row) : RuleRow κ where
  line := row.line
  cell column :=
    match header.indexOf? (Named.name column) with
    | some index => row.cell index
    | none => ""
  columnName column :=
    match header.indexOf? (Named.name column) with
    | some index => header.nameAt index
    | none => ""
  isBlank := (row.cells.take header.width).all (· == "")

/-- The rows as the family sees them. The first column that the header lacks is an error. -/
def ruleRows (κ : Type) [RuleColumn κ] (sheet : Sheet) : Except LoadError (List (RuleRow κ)) := do
  -- a column is required even when no row has anything in it
  (Named.all : List κ).forM fun column =>
    discard (sheet.header.require (RuleColumn.family κ) (Named.name column))
  return sheet.rows.map (ruleRow sheet.header)

end Sheet

namespace RuleRow

/-- An error of shape on the row's line. -/
def flaw (row : RuleRow κ) (flaw : ShapeFlaw) : LoadError :=
  .shape (RuleColumn.family κ) row.line flaw

/-- The text of a cell, if it has any. -/
def optional (row : RuleRow κ) (column : κ) : Option String :=
  if row.cell column = "" then none else some (row.cell column)

/-- Whether a cell says TRUE, in any case. -/
def flag (row : RuleRow κ) (column : κ) : Bool :=
  Text.sameLetters (row.cell column) "TRUE"

/-- The value that a cell stands for, if it has any text. -/
def constant (row : RuleRow κ) (column : κ) : Except LoadError (Option String) :=
  match row.optional column with
  | none => .ok none
  | some cell => some <$> Constant.resolve cell row.line

/-- The dimension written in a cell. -/
def dimension (row : RuleRow κ) (column : κ) : Except LoadError Dimension :=
  match Dimension.parse (row.cell column) row.line with
  | .error (.invalidValue _ value line) => .error (.invalidValue (row.columnName column) value line)
  | result => result

/-- The member of a vocabulary that a cell names. -/
def word {α : Type} (row : RuleRow κ) (column : κ) (read : String → Option α) :
    Except LoadError α :=
  match read (row.cell column) with
  | some member => .ok member
  | none => .error (.invalidValue (row.columnName column) (row.cell column) row.line)

/-- The values in a column, from the first row down to the first empty cell. A value below that cell
belongs to no list and is an error, the topmost one first. -/
def columnList (column : κ) : List (RuleRow κ) → Except LoadError (List String)
  | [] => .ok []
  | row :: rows =>
    if row.cell column = "" then
      -- the list ends here, and nothing may stand below it
      match rows.find? fun later => later.cell column ≠ "" with
      | some later =>
        .error (later.flaw (.detachedValue (later.cell column) (later.columnName column)))
      | none => .ok []
    else do
      let value ← Constant.resolve (row.cell column) row.line
      let values ← columnList column rows
      return value :: values

end RuleRow

end PaymentRules
