import PaymentRules.Sheet.Header

/-!
# Sheets

A rule file in memory: its header and its rows. A row knows the source line it starts on. Blank
lines of the file yield no row, so a row's line is not simply its position.

Beyond the stored cells a sheet goes on with empty cells, and beyond its rows it goes on as if no
line had been skipped.
-/

namespace PaymentRules

/-- One row of a sheet, with the number of the source line on which it starts. -/
structure Row where
  line : Nat
  cells : List String
  deriving DecidableEq, Repr

/-- The cell in a column, empty past the end of the row. -/
def Row.cell (row : Row) (column : Nat) : String :=
  row.cells[column]?.getD ""

/-- A rule file: the column names and the rows below them. -/
structure Sheet where
  header : Header
  rows : List Row
  deriving DecidableEq, Repr

namespace Sheet

/-- The cell at a row and a column, empty outside the sheet. -/
def cell (sheet : Sheet) (row column : Nat) : String :=
  match sheet.rows[row]? with
  | some r => r.cell column
  | none => ""

/-- The source line of a row. Row `i` of a file without blank lines is on line `i + 2`, and that is
also the answer for a row that does not exist. -/
def lineOf (sheet : Sheet) (row : Nat) : Nat :=
  match sheet.rows[row]? with
  | some r => r.line
  | none => row + 2

end Sheet

end PaymentRules
