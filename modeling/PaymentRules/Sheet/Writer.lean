import PaymentRules.Sheet.Delimiter

/-!
# Writing grids

The plainest text from which a grid of cells can be read back: every cell stands in quotes with its
own quotes doubled, cells are separated by the delimiter, and every line ends in a line feed.
-/

namespace PaymentRules.Sheet

/-- The characters of a cell in quoted text. -/
def doubleQuotes : List Char → List Char
  | [] => []
  | c :: rest => if c = '"' then '"' :: '"' :: doubleQuotes rest else c :: doubleQuotes rest

/-- A cell in quotes. -/
def writeCell (cell : String) : List Char :=
  '"' :: doubleQuotes cell.toList ++ ['"']

/-- The cells of a line with delimiters between them. -/
def writeCells (delimiter : Delimiter) : List String → List Char
  | [] => []
  | [cell] => writeCell cell
  | cell :: cells => writeCell cell ++ delimiter.char :: writeCells delimiter cells

/-- The text of a grid. -/
def write (delimiter : Delimiter) (grid : List (List String)) : String :=
  String.ofList (grid.flatMap fun cells => writeCells delimiter cells ++ ['\n'])

end PaymentRules.Sheet
