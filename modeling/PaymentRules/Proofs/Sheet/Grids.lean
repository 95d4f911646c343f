import PaymentRules.Proofs.Sheet.SourceLines

/-!
# Reading a written grid

A grid of cells can be written as a text from which it is read back, whatever stands in the cells.
Delimiters, quotes and line ends then stand in quotes. A line with nothing but an empty cell still
has the two quotes of that cell, so that it is not taken for an empty line. Only the blanks at the
ends of a cell would be lost, since every field is trimmed.

A grid need not be a rectangle. A line that is shorter than the first one is read with empty cells
behind its own, and a longer one with all of its cells.

## Main definitions

* `Text.IsTrimmed` — a text without blanks at its ends

## Main results

* `exists_divided_write` — a written grid is divided into the records that were written
* `written_grid_is_read_back` — the sheet in the text of a grid
-/

namespace PaymentRules

/-- The text neither starts nor ends with a blank. -/
def Text.IsTrimmed (text : String) : Prop :=
  (∀ c ∈ text.toList.head?, isBlank c = false) ∧ ∀ c ∈ text.toList.getLast?, isBlank c = false

instance (text : String) : Decidable (Text.IsTrimmed text) :=
  decidable_of_iff
    (text.toList.head?.all (!Text.isBlank ·) = true ∧
      text.toList.getLast?.all (!Text.isBlank ·) = true)
    (by simp only [Text.IsTrimmed, Option.all_eq_true, Bool.not_eq_true', Option.mem_def])

theorem Text.IsTrimmed.trim_eq {text : String} (trimmed : IsTrimmed text) : trim text = text := by
  rw [trim, trimChars_eq_self trimmed.1 trimmed.2, String.ofList_toList]

/-! ## The text of a grid -/

section

variable (delimiter : Delimiter)

open Sheet

/-- A written cell is a field in quotes, with nothing behind the closing one. -/
theorem isField_writeCell (cell : String) :
    IsField delimiter (writeCell cell) cell.toList := by
  have field : IsField delimiter ('"' :: (doubleQuotes cell.toList ++ ['"'])) (cell.toList ++ []) :=
    .quoted nofun nofun
  rwa [List.append_nil] at field

/-- The cells of a line are the fields of a record, also in the middle of a text. -/
theorem areFields_writeCells {cells : List String} (nonempty : cells ≠ []) (atEnd : Prop) :
    AreFields delimiter atEnd (writeCells delimiter cells) cells := by
  induction cells with
  | nil => exact absurd rfl nonempty
  | cons cell cells ih =>
    have field := isField_writeCell delimiter cell
    cases cells with
    | nil =>
      have only : AreFields delimiter atEnd (writeCell cell) [String.ofList cell.toList] :=
        .last field
      rwa [String.ofList_toList] at only
    | cons next cells =>
      have more := AreFields.more field (ih (List.cons_ne_nil next cells))
      rwa [String.ofList_toList] at more

/-- Every line starts with a quote, even that of one empty cell. -/
theorem head?_writeCells {cells : List String} (nonempty : cells ≠ []) :
    (writeCells delimiter cells).head? = some '"' := by
  match cells with
  | [] => exact absurd rfl nonempty
  | [_] => rfl
  | _ :: _ :: _ => rfl

/-- A written grid is divided into its lines. The line feed behind a line is passed over in front of
the next one. -/
theorem exists_divided_write {grid : List (List String)} (nonempty : ∀ cells ∈ grid, cells ≠ [])
    (before gap : List Char) (breaks : ∀ c ∈ gap, Scan.isBreak c = true) :
    ∃ passages, Divided delimiter before
        (gap ++ grid.flatMap fun cells => writeCells delimiter cells ++ ['\n']) passages ∧
      passages.map (·.fields) = grid := by
  -- The induction is on the lines. What is passed over in front of a line is any gap at first, and
  -- then the line feed that the line before it has left.
  induction grid generalizing before gap with
  | nil => exact ⟨[], by simpa using Divided.done breaks, rfl⟩
  | cons cells grid ih =>
    obtain ⟨here, further⟩ := List.forall_mem_cons.mp nonempty
    -- Not even a line of one empty cell is an empty line.
    have some_text : writeCells delimiter cells ≠ [] := by
      intro nothing
      have starts := head?_writeCells delimiter here
      rw [nothing] at starts
      cases starts
    obtain ⟨passages, later, fields⟩ := ih further (before ++ gap ++ writeCells delimiter cells)
      ['\n'] (by simp [Scan.isBreak])
    have first := Divided.record breaks some_text (areFields_writeCells delimiter here _)
      (by simp [Scan.isBreak]) later
    rw [List.flatMap_cons, List.append_assoc]
    exact ⟨_, first, congrArg (cells :: ·) fields⟩

/-- The text of a grid has no mark in front of it. -/
theorem exists_dividedText_write {grid : List (List String)}
    (nonempty : ∀ cells ∈ grid, cells ≠ []) :
    ∃ passages, DividedText delimiter (write delimiter grid).toList passages ∧
      passages.map (·.fields) = grid := by
  obtain ⟨passages, divided, fields⟩ := exists_divided_write delimiter nonempty [] [] nofun
  rw [List.nil_append] at divided
  refine ⟨passages, ?_, fields⟩
  rw [write, String.toList_ofList]
  refine .plain ?_ divided
  cases grid with
  | nil => simp
  | cons cells grid =>
    have starts := head?_writeCells delimiter (nonempty cells List.mem_cons_self)
    simp [List.head?_append, starts]

end

/-! ## The sheet in a divided text -/

section

variable {delimiter : Delimiter}

/-- The cells of the rows are the fields of the records. The lines of the rows are left out. -/
theorem map_cells_rowsOfRecords (width : Nat) (data : List UInt8) (counter : LineCounter)
    (start : Nat) (passages : List Passage) :
    (Sheet.rowsOfRecords width data counter (recordsOf start passages)).map (·.cells) =
      passages.map fun passage => passage.fields.map Text.trim ++
        List.replicate (width - passage.fields.length) "" := by
  induction passages generalizing counter start with
  | nil => rfl
  | cons passage passages ih =>
    rw [recordsOf, Sheet.rowsOfRecords, List.map_cons, List.map_cons, ih]
    simp [Sheet.rowOfRecord]

/-- A text that is divided into records is a sheet when the first of them names columns. -/
theorem exists_ofText_of_dividedText (distinct : delimiter.IsDistinct) {text : String}
    {first : Passage} {later : List Passage}
    (divided : DividedText delimiter text.toList (first :: later))
    (nodup : (first.fields.map Text.trim).Nodup) :
    ∃ sheet, Sheet.ofText delimiter text = .ok sheet ∧
      sheet.header.names = first.fields.map Text.trim ∧
      sheet.rows.map (·.cells) = later.map fun passage => passage.fields.map Text.trim ++
        List.replicate (first.fields.length - passage.fields.length) "" := by
  obtain ⟨mark, body, -, split_eq, divided⟩ := divided.exists_splitMark
  have named := Header.ofNames_of_nodup nodup
  simp only [Sheet.ofText, split_eq, Record.ofText_eq distinct divided, recordsOf, Sheet.ofRecords,
    named, Except.ok_bind]
  refine ⟨_, rfl, Header.names_ofDistinct nodup, ?_⟩
  rw [map_cells_rowsOfRecords, Header.width, Header.names_ofDistinct, List.length_map]

end

/-- A grid of which the first line has distinct names is read back from the bytes of its text: the
first line is the header, and every other one a row, in its place. A row has all cells of its line,
and behind them empty ones when they are fewer than the names. -/
theorem written_grid_is_read_back {delimiter : Delimiter} (distinct : delimiter.IsDistinct)
    {names : List String} {lines : List (List String)} (named : names ≠ []) (nodup : names.Nodup)
    (nonempty : ∀ cells ∈ lines, cells ≠ [])
    (trimmed : ∀ cells ∈ names :: lines, ∀ cell ∈ cells, Text.IsTrimmed cell) :
    ∃ sheet, Sheet.ofBytes delimiter (Sheet.write delimiter (names :: lines)).toUTF8 = .ok sheet ∧
      sheet.header.names = names ∧
      sheet.rows.map (·.cells) = lines.map fun cells =>
        cells ++ List.replicate (names.length - cells.length) "" := by
  obtain ⟨passages, divided, fields⟩ := exists_dividedText_write delimiter
    (List.forall_mem_cons.mpr ⟨named, nonempty⟩)
  obtain ⟨first, later, rfl, rfl, rfl⟩ := List.map_eq_cons_iff.mp fields
  -- Trimming leaves every field alone.
  have kept : ∀ passage ∈ first :: later, passage.fields.map Text.trim = passage.fields := by
    intro passage listed
    refine (List.map_congr_left fun cell among => ?_).trans (List.map_id _)
    exact (trimmed _ (List.mem_map_of_mem (f := (·.fields)) listed) cell among).trim_eq
  obtain ⟨first_kept, later_kept⟩ := List.forall_mem_cons.mp kept
  obtain ⟨sheet, loaded, names_eq, rows_eq⟩ :=
    exists_ofText_of_dividedText distinct divided (first_kept.symm ▸ nodup)
  refine ⟨sheet, ?_, names_eq.trans first_kept, rows_eq.trans ?_⟩
  · rw [Sheet.ofBytes_toUTF8, loaded]
  · rw [List.map_map]
    refine List.map_congr_left fun passage listed => ?_
    rw [later_kept passage listed]
    rfl

/-- Two columns, a line with one empty cell, and a line that is too long, with a delimiter, a quote
and a line end in its cells. -/
def unevenGrid : List (List String) :=
  [["Name", "Say \"when\""], [""], ["a;b", "two\r\nlines", "\""]]

/-- The empty cell is a row of its own, and the third cell of the last row has no column. -/
theorem written_grid_is_read_back_of_unevenGrid :
    ∃ semicolon : Delimiter, semicolon.char = ';' ∧
      (Sheet.write semicolon unevenGrid).toList =
        "\"Name\";\"Say \"\"when\"\"\"\n\"\"\n\"a;b\";\"two\r\nlines\";\"\"\"\"\n".toList ∧
      ∃ sheet, Sheet.ofBytes semicolon (Sheet.write semicolon unevenGrid).toUTF8 = .ok sheet ∧
        sheet.header.names = ["Name", "Say \"when\""] ∧
        sheet.rows.map (·.cells) = [["", ""], ["a;b", "two\r\nlines", "\""]] := by
  have distinct : Delimiter.IsDistinct ⟨';', by decide⟩ := ⟨by decide, by decide, by decide⟩
  exact ⟨⟨';', by decide⟩, rfl, by decide,
    written_grid_is_read_back distinct (by decide) (by decide) (by decide) (by decide)⟩

end PaymentRules
