import PaymentRules.Sheet.Basic
import PaymentRules.Sheet.Record
import PaymentRules.Text.Blank

/-!
# Reading sheets

The first record of a text is the header, every other one a row. All fields are trimmed. A row that
is shorter than the header is filled up with empty cells, and a longer one keeps its extra cells.

Rows are numbered by the lines of the file. The numbers are counted while the records go by: from
one record to the next, only the bytes between them are looked at.

## Main definitions

* `LineCounter` — how far the lines of a file are counted, and `LineCounter.moveTo`, to a record
* `Sheet.ofText` — the sheet written in a text
* `Sheet.ofBytes` — the sheet in the bytes of a file, which have to be UTF-8
-/

namespace PaymentRules

/-- The number of the line on which the byte at an offset stands. -/
structure LineCounter where
  offset : Nat
  line : Nat
  deriving DecidableEq, Repr

namespace LineCounter

/-- The first byte stands on the first line. -/
def initial : LineCounter :=
  ⟨0, 1⟩

/-- The bytes that end a record. -/
def isBreak (byte : UInt8) : Bool :=
  byte == 13 || byte == 10

/-- The counter at the first byte of a record. The record may start behind line ends that are passed
over, and the counter never goes back. -/
def moveTo (data : List UInt8) (counter : LineCounter) (start : Nat) : LineCounter :=
  let breaks := (data.drop start).takeWhile isBreak
  let first := min (start + breaks.length) data.length
  if counter.offset < first then
    let passed := (data.drop counter.offset).take (first - counter.offset)
    ⟨first, counter.line + passed.count 10⟩
  else counter

end LineCounter

namespace Sheet

/-- The row of a record, at least as wide as the header. -/
def rowOfRecord (width line : Nat) (record : Record) : Row :=
  let cells := record.fields.map Text.trim
  ⟨line, cells ++ List.replicate (width - cells.length) ""⟩

/-- The rows of the records in some bytes. -/
def rowsOfRecords (width : Nat) (data : List UInt8) (counter : LineCounter) :
    List Record → List Row
  | [] => []
  | record :: records =>
    let here := counter.moveTo data record.start
    rowOfRecord width here.line record :: rowsOfRecords width data here records

/-- The bytes of the mark that a text may start with, and the text without it. -/
def splitMark (text : List Char) : Nat × List Char :=
  match text with
  | '\ufeff' :: rest => ('\ufeff'.utf8Size, rest)
  | _ => (0, text)

/-- The sheet of the records in some bytes. -/
def ofRecords (data : List UInt8) (records : List Record) : Except LoadError Sheet := do
  match records with
  | [] => throw .emptyFile
  | first :: rest =>
    let header ← Header.ofNames (first.fields.map Text.trim)
    return ⟨header, rowsOfRecords header.width data .initial rest⟩

/-- The sheet written in a text. -/
def ofText (delimiter : Delimiter) (text : String) : Except LoadError Sheet :=
  let (marked, body) := splitMark text.toList
  ofRecords text.toUTF8.data.toList (Record.ofText delimiter marked body)

/-- The sheet in the bytes of a file. -/
def ofBytes (delimiter : Delimiter) (bytes : ByteArray) : Except LoadError Sheet :=
  match String.fromUTF8? bytes with
  | some text => ofText delimiter text
  | none => .error .unreadable

/-- The bytes of a text are read as that text. -/
theorem ofBytes_toUTF8 (delimiter : Delimiter) (text : String) :
    ofBytes delimiter text.toUTF8 = ofText delimiter text := by
  have decoded : String.fromUTF8? text.toUTF8 = some text := by
    rw [String.fromUTF8?, String.toUTF8_eq_toByteArray, dif_pos text.isValidUTF8]
    rfl
  rw [ofBytes, decoded]

/-- Every row is at least as wide as the header. -/
theorem width_le_length_rowOfRecord (width line : Nat) (record : Record) :
    width ≤ (rowOfRecord width line record).cells.length := by
  simp only [rowOfRecord, List.length_append, List.length_replicate]
  omega

end Sheet

end PaymentRules
