import PaymentRules.Sheet.Delimiter

/-!
# Records of delimited text

The text of a rule file is cut into records, and each record into fields.

A record ends at a carriage return or a line feed outside quotes; breaks in front of a record are
passed over, so that empty lines yield nothing and a carriage return with a line feed counts once. A
double quote at the start of a field opens quoted text, in which only the next quote is special: two
quotes stand for one, and a single quote closes. Whatever follows the closing quote belongs to the
field. A quote that is never closed runs to the end of the text.

The text is read from left to right by a machine with five places. When a character could play two
parts, the quote wins over the delimiter at the start of a field and after quoted text, and the
delimiter over the end of the record.

## Main definitions

* `Record` — the fields, with the place in the text up to which other records were read
* `Scan` and `Scan.step` — the machine and its reaction to a character
* `Record.ofText` — all records of a text
-/

namespace PaymentRules

/-- A record of delimited text. `start` is the number of bytes up to and with the character that
ended the record in front, and 0 for the first one. Line ends that are passed over are not
among them. -/
structure Record where
  start : Nat
  fields : List String
  deriving DecidableEq, Repr

/-- Where the reader of a text stands. -/
inductive Place where
  | betweenRecords
  | fieldStart
  | inField
  | inQuotes
  | afterQuote
  deriving DecidableEq, Repr

/-- A text read up to some character, in front of which there are `offset` bytes. The open field,
its record and the finished records are kept with their last element first. -/
structure Scan where
  place : Place
  offset : Nat
  start : Nat
  field : List Char
  fields : List String
  records : List Record
  deriving DecidableEq, Repr

namespace Scan

/-- No record is read yet, and the text starts behind some bytes. -/
def initial (offset : Nat) : Scan :=
  ⟨.betweenRecords, offset, 0, [], [], []⟩

/-- The characters that end a record. -/
def isBreak (c : Char) : Bool :=
  c == '\r' || c == '\n'

/-- A record starts here. -/
def openRecord (s : Scan) : Scan :=
  { s with place := .fieldStart }

/-- Adds a character to the open field. -/
def push (s : Scan) (place : Place) (c : Char) : Scan :=
  { s with place, field := c :: s.field }

/-- The open field is complete and another one follows. -/
def closeField (s : Scan) : Scan :=
  { s with place := .fieldStart, field := [], fields := String.ofList s.field.reverse :: s.fields }

/-- The open field is complete, and the record with it, at a character of one byte. -/
def closeRecord (s : Scan) : Scan :=
  let fields := (String.ofList s.field.reverse :: s.fields).reverse
  { s with place := .betweenRecords, start := s.offset + 1, field := [], fields := [],
           records := ⟨s.start, fields⟩ :: s.records }

/-- A character of a field outside quotes. -/
def plain (delimiter : Delimiter) (s : Scan) (c : Char) : Scan :=
  if c = delimiter.char then s.closeField
  else if isBreak c then s.closeRecord
  else s.push .inField c

/-- The first character of a field. -/
def first (delimiter : Delimiter) (s : Scan) (c : Char) : Scan :=
  if c = '"' then { s with place := .inQuotes } else s.plain delimiter c

/-- The reaction to a character, its place in the text aside. -/
def react (delimiter : Delimiter) (s : Scan) (c : Char) : Scan :=
  match s.place with
  -- empty lines, and the second half of a two-character line end, make no record
  | .betweenRecords => if isBreak c then s else s.openRecord.first delimiter c
  | .fieldStart => s.first delimiter c
  | .inField => s.plain delimiter c
  | .inQuotes => if c = '"' then { s with place := .afterQuote } else s.push .inQuotes c
  -- two quotes stand for one; behind a closing quote a field goes on as a plain one
  | .afterQuote => if c = '"' then s.push .inQuotes c else s.plain delimiter c

/-- Reads one character. -/
def step (delimiter : Delimiter) (s : Scan) (c : Char) : Scan :=
  { s.react delimiter c with offset := s.offset + c.utf8Size }

/-- The records when the text ends here. -/
def finish (s : Scan) : List Record :=
  match s.place with
  -- the last record needs no line end
  | .betweenRecords => s.records.reverse
  | _ => s.closeRecord.records.reverse

end Scan

/-- The records of a text that starts behind some bytes, in order. -/
def Record.ofText (delimiter : Delimiter) (offset : Nat) (text : List Char) : List Record :=
  (text.foldl (Scan.step delimiter) (Scan.initial offset)).finish

end PaymentRules
