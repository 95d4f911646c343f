import Mathlib.Data.List.Basic
import Mathlib.Data.List.TakeWhile
import PaymentRules.Sheet.Record
import PaymentRules.Sheet.Writer

/-!
# How delimited text is divided

A text is divided into records by line ends, and a record into fields by delimiters. This says which
characters belong to which record without reading them from left to right: a field is either plain,
or it starts with a part in quotes. Every text is divided in some way, and the records that are read
from it are those into which it is divided, whichever way that is.

A field in quotes that is not closed takes in the rest of the text. Hence it is the last field of
the last record.

## Main definitions

* `Delimiter.IsDistinct` — a delimiter without another part in the format
* `IsField`, `AreFields` — a field, the fields of a record, and how they are written
* `Passage` and `Divided` — a record in its place, and a text that is divided into records

## Main results

* `exists_divided` — every text is divided into records
* `Record.ofText_eq` — the records that are read are those into which the text is divided
-/

namespace PaymentRules

open Sheet (doubleQuotes)

/-- The delimiter neither opens quoted text nor ends a record. -/
structure Delimiter.IsDistinct (delimiter : Delimiter) : Prop where
  quote : delimiter.char ≠ '"'
  carriageReturn : delimiter.char ≠ '\r'
  lineFeed : delimiter.char ≠ '\n'

/-- The bytes of some characters. -/
def utf8 (text : List Char) : List UInt8 :=
  text.flatMap String.utf8EncodeChar

/-- Characters that neither end a field nor a record. -/
def IsPlain (delimiter : Delimiter) (text : List Char) : Prop :=
  ∀ c ∈ text, c ≠ delimiter.char ∧ Scan.isBreak c = false

/-- A field as it is written, and its text. Behind the closing quote a field goes on as a plain
one. -/
inductive IsField (delimiter : Delimiter) : List Char → List Char → Prop
  | plain {text : List Char} (plain : IsPlain delimiter text) (unquoted : text.head? ≠ some '"') :
      IsField delimiter text text
  | quoted {inner tail : List Char} (plain : IsPlain delimiter tail)
      (closed : tail.head? ≠ some '"') :
      IsField delimiter ('"' :: (doubleQuotes inner ++ '"' :: tail)) (inner ++ tail)

/-- Fields as they are written, with delimiters between them, and their texts. At the end of the
text the last field may have no closing quote. -/
inductive AreFields (delimiter : Delimiter) (atEnd : Prop) : List Char → List String → Prop
  | last {written text : List Char} (field : IsField delimiter written text) :
      AreFields delimiter atEnd written [String.ofList text]
  | unclosed {text : List Char} (nothing_behind : atEnd) :
      AreFields delimiter atEnd ('"' :: doubleQuotes text) [String.ofList text]
  | more {written text rest : List Char} {fields : List String}
      (field : IsField delimiter written text) (later : AreFields delimiter atEnd rest fields) :
      AreFields delimiter atEnd (written ++ delimiter.char :: rest) (String.ofList text :: fields)

/-- A record in its place: the characters of the text in front of it, its own ones and those behind
it, with the texts of its fields. -/
structure Passage where
  before : List Char
  own : List Char
  after : List Char
  fields : List String

namespace Passage

/-- The number of bytes in front of the record. -/
def start (passage : Passage) : Nat :=
  (utf8 passage.before).length

/-- The number of bytes up to the end of the record. -/
def stop (passage : Passage) : Nat :=
  (utf8 (passage.before ++ passage.own)).length

end Passage

/-- What follows some characters of a text is divided into records. Line ends in front of a record,
and behind the last one, are passed over. A record has some characters, and it goes up to a line end
or to the end of the text. -/
inductive Divided (delimiter : Delimiter) : List Char → List Char → List Passage → Prop
  | done {before gap : List Char} (breaks : ∀ c ∈ gap, Scan.isBreak c = true) :
      Divided delimiter before gap []
  | record {before gap own rest : List Char} {fields : List String} {passages : List Passage}
      (breaks : ∀ c ∈ gap, Scan.isBreak c = true) (nonempty : own ≠ [])
      (written : AreFields delimiter (rest = []) own fields)
      (ends : ∀ c ∈ rest.head?, Scan.isBreak c = true)
      (later : Divided delimiter (before ++ gap ++ own) rest passages) :
      Divided delimiter before (gap ++ (own ++ rest))
        (⟨before ++ gap, own, rest, fields⟩ :: passages)

/-! ## Every text is divided -/

section

variable {delimiter : Delimiter}

/-- Behind an opening quote some characters stand in quotes, up to a closing quote or the end. -/
theorem exists_doubleQuotes (text : List Char) :
    ∃ inner, text = doubleQuotes inner ∨
      ∃ tail, text = doubleQuotes inner ++ '"' :: tail ∧ tail.head? ≠ some '"' := by
  induction size : text.length using Nat.strong_induction_on generalizing text with
  | _ n ih =>
    cases text with
    | nil => exact ⟨[], .inl rfl⟩
    | cons c text =>
      by_cases quote : c = '"'
      · subst quote
        by_cases doubled : text.head? = some '"'
        · -- Two quotes stand for one, and then the text goes on.
          obtain ⟨text, rfl⟩ := List.head?_eq_some_iff.mp doubled
          obtain ⟨inner, rest⟩ := ih text.length (by simp at size; omega) text rfl
          refine ⟨'"' :: inner, rest.imp ?_ ?_⟩
          · rintro rfl
            simp [doubleQuotes]
          · rintro ⟨tail, rfl, closed⟩
            exact ⟨tail, by simp [doubleQuotes], closed⟩
        · exact ⟨[], .inr ⟨text, rfl, doubled⟩⟩
      · obtain ⟨inner, rest⟩ := ih text.length (by simp at size; omega) text rfl
        refine ⟨c :: inner, rest.imp ?_ ?_⟩
        · rintro rfl
          simp [doubleQuotes, quote]
        · rintro ⟨tail, rfl, closed⟩
          exact ⟨tail, by simp [doubleQuotes, quote], closed⟩

/-- Plain characters, and what stops them. -/
theorem exists_isPlain (delimiter : Delimiter) (text : List Char) :
    ∃ plain rest, text = plain ++ rest ∧ IsPlain delimiter plain ∧
      ∀ c ∈ rest.head?, c = delimiter.char ∨ Scan.isBreak c = true := by
  induction text with
  | nil => exact ⟨[], [], rfl, nofun, nofun⟩
  | cons c text ih =>
    by_cases stops : c = delimiter.char ∨ Scan.isBreak c = true
    · exact ⟨[], c :: text, rfl, nofun, fun _ first => Option.some.inj first ▸ stops⟩
    · obtain ⟨plain, rest, rfl, each, stopped⟩ := ih
      rw [not_or, Bool.not_eq_true] at stops
      exact ⟨c :: plain, rest, rfl, List.forall_mem_cons.mpr ⟨stops, each⟩, stopped⟩

/-- A text starts with a field, or it is a field that is never closed. -/
theorem exists_isField (delimiter : Delimiter) (text : List Char) :
    (∃ written value rest, text = written ++ rest ∧ IsField delimiter written value ∧
        ∀ c ∈ rest.head?, c = delimiter.char ∨ Scan.isBreak c = true) ∨
      ∃ value, text = '"' :: doubleQuotes value := by
  by_cases quoted : text.head? = some '"'
  · obtain ⟨text, rfl⟩ := List.head?_eq_some_iff.mp quoted
    obtain ⟨inner, rfl | ⟨tail, rfl, closed⟩⟩ := exists_doubleQuotes text
    · exact .inr ⟨inner, rfl⟩
    · obtain ⟨plain, rest, rfl, each, stopped⟩ := exists_isPlain delimiter tail
      have unquoted : plain.head? ≠ some '"' := fun quote => closed (by simp [quote])
      have field : IsField delimiter ('"' :: (doubleQuotes inner ++ '"' :: plain))
          (inner ++ plain) := .quoted each unquoted
      exact .inl ⟨_, _, rest, by simp, field, stopped⟩
  · obtain ⟨plain, rest, rfl, each, stopped⟩ := exists_isPlain delimiter text
    have unquoted : plain.head? ≠ some '"' := fun quote => quoted (by simp [quote])
    exact .inl ⟨plain, plain, rest, rfl, .plain each unquoted, stopped⟩

/-- A text starts with the fields of a record, up to a line end or to the end of the text. -/
theorem exists_areFields (delimiter : Delimiter) (text : List Char) :
    ∃ own rest fields, text = own ++ rest ∧ AreFields delimiter (rest = []) own fields ∧
      ∀ c ∈ rest.head?, Scan.isBreak c = true := by
  induction size : text.length using Nat.strong_induction_on generalizing text with
  | _ n ih =>
    obtain ⟨written, value, rest, rfl, field, stopped⟩ | ⟨value, rfl⟩ :=
      exists_isField delimiter text
    · by_cases goes_on : rest.head? = some delimiter.char
      · obtain ⟨rest, rfl⟩ := List.head?_eq_some_iff.mp goes_on
        obtain ⟨own, rest, fields, rfl, later, ends⟩ :=
          ih rest.length (by simp at size; omega) rest rfl
        exact ⟨_, rest, _, by simp, .more field later, ends⟩
      · refine ⟨written, rest, _, rfl, .last field, fun c first => ?_⟩
        refine (stopped c first).resolve_left ?_
        rintro rfl
        exact goes_on first
    · exact ⟨_, [], _, (List.append_nil _).symm, .unclosed rfl, nofun⟩

theorem exists_divided (delimiter : Delimiter) (before text : List Char) :
    ∃ passages, Divided delimiter before text passages := by
  induction size : text.length using Nat.strong_induction_on generalizing before text with
  | _ n ih =>
    have breaks : ∀ c ∈ text.takeWhile Scan.isBreak, Scan.isBreak c = true :=
      fun _ among => List.mem_takeWhile_imp among
    have gap_and_rest := List.takeWhile_append_dropWhile (p := Scan.isBreak) (l := text)
    obtain ⟨own, rest, fields, rest_eq, written, ends⟩ :=
      exists_areFields delimiter (text.dropWhile Scan.isBreak)
    rw [rest_eq] at gap_and_rest
    by_cases nonempty : own = []
    · -- What is left then starts with a line end, unless there is nothing left.
      subst nonempty
      have nothing : rest = [] := by
        by_contra some_left
        obtain ⟨c, rest, rfl⟩ := List.exists_cons_of_ne_nil some_left
        have stopped := List.head?_dropWhile_not Scan.isBreak text
        rw [rest_eq] at stopped
        simp [ends c rfl] at stopped
      subst nothing
      rw [← gap_and_rest]
      exact ⟨[], .done (by simpa using breaks)⟩
    · have shorter : rest.length < n := by
        have own_size := List.length_pos_iff.mpr nonempty
        rw [← size, ← gap_and_rest, List.length_append, List.length_append]
        omega
      obtain ⟨passages, later⟩ :=
        ih rest.length shorter (before ++ text.takeWhile Scan.isBreak ++ own) rest rfl
      rw [← gap_and_rest]
      exact ⟨_, .record breaks nonempty written ends later⟩

end

/-! ## What is read is what is there -/

theorem length_utf8_cons (c : Char) (text : List Char) :
    (utf8 (c :: text)).length = c.utf8Size + (utf8 text).length := by
  simp [utf8]

theorem utf8_append (one other : List Char) : utf8 (one ++ other) = utf8 one ++ utf8 other :=
  List.flatMap_append

theorem length_utf8_append (one other : List Char) :
    (utf8 (one ++ other)).length = (utf8 one).length + (utf8 other).length := by
  rw [utf8_append, List.length_append]

theorem length_utf8_le_append (one other : List Char) :
    (utf8 one).length ≤ (utf8 (one ++ other)).length := by
  rw [length_utf8_append]
  exact Nat.le_add_right _ _

theorem utf8Size_of_isBreak {c : Char} (breaks : Scan.isBreak c = true) : c.utf8Size = 1 := by
  simp only [Scan.isBreak, Bool.or_eq_true, beq_iff_eq] at breaks
  rcases breaks with rfl | rfl <;> rfl

/-- Where the reader stands outside quotes within a record. -/
def Place.IsPlain (place : Place) : Prop :=
  place = .fieldStart ∨ place = .inField ∨ place = .afterQuote

namespace Scan

section

variable {delimiter : Delimiter} {s : Scan} {text written : List Char}

theorem foldl_of_isPlain (plain : IsPlain delimiter text) (inside : s.place = .inField) :
    text.foldl (step delimiter) s =
      { s with offset := s.offset + (utf8 text).length, field := text.reverse ++ s.field } := by
  induction text generalizing s with
  | nil => rfl
  | cons c text ih =>
    obtain ⟨⟨not_delimiter, not_break⟩, later⟩ := List.forall_mem_cons.mp plain
    have one : step delimiter s c =
        { s with offset := s.offset + c.utf8Size, field := c :: s.field } := by
      simp [step, react, inside, Scan.plain, not_delimiter, not_break, push]
    rw [List.foldl_cons, one, ih later (by exact inside), length_utf8_cons]
    simp [Nat.add_assoc]

theorem foldl_doubleQuotes (inside : s.place = .inQuotes) :
    (doubleQuotes text).foldl (step delimiter) s =
      { s with
        offset := s.offset + (utf8 (doubleQuotes text)).length
        field := text.reverse ++ s.field } := by
  induction text generalizing s with
  | nil => rfl
  | cons c text ih =>
    rw [doubleQuotes]
    split
    · next quote =>
      subst quote
      have two : step delimiter (step delimiter s '"') '"' =
          { s with
            offset := s.offset + '"'.utf8Size + '"'.utf8Size
            field := '"' :: s.field } := by
        simp [step, react, inside, push]
      rw [List.foldl_cons, List.foldl_cons, two, ih (by exact inside), length_utf8_cons,
        length_utf8_cons]
      simp [Nat.add_assoc]
    · next other =>
      have one : step delimiter s c =
          { s with offset := s.offset + c.utf8Size, field := c :: s.field } := by
        simp [step, react, inside, other, push]
      rw [List.foldl_cons, one, ih (by exact inside), length_utf8_cons]
      simp [Nat.add_assoc]

/-- Plain characters at the start of a field or behind a closing quote. -/
theorem foldl_of_unquoted (plain : IsPlain delimiter text) (unquoted : text.head? ≠ some '"')
    (opens : s.place = .fieldStart ∨ s.place = .afterQuote) :
    ∃ place, place.IsPlain ∧ text.foldl (step delimiter) s =
      { s with
        place
        offset := s.offset + (utf8 text).length
        field := text.reverse ++ s.field } := by
  cases text with
  | nil => exact ⟨s.place, opens.imp_right .inr, rfl⟩
  | cons c text =>
    obtain ⟨⟨not_delimiter, not_break⟩, later⟩ := List.forall_mem_cons.mp plain
    have not_quote : c ≠ '"' := fun quote => unquoted (quote ▸ rfl)
    have one : step delimiter s c = { s with
        place := .inField
        offset := s.offset + c.utf8Size
        field := c :: s.field } := by
      rcases opens with opens | opens <;>
        simp [step, react, opens, first, Scan.plain, not_quote, not_delimiter, not_break, push]
    refine ⟨.inField, .inr (.inl rfl), ?_⟩
    rw [List.foldl_cons, one, foldl_of_isPlain later rfl, length_utf8_cons]
    simp [Nat.add_assoc]

theorem foldl_of_isField (field : IsField delimiter written text) (opens : s.place = .fieldStart) :
    ∃ place, place.IsPlain ∧ written.foldl (step delimiter) s =
      { s with
        place
        offset := s.offset + (utf8 written).length
        field := text.reverse ++ s.field } := by
  cases field with
  | plain plain unquoted => exact foldl_of_unquoted plain unquoted (.inl opens)
  | @quoted inner tail plain closed =>
    have opened : step delimiter s '"' =
        { s with place := .inQuotes, offset := s.offset + '"'.utf8Size } := by
      simp [step, react, opens, first]
    rw [List.foldl_cons, opened, List.foldl_append, foldl_doubleQuotes rfl, List.foldl_cons]
    -- Behind the closing quote the field goes on as a plain one.
    obtain ⟨place, is_plain, tail_read⟩ := foldl_of_unquoted (s := { s with
        place := .afterQuote
        offset := s.offset + '"'.utf8Size + (utf8 (doubleQuotes inner)).length + '"'.utf8Size
        field := inner.reverse ++ s.field }) plain closed (.inr rfl)
    refine ⟨place, is_plain, Eq.trans ?_ (tail_read.trans ?_)⟩
    · simp [step, react]
    · simp [length_utf8_cons, length_utf8_append, Nat.add_assoc]

/-- Outside quotes a delimiter ends the field and a line end the record. -/
theorem step_delimiter (distinct : delimiter.IsDistinct) (is_plain : s.place.IsPlain) :
    step delimiter s delimiter.char =
      { s.closeField with offset := s.offset + delimiter.char.utf8Size } := by
  rcases is_plain with here | here | here <;>
    simp [step, react, here, first, Scan.plain, distinct.quote]

theorem step_of_isBreak (distinct : delimiter.IsDistinct) (is_plain : s.place.IsPlain) {c : Char}
    (breaks : isBreak c = true) :
    step delimiter s c = { s.closeRecord with offset := s.offset + 1 } := by
  have one_byte := utf8Size_of_isBreak breaks
  simp only [isBreak, Bool.or_eq_true, beq_iff_eq] at breaks
  have not_quote : c ≠ '"' := by rcases breaks with rfl | rfl <;> decide
  have not_delimiter : c ≠ delimiter.char := by
    rcases breaks with rfl | rfl
    · exact distinct.carriageReturn.symm
    · exact distinct.lineFeed.symm
  rcases is_plain with here | here | here <;>
    simp [step, react, here, first, Scan.plain, not_quote, not_delimiter, isBreak, breaks, one_byte]

/-- The fields of a record are read one by one, up to the last one, which stays open. -/
theorem foldl_of_areFields (distinct : delimiter.IsDistinct) {atEnd : Prop} {fields : List String}
    (are_fields : AreFields delimiter atEnd written fields) (opens : s.place = .fieldStart)
    (empty : s.field = []) :
    ∃ place earlier text, fields = earlier ++ [String.ofList text] ∧
      (place.IsPlain ∨ place = .inQuotes ∧ atEnd) ∧
      written.foldl (step delimiter) s =
        { s with
          place
          offset := s.offset + (utf8 written).length
          field := text.reverse
          fields := earlier.reverse ++ s.fields } := by
  -- The induction is on the fields, each of which starts where the delimiter in front of it was
  -- read.
  induction are_fields generalizing s with
  | @last written text field =>
    obtain ⟨place, is_plain, read⟩ := foldl_of_isField field opens
    refine ⟨place, [], text, rfl, .inl is_plain, ?_⟩
    rw [read, empty]
    simp
  | @unclosed text nothing_behind =>
    have opened : step delimiter s '"' =
        { s with place := .inQuotes, offset := s.offset + '"'.utf8Size } := by
      simp [step, react, opens, first]
    refine ⟨.inQuotes, [], text, rfl, .inr ⟨rfl, nothing_behind⟩, ?_⟩
    rw [List.foldl_cons, opened, foldl_doubleQuotes rfl, length_utf8_cons, empty]
    simp [Nat.add_assoc]
  | @more written text rest fields field later ih =>
    obtain ⟨place, is_plain, read⟩ := foldl_of_isField field opens
    rw [List.foldl_append, read, List.foldl_cons, step_delimiter distinct is_plain]
    obtain ⟨place, earlier, last, rfl, ends, later_read⟩ := ih (s := { s with
        place := .fieldStart
        offset := s.offset + (utf8 written).length + delimiter.char.utf8Size
        field := []
        fields := String.ofList text :: s.fields }) rfl rfl
    refine ⟨place, String.ofList text :: earlier, last, rfl, ends, Eq.trans ?_
      (later_read.trans ?_)⟩
    · simp [closeField, empty]
    · simp [length_utf8_append, length_utf8_cons, Nat.add_assoc]

/-- Line ends between records are passed over. -/
theorem foldl_of_breaks (breaks : ∀ c ∈ text, isBreak c = true)
    (between : s.place = .betweenRecords) :
    text.foldl (step delimiter) s = { s with offset := s.offset + (utf8 text).length } := by
  induction text generalizing s with
  | nil => rfl
  | cons c text ih =>
    obtain ⟨here, later⟩ := List.forall_mem_cons.mp breaks
    have one : step delimiter s c = { s with offset := s.offset + c.utf8Size } := by
      simp [step, react, between, here]
    rw [List.foldl_cons, one, ih later (by exact between), length_utf8_cons]
    simp [Nat.add_assoc]

/-- The first character of a record opens it. -/
theorem foldl_eq_openRecord (nonempty : text ≠ []) (opens : ∀ c ∈ text.head?, isBreak c = false)
    (between : s.place = .betweenRecords) :
    text.foldl (step delimiter) s = text.foldl (step delimiter) s.openRecord := by
  obtain ⟨c, text, rfl⟩ := List.exists_cons_of_ne_nil nonempty
  have not_break : isBreak c = false := opens c rfl
  have same : step delimiter s c = step delimiter s.openRecord c := by
    simp [step, react, between, not_break, openRecord]
  rw [List.foldl_cons, List.foldl_cons, same]

/-- Where a record ends it makes no difference whether it was closed before. -/
theorem finish_foldl_eq_closeRecord (distinct : delimiter.IsDistinct)
    (closes : s.place.IsPlain ∨ s.place = .inQuotes ∧ text = [])
    (ends : ∀ c ∈ text.head?, isBreak c = true) :
    (text.foldl (step delimiter) s).finish =
      (text.foldl (step delimiter) s.closeRecord).finish := by
  cases text with
  | nil =>
    rcases closes with (here | here | here) | ⟨here, -⟩ <;> simp [finish, here, closeRecord]
  | cons c text =>
    have breaks : isBreak c = true := ends c rfl
    have is_plain : s.place.IsPlain := closes.resolve_right fun ⟨_, impossible⟩ => by
      cases impossible
    have same : step delimiter s c = step delimiter s.closeRecord c := by
      rw [step_of_isBreak distinct is_plain breaks]
      simp [step, react, closeRecord, breaks, utf8Size_of_isBreak breaks]
    rw [List.foldl_cons, List.foldl_cons, same]

end

end Scan

section

variable {delimiter : Delimiter} {before rest own written text : List Char}
  {passages : List Passage}

theorem Delimiter.IsDistinct.isBreak_char (distinct : delimiter.IsDistinct) :
    Scan.isBreak delimiter.char = false := by
  simp [Scan.isBreak, distinct.carriageReturn, distinct.lineFeed]

theorem IsField.isBreak_of_head? (field : IsField delimiter written text) :
    ∀ c ∈ written.head?, Scan.isBreak c = false := by
  intro c first
  cases field with
  | plain plain => exact (plain c (List.mem_of_mem_head? first)).2
  | quoted =>
    obtain rfl := Option.some.inj first
    rfl

/-- No record starts with a line end. -/
theorem AreFields.isBreak_of_head? (distinct : delimiter.IsDistinct) {atEnd : Prop}
    {fields : List String} (are_fields : AreFields delimiter atEnd own fields) :
    ∀ c ∈ own.head?, Scan.isBreak c = false := by
  intro c first
  cases are_fields with
  | last field => exact field.isBreak_of_head? c first
  | unclosed =>
    obtain rfl := Option.some.inj first
    rfl
  | @more written _ _ _ field =>
    cases written with
    | nil =>
      obtain rfl := Option.some.inj first
      exact distinct.isBreak_char
    | cons => exact field.isBreak_of_head? c first

theorem AreFields.isBreak_of_head?_append (distinct : delimiter.IsDistinct) {atEnd : Prop}
    {fields : List String} (are_fields : AreFields delimiter atEnd own fields)
    (nonempty : own ≠ []) (rest : List Char) :
    ∀ c ∈ (own ++ rest).head?, Scan.isBreak c = false := by
  rw [List.head?_append_of_ne_nil own nonempty]
  exact are_fields.isBreak_of_head? distinct

/-- The records of some passages, when the characters up to the first of them have so many bytes. -/
def recordsOf (start : Nat) : List Passage → List Record
  | [] => []
  | passage :: passages => ⟨start, passage.fields⟩ :: recordsOf (passage.stop + 1) passages

/-- Between records, what is read from then on are the records of the text that is left. -/
theorem Divided.finish_foldl (distinct : delimiter.IsDistinct)
    (divided : Divided delimiter before rest passages) {s : Scan}
    (between : s.place = .betweenRecords) (no_field : s.field = []) (no_fields : s.fields = [])
    (reached : s.offset = (utf8 before).length) :
    (rest.foldl (Scan.step delimiter) s).finish =
      s.records.reverse ++ recordsOf s.start passages := by
  induction divided generalizing s with
  | done breaks =>
    rw [Scan.foldl_of_breaks breaks between]
    simp [Scan.finish, between, recordsOf]
  | @record before gap own rest fields passages breaks nonempty written ends later ih =>
    have opens := written.isBreak_of_head? distinct
    -- The record is closed before its line end is read, which is then passed over like any other.
    obtain ⟨place, earlier, text, rfl, closes, own_read⟩ := Scan.foldl_of_areFields (s := { s with
        place := .fieldStart
        offset := s.offset + (utf8 gap).length }) distinct written rfl no_field
    rw [List.foldl_append, Scan.foldl_of_breaks breaks between, List.foldl_append,
      Scan.foldl_eq_openRecord nonempty opens (by exact between), Scan.openRecord, own_read,
      Scan.finish_foldl_eq_closeRecord distinct closes ends, ih rfl rfl rfl]
    · simp [Scan.closeRecord, recordsOf, Passage.stop, no_fields, reached, length_utf8_append,
        Nat.add_assoc]
    · simp [Scan.closeRecord, reached, length_utf8_append, Nat.add_assoc]

/-- The records that are read are those into which the text is divided. -/
theorem Record.ofText_eq (distinct : delimiter.IsDistinct)
    (divided : Divided delimiter before rest passages) :
    Record.ofText delimiter (utf8 before).length rest = recordsOf 0 passages :=
  divided.finish_foldl distinct rfl rfl rfl rfl

end

end PaymentRules
