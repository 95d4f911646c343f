import Mathlib.Data.List.Forall2
import PaymentRules.Proofs.Except
import PaymentRules.Proofs.Sheet.Names
import PaymentRules.Proofs.Sheet.Passages
import PaymentRules.Sheet.Reader

/-!
# Source lines

Whoever corrects a rule file looks for a line of it, and the number of the line has to be that of an
editor, whatever stands in the file: empty lines that make no row, line ends of two characters, and
line feeds in quotes.

Lines are counted while the records go by, each from where the last one started. The count is exact
at every moment, wherever the counter is moved to. It is moved to the first byte of a record, since
what stands between the end of a record and the start of the next one are line ends, and no byte of
another character is taken for one.

## Main definitions

* `lineAt` — the line on which a byte stands
* `DividedText` — a whole text that is divided into records
* `Passage.IsRow` — the row that a record becomes
* `Passage.EndsLine` — a record that ends with a line

## Main results

* `LineCounter.IsExact.moveTo` — the count stays exact
* `source_lines_are_exact` — the rows of a file that is read, with their lines
-/

namespace PaymentRules

open Sheet (doubleQuotes)

/-- The line on which the byte at an offset stands: there are as many line feeds before it as there
are lines above. -/
def lineAt (data : List UInt8) (offset : Nat) : Nat :=
  1 + (data.take offset).count 10

/-- A whole text is divided into records. The mark that it may start with belongs to none of
them. -/
inductive DividedText (delimiter : Delimiter) : List Char → List Passage → Prop
  | marked {text : List Char} {passages : List Passage}
      (divided : Divided delimiter ['\ufeff'] text passages) :
      DividedText delimiter ('\ufeff' :: text) passages
  | plain {text : List Char} {passages : List Passage} (unmarked : text.head? ≠ some '\ufeff')
      (divided : Divided delimiter [] text passages) : DividedText delimiter text passages

namespace Passage

/-- The row of a record has its fields for cells, trimmed, and more empty ones when they are fewer
than the columns. It is on the line of the first byte of the record. -/
structure IsRow (header : Header) (data : List UInt8) (row : Row) (passage : Passage) : Prop where
  cells : row.cells = passage.fields.map Text.trim ++
    List.replicate (header.width - passage.fields.length) ""
  wide : header.width ≤ row.cells.length
  line : row.line = lineAt data passage.start

/-- Behind the record there is a line feed, also one with a carriage return, or nothing. -/
def EndsLine (passage : Passage) : Prop :=
  passage.after = [] ∨ passage.after.head? = some '\n' ∨ ['\r', '\n'] <+: passage.after

end Passage

/-! ## Counting -/

section

variable {data : List UInt8} {counter : LineCounter}

theorem lineAt_mono {one other : Nat} (le : one ≤ other) : lineAt data one ≤ lineAt data other :=
  Nat.add_le_add_left ((List.take_sublist_take_left le).count_le 10) 1

/-- From one byte to a later one, the line feeds between them are counted. -/
theorem lineAt_add (offset n : Nat) :
    lineAt data (offset + n) = lineAt data offset + ((data.drop offset).take n).count 10 := by
  rw [lineAt, lineAt, List.take_add, List.count_append, Nat.add_assoc]

namespace LineCounter

/-- The counter has the line at which it is. -/
def IsExact (data : List UInt8) (counter : LineCounter) : Prop :=
  counter.line = lineAt data counter.offset

theorem isExact_initial : initial.IsExact data := rfl

/-- Only the bytes that are passed have to be looked at. -/
theorem IsExact.moveTo (exact : counter.IsExact data) (start : Nat) :
    (counter.moveTo data start).IsExact data := by
  simp only [LineCounter.moveTo]
  split
  · next behind =>
    rw [IsExact, exact, ← lineAt_add, Nat.add_sub_cancel' behind.le]
  · exact exact

/-- The counter passes over line ends, up to the first byte of another kind. -/
theorem offset_moveTo {before breaks rest : List UInt8}
    (data_eq : data = before ++ (breaks ++ rest)) (each : ∀ byte ∈ breaks, isBreak byte = true)
    (stops : ∀ byte ∈ rest.head?, isBreak byte = false) (behind : counter.offset < before.length) :
    (counter.moveTo data before.length).offset = (before ++ breaks).length := by
  have none_more : rest.takeWhile isBreak = [] := by
    cases rest with
    | nil => rfl
    | cons byte rest => rw [List.takeWhile_cons, stops byte rfl, if_neg Bool.false_ne_true]
  have passed : (data.drop before.length).takeWhile isBreak = breaks := by
    rw [data_eq, List.drop_left, List.takeWhile_append_of_pos each, none_more, List.append_nil]
  have inside : (before ++ breaks).length ≤ data.length := by
    simp [data_eq]
  simp only [moveTo, passed, ← List.length_append, Nat.min_eq_left inside]
  rw [if_pos]
  rw [List.length_append]
  omega

end LineCounter

end

/-! ## Bytes of line ends -/

/-- A character that starts with a byte below 128 is that byte. -/
theorem toNat_of_head?_utf8EncodeChar {c : Char} {byte : UInt8}
    (first : byte ∈ (String.utf8EncodeChar c).head?) (ascii : byte.toNat < 128) :
    c.toNat = byte.toNat := by
  revert first
  fun_cases String.utf8EncodeChar c with
  | case1 v small =>
    rintro ⟨⟩
    have small : c.toNat ≤ 127 := small
    change c.toNat = (UInt8.ofNat c.toNat).toNat
    rw [UInt8.toNat_ofNat']
    omega
  | case2 | case3 | case4 =>
    -- A longer code starts with a larger byte.
    rintro ⟨⟩
    rw [UInt8.toNat_ofNat'] at ascii
    omega

/-- A line end is one byte, which ends a record. -/
theorem isBreak_of_mem_utf8 {text : List Char} (breaks : ∀ c ∈ text, Scan.isBreak c = true) :
    ∀ byte ∈ utf8 text, LineCounter.isBreak byte = true := by
  intro byte listed
  obtain ⟨c, among, own⟩ := List.mem_flatMap.mp listed
  have here := breaks c among
  simp only [Scan.isBreak, Bool.or_eq_true, beq_iff_eq] at here
  rcases here with rfl | rfl <;> obtain rfl := List.mem_singleton.mp own <;> rfl

/-- No other character starts with such a byte. -/
theorem isBreak_of_head?_utf8 {text : List Char}
    (opens : ∀ c ∈ text.head?, Scan.isBreak c = false) :
    ∀ byte ∈ (utf8 text).head?, LineCounter.isBreak byte = false := by
  intro byte first
  cases text with
  | nil => cases first
  | cons c text =>
    have other := opens c rfl
    have own : byte ∈ (String.utf8EncodeChar c).head? := by
      obtain ⟨initial, code, code_eq⟩ :=
        List.exists_cons_of_ne_nil (@String.utf8EncodeChar_ne_nil c)
      rw [utf8, List.flatMap_cons, code_eq] at first
      rwa [code_eq]
    by_contra is_break
    rw [Bool.not_eq_false] at is_break
    simp only [LineCounter.isBreak, Bool.or_eq_true, beq_iff_eq] at is_break
    rcases is_break with rfl | rfl
    · obtain rfl : c = '\r' := Char.toNat_inj.mp (toNat_of_head?_utf8EncodeChar own (by decide))
      cases other
    · obtain rfl : c = '\n' := Char.toNat_inj.mp (toNat_of_head?_utf8EncodeChar own (by decide))
      cases other

theorem toList_toUTF8 (text : String) : text.toUTF8.data.toList = utf8 text.toList := by
  have encoded : text.toUTF8 = text.toList.utf8Encode := by
    rw [String.toUTF8_eq_toByteArray, ← String.toByteArray_ofList, String.ofList_toList]
  rw [encoded, List.utf8Encode, List.data_toByteArray]
  rfl

/-! ## Rows and records -/

section

variable {delimiter : Delimiter} {before rest : List Char} {passages : List Passage}
  {data : List UInt8}

/-- The rows that are made of records have their places. -/
theorem Divided.forall₂_rowsOfRecords (distinct : delimiter.IsDistinct) (header : Header)
    (divided : Divided delimiter before rest passages) (data_eq : data = utf8 (before ++ rest))
    (ends : ∀ c ∈ rest.head?, Scan.isBreak c = true) {counter : LineCounter}
    (exact_counter : counter.IsExact data) (behind : counter.offset ≤ (utf8 before).length) :
    List.Forall₂ (Passage.IsRow header data)
      (Sheet.rowsOfRecords header.width data counter
        (recordsOf ((utf8 before).length + 1) passages)) passages := by
  induction divided generalizing counter with
  | done => exact .nil
  | @record before gap own rest fields passages breaks nonempty written ends' later ih =>
    have opens := written.isBreak_of_head?_append distinct nonempty rest
    -- One line end belongs to the record in front, and the others are passed over.
    obtain ⟨line_end, gap, rfl⟩ : ∃ c more, gap = c :: more := by
      refine List.exists_cons_of_ne_nil fun nothing => ?_
      subst nothing
      obtain ⟨c, own, rfl⟩ := List.exists_cons_of_ne_nil nonempty
      have contradictory := (opens c rfl).symm.trans (ends c rfl)
      cases contradictory
    obtain ⟨here, further⟩ := List.forall_mem_cons.mp breaks
    have start_eq : (utf8 before).length + 1 = (utf8 (before ++ [line_end])).length := by
      rw [length_utf8_append, length_utf8_cons, utf8Size_of_isBreak here]
      rfl
    have parts : data = utf8 (before ++ [line_end]) ++ (utf8 gap ++ utf8 (own ++ rest)) := by
      rw [data_eq, ← utf8_append, ← utf8_append]
      simp
    have reached : (counter.moveTo data ((utf8 before).length + 1)).offset =
        (utf8 (before ++ line_end :: gap)).length := by
      rw [start_eq, LineCounter.offset_moveTo parts (isBreak_of_mem_utf8 further)
        (isBreak_of_head?_utf8 opens) (by omega), ← utf8_append]
      simp
    refine .cons ⟨?_, Sheet.width_le_length_rowOfRecord _ _ _, ?_⟩ (ih ?_ ends' ?_ ?_)
    · simp [Sheet.rowOfRecord]
    · exact (exact_counter.moveTo _).trans (congrArg (lineAt data) reached)
    · rw [data_eq]
      simp
    · exact exact_counter.moveTo _
    · rw [reached]
      exact length_utf8_le_append _ own

theorem Divided.length_le_start (divided : Divided delimiter before rest passages) :
    ∀ passage ∈ passages, (utf8 before).length ≤ passage.start := by
  induction divided with
  | done => nofun
  | @record before gap own _ _ _ _ _ _ _ _ ih =>
    have to_start := length_utf8_le_append before gap
    have to_stop := length_utf8_le_append (before ++ gap) own
    exact List.forall_mem_cons.mpr ⟨to_start, fun passage listed =>
      (to_start.trans to_stop).trans (ih passage listed)⟩

/-- Nothing is left behind the last record. -/
theorem Divided.eq_nil (divided : Divided delimiter before rest passages) (nothing : rest = []) :
    passages = [] := by
  cases divided with
  | done => rfl
  | record _ nonempty =>
    rw [List.append_eq_nil_iff, List.append_eq_nil_iff] at nothing
    exact absurd nothing.2.1 nonempty

/-- Records stand in the order in which they start. -/
theorem Divided.pairwise_start (divided : Divided delimiter before rest passages) :
    passages.Pairwise fun one other => one.start ≤ other.start := by
  induction divided with
  | done => exact .nil
  | record _ _ _ _ later ih =>
    exact List.pairwise_cons.mpr ⟨fun passage listed =>
      (length_utf8_le_append _ _).trans (later.length_le_start passage listed), ih⟩

/-- A line feed that ends a line is passed over in front of the next record. -/
theorem mem_gap_of_line_end {gap rest : List Char}
    (opens : ∀ c ∈ rest.head?, Scan.isBreak c = false)
    (line_end : (gap ++ rest).head? = some '\n' ∨ ['\r', '\n'] <+: gap ++ rest) : '\n' ∈ gap := by
  have not_feed : rest.head? ≠ some '\n' := fun feed => by cases opens '\n' feed
  have not_return : rest.head? ≠ some '\r' := fun feed => by cases opens '\r' feed
  rcases gap with _ | ⟨c, _ | ⟨d, gap⟩⟩
  · rcases line_end with feed | ⟨more, both⟩
    · exact absurd feed not_feed
    · obtain rfl : '\r' :: '\n' :: more = rest := both
      exact absurd rfl not_return
  · rcases line_end with feed | ⟨more, both⟩
    · simpa using feed.symm
    · obtain rfl : '\n' :: more = rest := (List.cons.inj both).2
      exact absurd rfl not_feed
  · rcases line_end with feed | ⟨more, both⟩
    · simp_all
    · obtain ⟨-, both⟩ := List.cons.inj both
      obtain ⟨rfl, -⟩ := List.cons.inj both
      simp

/-- Behind a record that ends its line every other one stands on a later line. -/
theorem Divided.lt_lineAt (distinct : delimiter.IsDistinct)
    (divided : Divided delimiter before rest passages) (data_eq : data = utf8 (before ++ rest))
    (line_end : rest.head? = some '\n' ∨ ['\r', '\n'] <+: rest) :
    ∀ passage ∈ passages, lineAt data (utf8 before).length < lineAt data passage.start := by
  cases divided with
  | done => nofun
  | @record before gap own rest fields passages breaks nonempty written ends later =>
    have opens := written.isBreak_of_head?_append distinct nonempty rest
    have feed : 10 ∈ utf8 gap :=
      List.mem_flatMap.mpr ⟨'\n', mem_gap_of_line_end opens line_end, by decide⟩
    have passed : (data.drop (utf8 before).length).take (utf8 gap).length = utf8 gap := by
      rw [data_eq, utf8_append, List.drop_left, utf8_append, List.take_left]
    have first_line : lineAt data (utf8 before).length <
        lineAt data (utf8 (before ++ gap)).length := by
      rw [length_utf8_append, lineAt_add, passed]
      exact Nat.lt_add_of_pos_right (List.count_pos_iff.mpr feed)
    refine List.forall_mem_cons.mpr ⟨first_line, fun passage listed => first_line.trans_le ?_⟩
    exact lineAt_mono
      ((length_utf8_le_append _ own).trans (later.length_le_start passage listed))

/-- When every record ends its line, no two records stand on the same line. -/
theorem Divided.pairwise_lineAt (distinct : delimiter.IsDistinct)
    (divided : Divided delimiter before rest passages) (data_eq : data = utf8 (before ++ rest))
    (each : ∀ passage ∈ passages, passage.EndsLine) :
    passages.Pairwise fun one other => lineAt data one.start < lineAt data other.start := by
  induction divided with
  | done => exact .nil
  | @record before gap own rest fields passages breaks nonempty written ends later ih =>
    obtain ⟨here, further⟩ := List.forall_mem_cons.mp each
    have data_eq : data = utf8 (before ++ gap ++ own ++ rest) := by simpa using data_eq
    refine List.pairwise_cons.mpr ⟨fun passage listed => ?_, ih data_eq further⟩
    rcases here with nothing | line_end
    · rw [later.eq_nil nothing] at listed
      cases listed
    · have below_stop := later.lt_lineAt distinct data_eq line_end passage listed
      exact (lineAt_mono (length_utf8_le_append (before ++ gap) own)).trans_lt below_stop

end

/-! ## Files -/

section

variable {delimiter : Delimiter} {text : List Char} {passages : List Passage}

theorem exists_dividedText (delimiter : Delimiter) (text : List Char) :
    ∃ passages, DividedText delimiter text passages := by
  by_cases mark : text.head? = some '\ufeff'
  · obtain ⟨text, rfl⟩ := List.head?_eq_some_iff.mp mark
    obtain ⟨passages, divided⟩ := exists_divided delimiter ['\ufeff'] text
    exact ⟨passages, .marked divided⟩
  · obtain ⟨passages, divided⟩ := exists_divided delimiter [] text
    exact ⟨passages, .plain mark divided⟩

/-- The mark of a text is counted and not read. -/
theorem DividedText.exists_splitMark (divided : DividedText delimiter text passages) :
    ∃ mark body, text = mark ++ body ∧ Sheet.splitMark text = ((utf8 mark).length, body) ∧
      Divided delimiter mark body passages := by
  cases divided with
  | @marked text _ divided => exact ⟨['\ufeff'], text, rfl, rfl, divided⟩
  | plain unmarked divided =>
    refine ⟨[], text, rfl, ?_, divided⟩
    unfold Sheet.splitMark
    split
    · exact absurd rfl unmarked
    · rfl

/-- The bytes of a file that is read are those of a text. -/
theorem Sheet.exists_of_ofBytes {bytes : ByteArray} {sheet : Sheet}
    (loaded : ofBytes delimiter bytes = .ok sheet) :
    ∃ text : String, text.toUTF8 = bytes ∧ ofText delimiter text = .ok sheet := by
  rw [ofBytes] at loaded
  split at loaded
  · next text decoded =>
    rw [String.fromUTF8?] at decoded
    split at decoded
    · obtain rfl := Option.some.inj decoded
      exact ⟨_, rfl, loaded⟩
    · cases decoded
  · cases loaded

/-- The first record of some bytes is the header, and the other ones are the rows. -/
theorem Sheet.of_ofRecords {data : List UInt8} {record : Record} {records : List Record}
    {sheet : Sheet} (read : ofRecords data (record :: records) = .ok sheet) :
    sheet.header.names = record.fields.map Text.trim ∧
      sheet.rows = rowsOfRecords sheet.header.width data .initial records := by
  rw [ofRecords, Except.bind_eq_ok_iff] at read
  obtain ⟨header, named, same⟩ := read
  obtain rfl := Except.ok.inj same
  exact ⟨Header.ofNames_eq_ok_iff.mp named, rfl⟩

/-- The lines of the rows are those on which their records start. -/
theorem map_line_eq {header : Header} {data : List UInt8} {rows : List Row}
    (each : List.Forall₂ (Passage.IsRow header data) rows passages) :
    rows.map (·.line) = passages.map fun passage => lineAt data passage.start := by
  rw [← List.forall₂_eq_eq_eq, List.forall₂_map_left_iff, List.forall₂_map_right_iff]
  exact each.imp fun _ _ is_row => is_row.line

end

/-- A file that is read with a delimiter of its own is a text, which is divided into records. The
first record is the header and every other one a row, at least as wide as the header and on the line
on which the first byte of its record stands in the file. So lines never decrease, and when every
record ends with a line feed, also one behind a carriage return, they increase and are all below the
line of the header. -/
theorem source_lines_are_exact {delimiter : Delimiter} (distinct : delimiter.IsDistinct)
    {bytes : ByteArray} {sheet : Sheet} (loaded : Sheet.ofBytes delimiter bytes = .ok sheet) :
    ∃ text : String, text.toUTF8 = bytes ∧
      (∃ passages, DividedText delimiter text.toList passages) ∧
      ∀ passages, DividedText delimiter text.toList passages →
        ∃ first later, passages = first :: later ∧
          sheet.header.names = first.fields.map Text.trim ∧
          List.Forall₂ (Passage.IsRow sheet.header bytes.data.toList) sheet.rows later ∧
          (sheet.rows.map (·.line)).Pairwise (· ≤ ·) ∧
          ((∀ passage ∈ passages, passage.EndsLine) →
            (sheet.rows.map (·.line)).Pairwise (· < ·) ∧ ∀ row ∈ sheet.rows, 1 < row.line) := by
  obtain ⟨text, encoded, loaded⟩ := Sheet.exists_of_ofBytes loaded
  refine ⟨text, encoded, exists_dividedText delimiter text.toList, fun passages divided_text => ?_⟩
  obtain ⟨mark, body, text_eq, split_eq, divided⟩ := divided_text.exists_splitMark
  have data_eq : bytes.data.toList = utf8 (mark ++ body) := by
    rw [← encoded, toList_toUTF8, text_eq]
  simp only [Sheet.ofText, split_eq, encoded, Record.ofText_eq distinct divided] at loaded
  have starts := divided.pairwise_start
  have lines_increase := divided.pairwise_lineAt distinct data_eq
  cases divided with
  | done => cases loaded
  | @record _ gap own rest fields later breaks nonempty written ends divided =>
    obtain ⟨names, rows_eq⟩ := Sheet.of_ofRecords loaded
    -- No line is asked for the header, so that the counter is still at the first byte.
    have rows : List.Forall₂ (Passage.IsRow sheet.header bytes.data.toList) sheet.rows later := by
      rw [rows_eq]
      exact divided.forall₂_rowsOfRecords distinct sheet.header (by simpa using data_eq) ends
        LineCounter.isExact_initial (Nat.zero_le _)
    refine ⟨_, later, rfl, names, rows, ?_, fun each => ?_⟩
    · rw [map_line_eq rows, List.pairwise_map]
      exact (List.pairwise_cons.mp starts).2.imp lineAt_mono
    · obtain ⟨below_header, below_another⟩ := List.pairwise_cons.mp (lines_increase each)
      constructor
      · rw [map_line_eq rows, List.pairwise_map]
        exact below_another
      · intro row listed
        have line_listed := List.mem_map_of_mem (f := (·.line)) listed
        rw [map_line_eq rows] at line_listed
        obtain ⟨passage, among, line_eq⟩ := List.mem_map.mp line_listed
        rw [← line_eq]
        exact (Nat.le_add_right 1 _).trans_lt (below_header passage among)

/-- A header, an empty line, a row that goes over two lines, and a row without a line end. -/
def brokenText : String :=
  "Name\r\n\r\n\"two\nlines\"\nmc"

/-- The line ends of this text are line feeds, some of them behind a carriage return. -/
theorem exists_dividedText_brokenText :
    ∃ passages, DividedText .comma brokenText.toList passages ∧
      ∀ passage ∈ passages, passage.EndsLine := by
  have name : IsField .comma "Name".toList "Name".toList :=
    .plain (by simp [IsPlain, Delimiter.comma, Scan.isBreak]) (by simp)
  have lines : IsField .comma ('"' :: (doubleQuotes "two\nlines".toList ++ ['"']))
      ("two\nlines".toList ++ []) := .quoted (by simp [IsPlain]) (by simp)
  have card : IsField .comma "mc".toList "mc".toList :=
    .plain (by simp [IsPlain, Delimiter.comma, Scan.isBreak]) (by simp)
  -- The records, each behind the line ends that are passed over.
  have parts : brokenText.toList = [] ++ ("Name".toList ++ ("\r\n\r\n".toList ++
      ('"' :: (doubleQuotes "two\nlines".toList ++ ['"']) ++ ("\n".toList ++
        ("mc".toList ++ []))))) := by
    decide
  have third (before : List Char) : Divided .comma before ("\n".toList ++ ("mc".toList ++ [])) _ :=
    .record (by simp [Scan.isBreak]) (by simp) (.last card) (by simp) (.done (by simp))
  have second (before : List Char) : Divided .comma before ("\r\n\r\n".toList ++ _) _ :=
    .record (by simp [Scan.isBreak]) (by simp) (.last lines) (by simp [Scan.isBreak]) (third _)
  have first : Divided .comma [] ([] ++ ("Name".toList ++ _)) _ :=
    .record (by simp) (by simp) (.last name) (by simp [Scan.isBreak]) (second _)
  rw [parts]
  refine ⟨_, .plain (by simp) first, ?_⟩
  simp [Passage.EndsLine]

/-- The two rows start on the third and on the fifth line of the text. -/
theorem source_lines_are_exact_of_brokenText :
    ∃ sheet : Sheet, Sheet.ofBytes .comma brokenText.toUTF8 = .ok sheet ∧
      (sheet.rows.map fun row => (row.line, row.cells)) = [(3, ["two\nlines"]), (5, ["mc"])] ∧
      (sheet.rows.map (·.line)).Pairwise (· < ·) ∧ ∀ row ∈ sheet.rows, 1 < row.line := by
  have read : (Sheet.ofBytes .comma brokenText.toUTF8).map (fun sheet =>
      sheet.rows.map fun row => (row.line, row.cells)) =
        .ok [(3, ["two\nlines"]), (5, ["mc"])] := by
    decide +kernel
  obtain ⟨sheet, loaded, rows⟩ := Except.map_eq_ok_iff.mp read
  obtain ⟨text, encoded, -, of_text⟩ :=
    source_lines_are_exact ⟨by decide, by decide, by decide⟩ loaded
  obtain rfl : text = brokenText := String.toByteArray_inj.mp encoded
  obtain ⟨passages, divided, each⟩ := exists_dividedText_brokenText
  obtain ⟨_, _, _, _, _, _, increasing⟩ := of_text passages divided
  exact ⟨sheet, loaded, rows, increasing each⟩

end PaymentRules
