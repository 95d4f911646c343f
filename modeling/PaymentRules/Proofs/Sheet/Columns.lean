import Mathlib.Order.Bounds.Basic
import PaymentRules.Proofs.Sheet.Layout
import PaymentRules.Proofs.Sheet.Lists
import PaymentRules.Proofs.Sheet.Separators

/-!
# Lists in the columns of a sheet

A list is read down a column of a sheet, over the rows of a span. What is in it can be told from the
cells of the sheet alone. The rows with some text in the column have to be the topmost ones of the
span, and then every one of them gives a value of the list. Otherwise a list that has ended goes on
further down, or a name is not known, and of all rows where this is so the topmost one is the error.

A span may go beyond the last row. The sheet goes on with empty cells there, which belong to no
list.

## Main definitions

* `Sheet.rowAt` — the row at a position, also where the sheet has no row
* `Sheet.Offends` — what is wrong with a row of a span

## Main results

* `columnList_extract` — the rows of a span, wherever it ends
* `column_lists_lose_nothing` — when a list is read, what is in it, and which row is the error
-/

namespace PaymentRules

section

variable {α β : Type} {test : β → Bool} {f : α → β} {members : List α}

theorem standOnTop_map_iff : StandOnTop test (members.map f) ↔ StandOnTop (test ∘ f) members := by
  simp only [StandOnTop, List.getElem?_map, Option.map_eq_some_iff, forall_exists_index, and_imp,
    forall_apply_eq_imp_iff₂, Function.comp_apply]

end

variable {κ : Type} [RuleColumn κ]

/-! ## Rows at positions -/

/-- Rows without text at the end of a span are in no list. -/
theorem RuleRow.columnList_append_of_empty {column : κ} (rows : List (RuleRow κ))
    {below : List (RuleRow κ)} (empty : ∀ row ∈ below, row.cell column = "") :
    columnList column (rows ++ below) = columnList column rows := by
  induction below generalizing rows with
  | nil => rw [List.append_nil]
  | cons row below ih =>
    obtain ⟨here, behind⟩ := List.forall_mem_cons.mp empty
    rw [List.append_cons, ih _ behind, columnList_concat here]

namespace Sheet

/-- The row at a position as the family sees it. Beyond the last row it is one without cells. -/
def rowAt (κ : Type) [RuleColumn κ] (sheet : Sheet) (row : Nat) : RuleRow κ :=
  ruleRow sheet.header (sheet.rows[row]?.getD ⟨row + 2, []⟩)

/-- Whether a cell has some text. -/
def isFilled (sheet : Sheet) (index row : Nat) : Bool :=
  sheet.cell row index != ""

/-- What is wrong with a row of a span, in the column at an index. As long as the list goes on a
name has to be known, and below a cell without any text the list has ended. -/
inductive Offends (sheet : Sheet) (column : κ) (index : Nat) (span : Span) (row : Nat) :
    LoadError → Prop
  | unknown (inside : row ∈ span.rows)
      (goes_on : ∀ earlier ∈ span.rows, earlier < row → sheet.cell earlier index ≠ "")
      (unknown : Constant.IsUnknown (sheet.cell row index)) :
      Offends sheet column index span row
        (.unknownConstant (sheet.cell row index) (sheet.lineOf row))
  | detached (inside : row ∈ span.rows)
      (ended : ∃ earlier ∈ span.rows, earlier < row ∧ sheet.cell earlier index = "")
      (filled : sheet.cell row index ≠ "") :
      Offends sheet column index span row
        (.shape (RuleColumn.family κ) (sheet.lineOf row)
          (.detachedValue (sheet.cell row index) (Named.name column)))

variable {sheet : Sheet} {column : κ} {index row : Nat}

theorem Offends.inside {span : Span} {failure : LoadError}
    (offends : sheet.Offends column index span row failure) : row ∈ span.rows := by
  cases offends <;> assumption

theorem line_rowAt : (sheet.rowAt κ row).line = sheet.lineOf row := by
  rw [rowAt, lineOf, ruleRow]
  cases sheet.rows[row]? <;> rfl

theorem cell_rowAt (stands : sheet.header.names[index]? = some (Named.name column)) :
    (sheet.rowAt κ row).cell column = sheet.cell row index := by
  rw [rowAt, cell_ruleRow_of_getElem? stands, cell]
  cases sheet.rows[row]? <;> rfl

theorem columnName_rowAt (stands : sheet.header.names[index]? = some (Named.name column)) :
    (sheet.rowAt κ row).columnName column = Named.name column :=
  columnName_ruleRow_of_getElem? stands

theorem isFilled_rowAt (stands : sheet.header.names[index]? = some (Named.name column)) :
    RuleRow.isFilled column ∘ sheet.rowAt κ = sheet.isFilled index := by
  funext row
  rw [Function.comp_apply, RuleRow.isFilled, cell_rowAt stands, isFilled]

theorem cell_eq_empty_of_length_le (beyond : sheet.rows.length ≤ row) :
    sheet.cell row index = "" := by
  rw [cell, List.getElem?_eq_none beyond]

end Sheet

section

variable {sheet : Sheet} {rows : List (RuleRow κ)} {column : κ} {index row : Nat} {span : Span}
  {failure : LoadError}

/-- A list over a span is that of the rows at its positions, wherever the span ends. -/
theorem columnList_extract (seen : sheet.ruleRows κ = .ok rows)
    (stands : sheet.header.names[index]? = some (Named.name column)) (span : Span) :
    RuleRow.columnList column (rows.extract span.start span.stop) =
      RuleRow.columnList column (span.rows.map (sheet.rowAt κ)) := by
  generalize stretch_eq : rows.extract span.start span.stop = stretch
  obtain rfl := eq_map_of_ruleRows seen
  -- The positions of the span go on behind those of the stretch only where the sheet has no row.
  have size : stretch.length = min span.length (sheet.rows.length - span.start) := by
    simp [← stretch_eq, Span.length]
  have split_eq : span.rows = List.range' span.start stretch.length ++
      List.range' (span.start + stretch.length) (span.length - stretch.length) := by
    rw [List.range'_append_1, Span.rows]
    congr 1
    omega
  have within : (List.range' span.start stretch.length).map (sheet.rowAt κ) = stretch := by
    refine List.ext_getElem (by simp) fun i _ inside => ?_
    have stored : span.start + i < sheet.rows.length := by omega
    simp [← stretch_eq, Sheet.rowAt, stored]
  rw [split_eq, List.map_append, within, RuleRow.columnList_append_of_empty]
  intro other listed
  obtain ⟨position, among, rfl⟩ := List.mem_map.mp listed
  rw [List.mem_range'_1] at among
  rw [Sheet.cell_rowAt stands, Sheet.cell_eq_empty_of_length_le (by omega)]

/-- The rows of a span that stand above one of them are those at earlier positions. -/
theorem Span.mem_above_iff {above below : List Nat} (split_eq : span.rows = above ++ row :: below)
    {earlier : Nat} : earlier ∈ above ↔ earlier ∈ span.rows ∧ earlier < row := by
  have ascending := span.pairwise_rows
  rw [split_eq] at ascending ⊢
  obtain ⟨-, behind, in_order⟩ := List.pairwise_append.mp ascending
  constructor
  · exact fun listed => ⟨List.mem_append_left _ listed, in_order earlier listed row (by simp)⟩
  · rintro ⟨listed, further_up⟩
    rcases List.mem_append.mp listed with among | among
    · exact among
    · rcases List.mem_cons.mp among with rfl | further_down
      · exact absurd further_up (Nat.lt_irrefl _)
      · exact absurd further_up ((List.pairwise_cons.mp behind).1 earlier further_down).not_gt

/-- What is wrong with a row of a span is what is wrong with it below the rows above it. -/
theorem Sheet.offends_iff {above below : List Nat}
    (stands : sheet.header.names[index]? = some (Named.name column))
    (split_eq : span.rows = above ++ row :: below) :
    sheet.Offends column index span row failure ↔
      RuleRow.Offends column (above.map (sheet.rowAt κ)) (sheet.rowAt κ row) failure := by
  have inside : row ∈ span.rows := by simp [split_eq]
  have cell : ∀ row, (sheet.rowAt κ row).cell column = sheet.cell row index :=
    fun _ => cell_rowAt stands
  have line : ∀ row, (sheet.rowAt κ row).line = sheet.lineOf row := fun _ => line_rowAt
  have goes_on_iff : (∀ earlier ∈ above.map (sheet.rowAt κ), earlier.cell column ≠ "") ↔
      ∀ earlier ∈ span.rows, earlier < row → sheet.cell earlier index ≠ "" := by
    simp only [List.forall_mem_map, cell, Span.mem_above_iff split_eq, and_imp]
  have ended_iff : (∃ earlier ∈ above.map (sheet.rowAt κ), earlier.cell column = "") ↔
      ∃ earlier ∈ span.rows, earlier < row ∧ sheet.cell earlier index = "" := by
    simpa only [not_forall, ne_eq, not_not, exists_prop] using not_congr goes_on_iff
  constructor
  · rintro (⟨-, goes_on, unknown⟩ | ⟨-, ended, filled⟩)
    · rw [← cell] at unknown ⊢
      rw [← line]
      exact .unknown (goes_on_iff.mpr goes_on) unknown
    · rw [← cell] at filled ⊢
      rw [← line, ← columnName_rowAt stands]
      exact .detached (ended_iff.mpr ended) filled
  · rintro (⟨goes_on, unknown⟩ | ⟨ended, filled⟩)
    · rw [cell] at unknown ⊢
      rw [line]
      exact .unknown inside (goes_on_iff.mp goes_on) unknown
    · rw [RuleRow.flaw, line, cell, columnName_rowAt stands]
      rw [cell] at filled
      exact .detached inside (ended_iff.mp ended) filled

/-- A list is read down to a row of a span when no row further up is wrong. -/
theorem exists_columnList_above_iff {above below : List Nat}
    (stands : sheet.header.names[index]? = some (Named.name column))
    (split_eq : span.rows = above ++ row :: below) :
    (∃ values, RuleRow.columnList column (above.map (sheet.rowAt κ)) = .ok values) ↔
      ∀ other < row, ∀ failure, ¬ sheet.Offends column index span other failure := by
  rw [RuleRow.exists_columnList_iff_not_offends]
  constructor
  · intro nobody other further_up failure offends
    -- A row further up is one of those above, and it is wrong below a part of them.
    have among := (Span.mem_above_iff split_eq).mpr ⟨offends.inside, further_up⟩
    obtain ⟨one, two, rfl⟩ := List.append_of_mem among
    rw [List.append_assoc, List.cons_append] at split_eq
    exact nobody _ _ _ _ (by rw [List.map_append, List.map_cons])
      ((Sheet.offends_iff stands split_eq).mp offends)
  · intro nobody _ _ _ failure above_eq offends
    obtain ⟨one, rest, rfl, rfl, rest_eq⟩ := List.map_eq_append_iff.mp above_eq
    obtain ⟨other, two, rfl, rfl, -⟩ := List.map_eq_cons_iff.mp rest_eq
    have further_up := ((Span.mem_above_iff split_eq).mp (List.mem_append_right one
      List.mem_cons_self)).2
    rw [List.append_assoc, List.cons_append] at split_eq
    exact nobody other further_up failure ((Sheet.offends_iff stands split_eq).mpr offends)

/-- The error of a list is that of the topmost row that is wrong. -/
theorem columnList_rowAt_eq_error_iff
    (stands : sheet.header.names[index]? = some (Named.name column)) :
    RuleRow.columnList column (span.rows.map (sheet.rowAt κ)) = .error failure ↔
      ∃ row, IsLeast {row | ∃ failure, sheet.Offends column index span row failure} row ∧
        sheet.Offends column index span row failure := by
  rw [RuleRow.columnList_eq_error_iff]
  constructor
  · rintro ⟨_, _, _, rows_eq, read, offends⟩
    obtain ⟨above, rest, split_eq, rfl, rest_eq⟩ := List.map_eq_append_iff.mp rows_eq
    obtain ⟨row, below, rfl, rfl, -⟩ := List.map_eq_cons_iff.mp rest_eq
    have offends := (Sheet.offends_iff stands split_eq).mpr offends
    have nobody := (exists_columnList_above_iff stands split_eq).mp read
    refine ⟨row, ⟨⟨failure, offends⟩, fun other ⟨failure', offends'⟩ => ?_⟩, offends⟩
    exact Nat.le_of_not_lt fun further_up => nobody other further_up failure' offends'
  · rintro ⟨row, ⟨-, topmost⟩, offends⟩
    obtain ⟨above, below, split_eq⟩ := List.append_of_mem offends.inside
    refine ⟨above.map (sheet.rowAt κ), sheet.rowAt κ row, below.map (sheet.rowAt κ), ?_, ?_,
      (Sheet.offends_iff stands split_eq).mp offends⟩
    · rw [split_eq, List.map_append, List.map_cons]
    · refine (exists_columnList_above_iff stands split_eq).mpr fun other further_up failure' => ?_
      exact fun offends' => (topmost ⟨failure', offends'⟩).not_gt further_up

end

/-- A list is read down a column of a sheet, over a span of rows, exactly when the rows of the span
with some text in the column are the topmost ones and each of their cells stands for a value. The
list then has the values of all cells of the span with some text, in their order. Otherwise the
error is that of the topmost row that is wrong: the list has gone on to there and the cell is a name
that is not known, or the row is the first with some text below a cell without any. -/
theorem column_lists_lose_nothing {sheet : Sheet} {rows : List (RuleRow κ)}
    (seen : sheet.ruleRows κ = .ok rows) {column : κ} {index : Nat}
    (stands : sheet.header.names[index]? = some (Named.name column)) (span : Span) :
    ((∃ values, RuleRow.columnList column (rows.extract span.start span.stop) = .ok values) ↔
      StandOnTop (sheet.isFilled index) span.rows ∧
        ∀ row ∈ span.rows.filter (sheet.isFilled index),
          ∃ value, Constant.StandsFor (sheet.cell row index) value) ∧
    (∀ values, RuleRow.columnList column (rows.extract span.start span.stop) = .ok values →
      List.Forall₂ (fun row value => Constant.StandsFor (sheet.cell row index) value)
        (span.rows.filter (sheet.isFilled index)) values) ∧
    ∀ failure, RuleRow.columnList column (rows.extract span.start span.stop) = .error failure ↔
      ∃ row, IsLeast {row | ∃ failure, sheet.Offends column index span row failure} row ∧
        sheet.Offends column index span row failure := by
  have filled_eq : RuleRow.filled column (span.rows.map (sheet.rowAt κ)) =
      (span.rows.filter (sheet.isFilled index)).map (sheet.rowAt κ) := by
    rw [RuleRow.filled, List.filter_map, Sheet.isFilled_rowAt stands]
  have cell : ∀ row, (sheet.rowAt κ row).cell column = sheet.cell row index :=
    fun _ => Sheet.cell_rowAt stands
  rw [columnList_extract seen stands]
  refine ⟨?_, fun values read => ?_, fun failure => columnList_rowAt_eq_error_iff stands⟩
  · rw [RuleRow.exists_columnList_iff, standOnTop_map_iff, Sheet.isFilled_rowAt stands, filled_eq,
      List.forall_mem_map]
    simp only [cell]
  · have stand := (RuleRow.columnList_eq_ok_iff.mp read).2
    rw [filled_eq, RuleRow.Stand, List.forall₂_map_left_iff] at stand
    simpa only [cell] using stand

/-- Codes in the first two rows, a type below the end of its list, and two countries that are wrong,
one because its name is not known and one because it stands too far down. -/
def scatteredSheet : Sheet where
  header := declineHeader
  rows := [
    ⟨2, ["PostModernPI", "credit_card", "visa", "us", "", "", "Declined", "InvalidCvv"]⟩,
    ⟨3, ["", "", "", "Countries.Nowhere", "", "", "", "PXServiceErrorCodes.ExpiredCard"]⟩,
    ⟨5, ["", "", "PaymentMethodType.Nothing"]⟩,
    ⟨6, ["", "", "", "fr"]⟩]

/-- The codes are read over a span that goes beyond the last row. The topmost wrong country and the
type are refused. -/
theorem column_lists_lose_nothing_of_scatteredSheet :
    ∃ rows, scatteredSheet.ruleRows ErrorRules.Column = .ok rows ∧
      RuleRow.columnList .errorCode (rows.extract 0 9) = .ok ["InvalidCvv", "ExpiredCard"] ∧
      List.Forall₂ (fun row value => Constant.StandsFor (scatteredSheet.cell row 7) value)
        [0, 1] ["InvalidCvv", "ExpiredCard"] ∧
      (∃ row, IsLeast {row | ∃ failure,
          scatteredSheet.Offends ErrorRules.Column.country 3 ⟨0, 9⟩ row failure} row ∧
        scatteredSheet.Offends ErrorRules.Column.country 3 ⟨0, 9⟩ row
          (.unknownConstant "Countries.Nowhere" 3)) ∧
      ∃ row, IsLeast {row | ∃ failure,
          scatteredSheet.Offends ErrorRules.Column.type 2 ⟨0, 9⟩ row failure} row ∧
        scatteredSheet.Offends ErrorRules.Column.type 2 ⟨0, 9⟩ row
          (.shape "ServiceError" 5
            (.detachedValue "PaymentMethodType.Nothing" "PaymentMethodType")) := by
  obtain ⟨rows, seen⟩ : ∃ rows, scatteredSheet.ruleRows ErrorRules.Column = .ok rows := ⟨_, rfl⟩
  have codes : RuleRow.columnList .errorCode (rows.extract 0 9) =
      .ok ["InvalidCvv", "ExpiredCard"] := by
    obtain rfl := Except.ok.inj seen
    decide +kernel
  have countries : RuleRow.columnList .country (rows.extract 0 9) =
      .error (.unknownConstant "Countries.Nowhere" 3) := by
    obtain rfl := Except.ok.inj seen
    decide +kernel
  have types : RuleRow.columnList .type (rows.extract 0 9) =
      .error (.shape "ServiceError" 5
        (.detachedValue "PaymentMethodType.Nothing" "PaymentMethodType")) := by
    obtain rfl := Except.ok.inj seen
    decide +kernel
  exact ⟨rows, seen, codes, (column_lists_lose_nothing seen rfl ⟨0, 9⟩).2.1 _ codes,
    ((column_lists_lose_nothing seen rfl ⟨0, 9⟩).2.2 _).mp countries,
    ((column_lists_lose_nothing seen rfl ⟨0, 9⟩).2.2 _).mp types⟩

end PaymentRules
