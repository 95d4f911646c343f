import Mathlib.Logic.Equiv.Defs
import Mathlib.Logic.Relation
import PaymentRules.Proofs.Sheet.Joining
import PaymentRules.Proofs.Sheet.Names
import PaymentRules.Proofs.Sheet.Unmarked

/-!
# The layout of a sheet

A family finds its columns by their names. Where a column stands, what stands in columns of other
names, how many empty cells end a row and what follows beyond the header makes no difference to the
rules of a sheet, nor to the error for which it is refused.

There is one exception. A row tells whether anything stands under the header at all, and the rows in
front of the first group of client-action rules are passed over when the first of them is blank. A
note in a column of its own makes such a row one that cannot be read.

## Main definitions

* `Row.permuted` — a row with the cells under the header in another order
* `Rearranged` — sheets with the same columns in another layout
* `Widened` — the same, or one more column that the family does not know
* `Header.Carries` — the columns of a header, each at its place in another one

## Main results

* `columns_are_read_by_name` — sheets in another layout are read to the same rules or the same error
-/

namespace PaymentRules

/-! ## Layouts -/

/-- The row with the cells under a header of this width in another order. What stands beyond the
header stays behind them. -/
def Row.permuted {width : Nat} (order : Equiv.Perm (Fin width)) (row : Row) : Row where
  line := row.line
  cells := List.ofFn (fun column => row.cell (order column)) ++ row.cells.drop width

/-- The other sheet has the same columns in another layout. -/
inductive Rearranged : Sheet → Sheet → Prop
  /-- The columns stand in another order, which is the same in the header and in every row. -/
  | permuted {header other : Header} (rows : List Row)
      (order : Equiv.Perm (Fin header.names.length))
      (names : other.names = List.ofFn fun column => header.names.get (order column)) :
      Rearranged ⟨header, rows⟩ ⟨other, rows.map (Row.permuted order)⟩
  /-- Rows end with more empty cells. -/
  | filled (header : Header) {rows others : List Row}
      (each : List.Forall₂ (fun row other => ∃ n,
        other = ⟨row.line, row.cells ++ List.replicate n ""⟩) rows others) :
      Rearranged ⟨header, rows⟩ ⟨header, others⟩
  /-- Rows go on in any way beyond the header. -/
  | extended (header : Header) {rows others : List Row}
      (each : List.Forall₂ (fun row other => other.line = row.line ∧
        other.cells.take header.width = row.cells.take header.width) rows others) :
      Rearranged ⟨header, rows⟩ ⟨header, others⟩

/-- The other sheet has the same columns in another layout, or one column more. -/
inductive Widened (κ : Type) [RuleColumn κ] : Sheet → Sheet → Prop
  | rearranged {one other : Sheet} (same : Rearranged one other) : Widened κ one other
  /-- The column stands between others, with a name that is no column of the family and with any
  cells in it. -/
  | inserted {header other : Header} {rows others : List Row} (before after : List String)
      (name : String) (unknown : ∀ column : κ, Named.name column ≠ name)
      (names : header.names = before ++ after) (more : other.names = before ++ name :: after)
      (each : List.Forall₂ (fun row wider => ∃ left cell right, left.length = before.length ∧
        row.cells = left ++ right ∧ wider = ⟨row.line, left ++ cell :: right⟩) rows others) :
      Widened κ ⟨header, rows⟩ ⟨other, others⟩

/-! ## Cells by name -/

attribute [ext] RuleRow

section

variable {κ : Type} [RuleColumn κ] {header other : Header} {row wider : Row}

theorem Sheet.cell_ruleRow_of_getElem? {column : κ} {i : Nat}
    (stands : header.names[i]? = some (Named.name column)) :
    (Sheet.ruleRow header row : RuleRow κ).cell column = row.cell i := by
  simp only [Sheet.ruleRow, Header.indexOf?_eq_some_iff.mpr stands]

theorem Sheet.cell_ruleRow_of_not_mem {column : κ} (absent : Named.name column ∉ header.names) :
    (Sheet.ruleRow header row : RuleRow κ).cell column = "" := by
  simp only [Sheet.ruleRow, Header.indexOf?_eq_none_iff.mpr absent]

/-- Errors call a column of the header by its own name. -/
theorem Sheet.columnName_ruleRow (column : κ) :
    (Sheet.ruleRow header row : RuleRow κ).columnName column =
      if Named.name column ∈ header.names then Named.name column else "" := by
  simp only [Sheet.ruleRow]
  split
  · next index found =>
    have stands := Header.indexOf?_eq_some_iff.mp found
    rw [Header.nameAt_of_getElem? stands, if_pos (List.mem_of_getElem? stands)]
  · next missing => rw [if_neg (Header.indexOf?_eq_none_iff.mp missing)]

theorem Sheet.columnName_ruleRow_of_getElem? {column : κ} {i : Nat}
    (stands : header.names[i]? = some (Named.name column)) :
    (Sheet.ruleRow header row : RuleRow κ).columnName column = Named.name column := by
  rw [columnName_ruleRow, if_pos (List.mem_of_getElem? stands)]

/-- A column is required by its name, wherever it stands. -/
theorem Header.discard_require (header : Header) (family name : String) :
    discard (header.require family name) =
      if name ∈ header.names then .ok ⟨⟩ else .error (.missingColumn family name) := by
  rw [require]
  cases found : header.indexOf? name with
  | none =>
    rw [if_neg (indexOf?_eq_none_iff.mp found)]
    rfl
  | some i =>
    rw [if_pos (List.mem_of_getElem? (indexOf?_eq_some_iff.mp found))]
    rfl

/-- A row is blank when no column of the header has a cell with text in it. -/
theorem Sheet.isBlank_ruleRow_iff :
    (Sheet.ruleRow header row : RuleRow κ).isBlank = true ↔
      ∀ i < header.width, row.cell i = "" := by
  simp only [Sheet.ruleRow, List.all_eq_true, beq_iff_eq]
  constructor
  · intro empty i inside
    cases at_column : row.cells[i]? with
    | none => rw [Row.cell, at_column, Option.getD_none]
    | some cell =>
      rw [Row.cell, at_column, Option.getD_some]
      exact empty cell (List.mem_of_getElem? (List.getElem?_take_of_lt inside ▸ at_column))
  · intro empty cell listed
    obtain ⟨i, inside, rfl⟩ := List.getElem_of_mem listed
    have bounds := List.length_take_le header.width row.cells
    have stored : i < row.cells.length := by rw [List.length_take] at inside; omega
    have own := empty i (by omega)
    rwa [Row.cell, List.getElem?_eq_getElem stored, Option.getD_some, ← List.getElem_take] at own

/-- The columns of a header stand, each at its place, in another one, which has no column of the
family besides. -/
structure Header.Carries (κ : Type) [RuleColumn κ] (header other : Header) (place : Nat → Nat) :
    Prop where
  name : ∀ i < header.width, other.names[place i]? = header.names[i]?
  known : ∀ column : κ, Named.name column ∈ other.names → Named.name column ∈ header.names

namespace Header.Carries

variable {place : Nat → Nat}

theorem refl (header : Header) : header.Carries κ header id where
  name _ _ := rfl
  known _ listed := listed

variable (carries : header.Carries κ other place)

include carries

theorem mem_iff (column : κ) :
    Named.name column ∈ other.names ↔ Named.name column ∈ header.names := by
  refine ⟨carries.known column, fun listed => ?_⟩
  obtain ⟨i, inside, same⟩ := List.getElem_of_mem listed
  refine List.mem_of_getElem? (i := place i) ?_
  rw [carries.name i inside, List.getElem?_eq_getElem inside, same]

/-- Rows with the same cells under the headers are seen with the same cells. -/
theorem cell_ruleRow (cells : ∀ i < header.width, wider.cell (place i) = row.cell i) (column : κ) :
    (Sheet.ruleRow header row : RuleRow κ).cell column =
      (Sheet.ruleRow other wider).cell column := by
  by_cases listed : Named.name column ∈ header.names
  · obtain ⟨i, inside, same⟩ := List.getElem_of_mem listed
    have stands : header.names[i]? = some (Named.name column) :=
      List.getElem?_eq_some_iff.mpr ⟨inside, same⟩
    rw [Sheet.cell_ruleRow_of_getElem? stands,
      Sheet.cell_ruleRow_of_getElem? ((carries.name i inside).trans stands), cells i inside]
  · rw [Sheet.cell_ruleRow_of_not_mem listed,
      Sheet.cell_ruleRow_of_not_mem fun also => listed (carries.known column also)]

theorem columnName_ruleRow (row wider : Row) :
    (Sheet.ruleRow header row : RuleRow κ).columnName =
      (Sheet.ruleRow other wider : RuleRow κ).columnName := by
  funext column
  simp only [Sheet.columnName_ruleRow, carries.mem_iff column]

/-- What is seen of the rows is told row by row. A column that one header lacks, the other lacks. -/
theorem map_ruleRows {β : Type} (view : RuleRow κ → β) {rows others : List Row}
    (each : List.Forall₂ (fun row wider =>
      view (Sheet.ruleRow header row) = view (Sheet.ruleRow other wider)) rows others) :
    ((Sheet.mk header rows).ruleRows κ).map (List.map view) =
      ((Sheet.mk other others).ruleRows κ).map (List.map view) := by
  have required : ∀ column : κ,
      discard (header.require (RuleColumn.family κ) (Named.name column)) =
        discard (other.require (RuleColumn.family κ) (Named.name column)) := by
    intro column
    simp only [Header.discard_require, carries.mem_iff column]
  have viewed : (rows.map (Sheet.ruleRow header)).map view =
      (others.map (Sheet.ruleRow other)).map view := by
    rw [List.map_map, List.map_map, ← List.forall₂_eq_eq_eq, List.forall₂_map_left_iff,
      List.forall₂_map_right_iff]
    exact each
  -- Either both headers lack a column, and the same one first, or both sheets are seen.
  simp only [Sheet.ruleRows, required]
  cases (Named.all : List κ).forM fun column =>
      discard (other.require (RuleColumn.family κ) (Named.name column)) with
  | error e => rfl
  | ok _ => exact congrArg Except.ok viewed

/-- Rows of the same line, with the same cells under the headers, that are blank together. -/
theorem ruleRow_eq (line : wider.line = row.line)
    (cells : ∀ i < header.width, wider.cell (place i) = row.cell i)
    (blank : (∀ i < header.width, row.cell i = "") ↔ ∀ i < other.width, wider.cell i = "") :
    (Sheet.ruleRow header row : RuleRow κ) = Sheet.ruleRow other wider := by
  refine RuleRow.ext line.symm (funext (carries.cell_ruleRow cells))
    (carries.columnName_ruleRow row wider) (Bool.eq_iff_iff.mpr ?_)
  rw [Sheet.isBlank_ruleRow_iff, Sheet.isBlank_ruleRow_iff, blank]

theorem ruleRows_eq {rows others : List Row}
    (each : List.Forall₂ (fun row wider => (Sheet.ruleRow header row : RuleRow κ) =
      Sheet.ruleRow other wider) rows others) :
    (Sheet.mk header rows).ruleRows κ = (Sheet.mk other others).ruleRows κ := by
  have seen := carries.map_ruleRows id each
  rwa [List.map_id_fun, Except.map_id, id_eq, id_eq] at seen

end Header.Carries

/-! ## Other layouts -/

theorem Row.cell_permuted {width i : Nat} (order : Equiv.Perm (Fin width)) (row : Row)
    (inside : i < width) : (row.permuted order).cell i = row.cell (order ⟨i, inside⟩) := by
  rw [Row.cell, permuted, List.getElem?_append_left (by simpa using inside)]
  simp [inside]

theorem Row.cell_append_replicate (row : Row) (n i : Nat) :
    (Row.mk row.line (row.cells ++ List.replicate n "")).cell i = row.cell i := by
  rw [Row.cell, Row.cell, List.getElem?_append]
  split
  · rfl
  · next beyond =>
    rw [List.getElem?_eq_none (Nat.le_of_not_lt beyond), List.getElem?_replicate]
    split <;> rfl

theorem Row.cell_eq_of_take_eq {width i : Nat}
    (same : wider.cells.take width = row.cells.take width) (inside : i < width) :
    wider.cell i = row.cell i := by
  rw [Row.cell, Row.cell, ← List.getElem?_take_of_lt inside, same,
    List.getElem?_take_of_lt inside]

/-- The columns of a header in another order. -/
theorem Header.carries_permuted (order : Equiv.Perm (Fin header.names.length))
    (names : other.names = List.ofFn fun column => header.names.get (order column)) :
    header.Carries κ other fun i =>
      if inside : i < header.names.length then order.symm ⟨i, inside⟩ else i where
  name i inside := by
    have inside : i < header.names.length := inside
    rw [names, dif_pos inside, List.getElem?_ofFn]
    simp [inside]
  known column listed := by
    rw [names] at listed
    obtain ⟨position, same⟩ := List.mem_ofFn.mp listed
    exact same ▸ List.get_mem _ _

/-- A sheet in another layout has the same rows, for any family. -/
theorem Rearranged.ruleRows_eq {one other : Sheet} (rearranged : Rearranged one other) :
    one.ruleRows κ = other.ruleRows κ := by
  cases rearranged with
  | @permuted header other rows order names =>
    have carries : header.Carries κ other _ := Header.carries_permuted order names
    have same_width : other.width = header.width := by
      simp [Header.width, names]
    refine carries.ruleRows_eq (List.forall₂_map_right_iff.mpr (List.forall₂_same.mpr ?_))
    intro row _
    refine carries.ruleRow_eq rfl (fun i inside => ?_) ⟨fun empty i inside => ?_,
      fun empty i inside => ?_⟩
    · have inside : i < header.names.length := inside
      rw [dif_pos inside, Row.cell_permuted order row (Fin.isLt _), Fin.eta, Equiv.apply_symm_apply]
    · rw [same_width] at inside
      rw [Row.cell_permuted order row inside]
      exact empty _ (Fin.isLt _)
    · -- The column stands somewhere in the new order.
      have moved := empty (order.symm ⟨i, inside⟩) (same_width ▸ Fin.isLt _)
      rwa [Row.cell_permuted order row (Fin.isLt _), Fin.eta, Equiv.apply_symm_apply] at moved
  | filled header each =>
    have carries : header.Carries κ header id := .refl header
    refine carries.ruleRows_eq (each.imp ?_)
    rintro row _ ⟨n, rfl⟩
    refine carries.ruleRow_eq rfl (fun i _ => Row.cell_append_replicate row n i) ?_
    simp only [Row.cell_append_replicate]
  | extended header each =>
    have carries : header.Carries κ header id := .refl header
    refine carries.ruleRows_eq (each.imp ?_)
    rintro row other ⟨same_line, same⟩
    have cells : ∀ i < header.width, other.cell i = row.cell i :=
      fun i inside => Row.cell_eq_of_take_eq same inside
    refine carries.ruleRow_eq same_line cells ?_
    exact forall₂_congr fun i inside => by rw [cells i inside]

/-! ## More columns -/

/-- The rows as the family sees them, without the mark of a blank row. -/
def Sheet.unmarkedRows (κ : Type) [RuleColumn κ] (sheet : Sheet) :
    Except LoadError (List (RuleRow κ)) :=
  (sheet.ruleRows κ).map (List.map RuleRow.unmarked)

/-- Behind the place of a new item every item stands one place further on. -/
theorem getElem?_append_cons {α : Type} (left right : List α) (new : α) (i : Nat) :
    (left ++ new :: right)[if i < left.length then i else i + 1]? = (left ++ right)[i]? := by
  split
  · next inside => rw [List.getElem?_append_left inside, List.getElem?_append_left inside]
  · next behind =>
    rw [List.getElem?_append_right (by omega), List.getElem?_append_right (by omega),
      show i + 1 - left.length = (i - left.length) + 1 by omega, List.getElem?_cons_succ]

theorem Header.carries_inserted {before after : List String} {name : String}
    (unknown : ∀ column : κ, Named.name column ≠ name) (names : header.names = before ++ after)
    (more : other.names = before ++ name :: after) :
    header.Carries κ other fun i => if i < before.length then i else i + 1 where
  name i _ := by
    rw [names, more]
    exact getElem?_append_cons before after name i
  known column listed := by
    rw [more, List.mem_append, List.mem_cons] at listed
    rw [names, List.mem_append]
    rcases listed with front | same | back
    · exact .inl front
    · exact absurd same (unknown column)
    · exact .inr back

/-- With a column that the family does not know, only the mark of a blank row can be another. -/
theorem Widened.unmarkedRows_eq {one other : Sheet} (widened : Widened κ one other) :
    one.unmarkedRows κ = other.unmarkedRows κ := by
  cases widened with
  | rearranged same => rw [Sheet.unmarkedRows, Sheet.unmarkedRows, same.ruleRows_eq]
  | inserted before after name unknown names more each =>
    have carries := Header.carries_inserted unknown names more
    refine carries.map_ruleRows RuleRow.unmarked (each.imp ?_)
    rintro row _ ⟨left, cell, right, same_length, same, rfl⟩
    -- The lines agree and there is no mark, so that only the cells are left to compare.
    refine RuleRow.ext rfl (funext (carries.cell_ruleRow fun i _ => ?_))
      (carries.columnName_ruleRow row ⟨row.line, left ++ cell :: right⟩) rfl
    rw [Row.cell, Row.cell, same, ← same_length, getElem?_append_cons left right cell i]

end

/-! ## Rules -/

/-- What every step keeps, a chain of steps back and forth keeps. -/
theorem eq_of_eqvGen {α β : Type} {R : α → α → Prop} {f : α → β}
    (step : ∀ one other, R one other → f one = f other) {one other : α}
    (chain : Relation.EqvGen R one other) : f one = f other :=
  congrArg (Quot.lift f step) (Quot.eqvGen_sound chain)

/-- Service-error rules are read from the rows without the mark. -/
theorem ErrorRules.ofSheet_eq_unmarkedRows (sheet : Sheet) :
    ofSheet sheet = sheet.unmarkedRows Column >>= ofRows := by
  rw [ofSheet, Sheet.unmarkedRows]
  cases sheet.ruleRows Column with
  | error e => rfl
  | ok rows => exact (ofRows_unmarked rows).symm

/-- So are client-action rules, when the first row has a name. -/
theorem ClientRules.ofSheet_eq_unmarkedRows {sheet : Sheet}
    (named : ∀ rows, sheet.unmarkedRows Column = .ok rows →
      ∀ row ∈ rows.head?, row.cell .paymentName ≠ "") :
    ofSheet sheet = sheet.unmarkedRows Column >>= ofRows := by
  rw [Sheet.unmarkedRows] at named
  rw [ofSheet, Sheet.unmarkedRows]
  cases read : sheet.ruleRows Column with
  | error e => rfl
  | ok rows =>
    refine (ofRows_unmarked (fun row listed blank => ?_) fun row at_head => ?_).symm
    · exact cell_eq_empty_of_isBlank read listed blank .paymentName
    · refine named (rows.map RuleRow.unmarked) (by rw [read]; rfl) row.unmarked ?_
      rw [List.head?_map]
      exact Option.mem_map_of_mem _ at_head

theorem ClientRules.named_of_head? {sheet : Sheet}
    (named : ∀ row ∈ sheet.rows.head?,
      (Sheet.ruleRow sheet.header row : SheetRow).cell .paymentName ≠ "")
    {rows : List SheetRow} (read : sheet.unmarkedRows Column = .ok rows) {row : SheetRow}
    (at_head : row ∈ rows.head?) : row.cell .paymentName ≠ "" := by
  rw [Sheet.unmarkedRows, Except.map_eq_ok_iff] at read
  obtain ⟨marked, read, rfl⟩ := read
  rw [eq_map_of_ruleRows read, List.head?_map, List.head?_map, Option.map_map] at at_head
  obtain ⟨stored, at_top, rfl⟩ := Option.map_eq_some_iff.mp at_head
  exact named stored at_top

/-- Columns are put in another order, rows are filled up with empty cells or go on beyond the
header, any number of times and also the other way round: the sheet is read as it was, in either
family. More columns, of names that the family does not know, make no difference to service-error
rules, and none to client-action rules when the first row has a name. -/
theorem columns_are_read_by_name (one other : Sheet) :
    (Relation.EqvGen Rearranged one other →
      ClientRules.ofSheet one = ClientRules.ofSheet other ∧
        ErrorRules.ofSheet one = ErrorRules.ofSheet other) ∧
    (Relation.EqvGen (Widened ErrorRules.Column) one other →
      ErrorRules.ofSheet one = ErrorRules.ofSheet other) ∧
    (Relation.EqvGen (Widened ClientRules.Column) one other →
      (∀ row ∈ one.rows.head?,
        (Sheet.ruleRow one.header row : ClientRules.SheetRow).cell .paymentName ≠ "") →
      ClientRules.ofSheet one = ClientRules.ofSheet other) := by
  refine ⟨fun chain => ⟨?_, ?_⟩, fun chain => ?_, fun chain named => ?_⟩
  · refine eq_of_eqvGen (fun one other same => ?_) chain
    rw [ClientRules.ofSheet, ClientRules.ofSheet, same.ruleRows_eq]
  · refine eq_of_eqvGen (fun one other same => ?_) chain
    rw [ErrorRules.ofSheet, ErrorRules.ofSheet, same.ruleRows_eq]
  · have seen := eq_of_eqvGen (fun _ _ => Widened.unmarkedRows_eq) chain
    rw [ErrorRules.ofSheet_eq_unmarkedRows, seen, ← ErrorRules.ofSheet_eq_unmarkedRows]
  · have seen := eq_of_eqvGen (fun _ _ => Widened.unmarkedRows_eq) chain
    -- Whether the first row has a name is seen in the rows without the mark, so both sheets agree.
    have opens : ∀ rows, one.unmarkedRows ClientRules.Column = .ok rows →
        ∀ row ∈ rows.head?, row.cell .paymentName ≠ "" :=
      fun _ read _ at_head => ClientRules.named_of_head? named read at_head
    rw [ClientRules.ofSheet_eq_unmarkedRows opens, seen,
      ← ClientRules.ofSheet_eq_unmarkedRows (seen ▸ opens)]

/-- A service-error header with its first two columns exchanged. -/
def turnedHeader : Header :=
  .ofDistinct ("PaymentMethodFamily" :: "ResourceAction" :: declineHeader.names.drop 2) (by decide)

/-- The order in which the first two columns of a service-error header are exchanged. -/
def turned : Equiv.Perm (Fin declineHeader.names.length) :=
  Equiv.swap ⟨0, by decide⟩ ⟨1, by decide⟩

/-- A column for notes in front of all others. -/
def Header.noted (header : Header) (fresh : "Note" ∉ header.names) : Header :=
  .ofDistinct ("Note" :: header.names) (List.nodup_cons.mpr ⟨fresh, header.nodup⟩)

/-- The row with a note. -/
def Row.noted (row : Row) : Row :=
  ⟨row.line, "see below" :: row.cells⟩

theorem widened_noted {κ : Type} [RuleColumn κ] {header : Header} (fresh : "Note" ∉ header.names)
    (unknown : ∀ column : κ, Named.name column ≠ "Note") (rows : List Row) :
    Widened κ ⟨header, rows⟩ ⟨header.noted fresh, rows.map Row.noted⟩ :=
  .inserted [] header.names "Note" unknown rfl (Header.names_ofDistinct _) <|
    List.forall₂_map_right_iff.mpr <| List.forall₂_same.mpr fun row _ =>
      ⟨[], "see below", row.cells, rfl, rfl, rfl⟩

/-- Two columns change places, and notes stand even in a row that was blank. -/
theorem columns_are_read_by_name_of_sheets :
    (ErrorRules.ofSheet ⟨turnedHeader, declineRows.map (Row.permuted turned)⟩).map
        (fun rules => rules.sections.map (·.line)) = .ok [2] ∧
    (ErrorRules.ofSheet ⟨declineHeader.noted (by decide), declineRows.map Row.noted⟩).map
        (fun rules => rules.sections.map (·.line)) = .ok [2] ∧
    (ClientRules.ofSheet ⟨walletHeader.noted (by decide), walletRows.map Row.noted⟩).map
        (fun rules => rules.groups.map fun group => (group.name, group.filters.map (·.line))) =
      .ok [("Wallets", [2, 3])] := by
  refine ⟨?_, ?_, ?_⟩
  · rw [← ((columns_are_read_by_name ⟨declineHeader, declineRows⟩ _).1
      (.rel _ _ (.permuted declineRows turned (by decide)))).2]
    decide +kernel
  · rw [← (columns_are_read_by_name ⟨declineHeader, declineRows⟩ _).2.1
      (.rel _ _ (widened_noted _ (by rintro ⟨⟩ <;> decide) declineRows))]
    decide +kernel
  · rw [← (columns_are_read_by_name ⟨walletHeader, walletRows⟩ _).2.2
      (.rel _ _ (widened_noted _ (by rintro ⟨⟩ <;> decide) walletRows)) (by decide)]
    decide +kernel

end PaymentRules
