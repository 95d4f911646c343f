import PaymentRules.Proofs.Component.Insertion
import PaymentRules.Proofs.Sheet.Joining

/-!
# Separator rows

A row without anything in it may stand at the end of a file or in front of a row that opens a group,
a section or a block. It belongs to whatever is open there, and says nothing at any level: it is no
payment method, no filter, no entry, and below the values of a list it ends the list, which has
ended anyway. In front of all other rows it opens a stretch that is passed over.

## Main definitions

* `RuleRow.IsEmpty` — a row without anything in it

## Main results

* `separator_rows_are_neutral` — the sheet is read as it was without the row, in either family
-/

namespace PaymentRules

/-- Nothing stands in any cell of the row. -/
structure RuleRow.IsEmpty {κ : Type} (row : RuleRow κ) : Prop where
  isBlank : row.isBlank = true
  cell : ∀ column, row.cell column = ""

theorem Row.cell_eq_empty {row : Row} (empty : ∀ cell ∈ row.cells, cell = "") (column : Nat) :
    row.cell column = "" := by
  rw [Row.cell]
  cases found : row.cells[column]? with
  | none => rfl
  | some cell => exact empty cell (List.mem_of_getElem? found)

section

variable {κ : Type} [RuleColumn κ]

theorem Sheet.isEmpty_ruleRow {row : Row} (header : Header)
    (empty : ∀ cell ∈ row.cells, cell = "") : (Sheet.ruleRow header row : RuleRow κ).IsEmpty where
  isBlank := List.all_eq_true.mpr fun cell listed =>
    beq_iff_eq.mpr (empty cell (List.mem_of_mem_take listed))
  cell column := by
    rw [Sheet.ruleRow]
    dsimp only
    split
    · exact Row.cell_eq_empty empty _
    · rfl

/-- An empty cell below a list changes nothing, whether the list went on to there or not. -/
theorem RuleRow.columnList_concat {row : RuleRow κ} {column : κ} (empty : row.cell column = "")
    (rows : List (RuleRow κ)) : columnList column (rows ++ [row]) = columnList column rows := by
  induction rows with
  | nil => simp [columnList, empty]
  | cons first rows ih =>
    rw [List.cons_append, columnList, columnList, ih, List.find?_append]
    simp [empty]

end

namespace ClientRules

variable {row first : SheetRow} (empty : row.IsEmpty)

include empty

theorem isAbsorbed_groupGrammar :
    IsAbsorbed groupGrammar (fun row => Pattern.allEmpty.holds [row.cell .paymentName]) row where
  condition := rfl
  absorbed := by simp [Pattern.holds, empty.cell]
  refused := by simp [groupGrammar, empty.isBlank]

/-- An empty row at the end of a group is no payment method and no filter. -/
theorem Group.ofComponent_concat (start : Nat) (rows : List SheetRow) :
    Group.ofComponent first (groupGrammar.parseAt start (rows ++ [row])) =
      Group.ofComponent first (groupGrammar.parseAt start rows) := by
  have methods : (groupGrammar.parseAt start (rows ++ [row])).anchored methodGrammar.name =
      (groupGrammar.parseAt start rows).anchored methodGrammar.name :=
    anchored_concat (show _ = some methodGrammar from rfl) (fun _ => rfl)
      (by simp [methodGrammar, Pattern.holds, empty.cell]) start rows
  have filters : (groupGrammar.parseAt start (rows ++ [row])).anchored filterGrammar.name =
      (groupGrammar.parseAt start rows).anchored filterGrammar.name :=
    anchored_concat (show _ = some filterGrammar from rfl) (fun _ => rfl)
      (by simp [filterGrammar, Pattern.holds, empty.cell]) start rows
  rw [Group.ofComponent, Group.ofComponent, Methods.ofGroup, Methods.ofGroup, methods, filters,
    start_parseAt, start_parseAt]

theorem ofRows_insert {other : List SheetRow}
    (opens : ∀ next ∈ other.head?, next.cell .paymentName ≠ "") (one : List SheetRow) :
    ofRows (one ++ row :: other) = ofRows (one ++ other) := by
  have named : ∀ next ∈ other.head?, Pattern.allEmpty.holds [next.cell .paymentName] = false := by
    intro next at_head
    simpa [Pattern.holds] using opens next at_head
  have found : (grammar.parts.find? fun kind => groupGrammar.name == kind.name) =
      some groupGrammar := rfl
  simp only [ofRows, parse_whole]
  rw [(isAbsorbed_groupGrammar empty).mapM_anchored_insert_of_opens found
    (fun first part n => Group.ofComponent_shift n first part) named
    (fun _ rows => Group.ofComponent_concat empty 0 rows)]

end ClientRules

namespace ErrorRules

variable {row first : SheetRow} (empty : row.IsEmpty)

include empty

theorem isAbsorbed_entryGrammar :
    IsAbsorbed entryGrammar (fun row => Pattern.allEmpty.holds [row.cell .message]) row where
  condition := rfl
  absorbed := by simp [Pattern.holds, empty.cell]
  refused := by simp [entryGrammar, Pattern.holds, empty.cell]

theorem isAbsorbed_blockGrammar :
    IsAbsorbed blockGrammar (fun row => Pattern.allEmpty.holds [row.cell .family]) row where
  condition := rfl
  absorbed := by simp [Pattern.holds, empty.cell]
  refused := by simp [blockGrammar, Pattern.holds, empty.cell]

theorem isAbsorbed_sectionGrammar :
    IsAbsorbed sectionGrammar (fun row => Pattern.allEmpty.holds [row.cell .resourceAction])
      row where
  condition := rfl
  absorbed := by simp [Pattern.holds, empty.cell]
  refused := by simp [sectionGrammar, Pattern.holds, empty.cell]

/-- An empty row at the end of an entry has no code. -/
theorem Entry.ofComponent_concat (start : Nat) (rows : List SheetRow) :
    Entry.ofComponent first (entryGrammar.parseAt start (rows ++ [row])) =
      Entry.ofComponent first (entryGrammar.parseAt start rows) := by
  rw [Entry.ofComponent, Entry.ofComponent, rows_parseAt, rows_parseAt,
    RuleRow.columnList_concat (empty.cell _)]

/-- An empty row at the end of a block belongs to its last entry, and to none of its lists. -/
theorem Block.ofComponent_concat (start : Nat) (rows : List SheetRow) :
    Block.ofComponent first (blockGrammar.parseAt start (rows ++ [row])) =
      Block.ofComponent first (blockGrammar.parseAt start rows) := by
  have found : (blockGrammar.parts.find? fun kind => entryGrammar.name == kind.name) =
      some entryGrammar := rfl
  have entries : ((blockGrammar.parseAt start (rows ++ [row])).anchored entryGrammar.name).mapM
        (fun entry => Entry.ofComponent entry.1 entry.2) =
      ((blockGrammar.parseAt start (rows ++ [])).anchored entryGrammar.name).mapM
        fun entry => Entry.ofComponent entry.1 entry.2 :=
    (isAbsorbed_entryGrammar empty).mapM_anchored_insert_of_opens found
      (fun first part n => Entry.ofComponent_shift n first part) (by simp)
      (fun _ rows => Entry.ofComponent_concat empty 0 rows) start rows
  rw [List.append_nil] at entries
  simp only [Block.ofComponent, entries, rows_parseAt, RuleRow.columnList_concat (empty.cell _)]

/-- An empty row in front of a row with a family belongs to the block above, if there is one. -/
theorem Section.ofComponent_insert {back : List SheetRow}
    (opens : ∀ next ∈ back.head?, next.cell .family ≠ "") (start : Nat) (front : List SheetRow) :
    Section.ofComponent first (sectionGrammar.parseAt start (front ++ row :: back)) =
      Section.ofComponent first (sectionGrammar.parseAt start (front ++ back)) := by
  have opening : ∀ next ∈ back.head?, Pattern.allEmpty.holds [next.cell .family] = false := by
    intro next at_head
    simpa [Pattern.holds] using opens next at_head
  have found : (sectionGrammar.parts.find? fun kind => blockGrammar.name == kind.name) =
      some blockGrammar := rfl
  rw [Section.ofComponent, Section.ofComponent,
    (isAbsorbed_blockGrammar empty).mapM_anchored_insert_of_opens found
      (fun first part n => Block.ofComponent_shift n first part) opening
      (fun _ rows => Block.ofComponent_concat empty 0 rows)]

theorem ofRows_insert {other : List SheetRow}
    (opens : ∀ next ∈ other.head?, next.cell .resourceAction ≠ "" ∨ next.cell .family ≠ "")
    (one : List SheetRow) : ofRows (one ++ row :: other) = ofRows (one ++ other) := by
  have found : (grammar.parts.find? fun kind => sectionGrammar.name == kind.name) =
      some sectionGrammar := rfl
  simp only [ofRows, parse_whole]
  rw [(isAbsorbed_sectionGrammar empty).mapM_anchored_insert found
    (fun first part n => Section.ofComponent_shift n first part)]
  · intro next _ goes_on
    simpa [sectionGrammar, Pattern.holds] using goes_on
  · -- A row that goes on with the section has no action, so it opens a block.
    intro first front back at_seam
    refine Section.ofComponent_insert empty (fun next at_head => ?_) 0 front
    obtain ⟨behind, goes_on⟩ := at_seam next at_head
    exact (opens next behind).resolve_left (by simpa [Pattern.holds] using goes_on)

end ErrorRules

/-- A row without anything in it, on whatever line, is put behind all rows of a sheet, or in front
of a row with a name, or of one with a resource action or a family. The sheet is then read as it
was, to the same rules or to the same error. -/
theorem separator_rows_are_neutral (header : Header) (earlier later : List Row) (separator : Row)
    (empty : ∀ cell ∈ separator.cells, cell = "") :
    ((∀ row ∈ later.head?,
        (Sheet.ruleRow header row : ClientRules.SheetRow).cell .paymentName ≠ "") →
      ClientRules.ofSheet ⟨header, earlier ++ separator :: later⟩ =
        ClientRules.ofSheet ⟨header, earlier ++ later⟩) ∧
    ((∀ row ∈ later.head?,
        (Sheet.ruleRow header row : ErrorRules.SheetRow).cell .resourceAction ≠ "" ∨
          (Sheet.ruleRow header row : ErrorRules.SheetRow).cell .family ≠ "") →
      ErrorRules.ofSheet ⟨header, earlier ++ separator :: later⟩ =
        ErrorRules.ofSheet ⟨header, earlier ++ later⟩) := by
  constructor
  · intro opens
    simp only [ClientRules.ofSheet]
    obtain ⟨e, refused⟩ | read := ruleRows_cases ClientRules.Column header
    · rw [refused, refused]
    · have named : ∀ row ∈ (later.map (Sheet.ruleRow header) : List ClientRules.SheetRow).head?,
          row.cell .paymentName ≠ "" := by
        simpa [List.head?_map] using opens
      simp only [read, Except.ok_bind, List.map_append, List.map_cons]
      exact ClientRules.ofRows_insert (Sheet.isEmpty_ruleRow header empty) named _
  · intro opens
    simp only [ErrorRules.ofSheet]
    obtain ⟨e, refused⟩ | read := ruleRows_cases ErrorRules.Column header
    · rw [refused, refused]
    · have opening : ∀ row ∈ (later.map (Sheet.ruleRow header) : List ErrorRules.SheetRow).head?,
          row.cell .resourceAction ≠ "" ∨ row.cell .family ≠ "" := by
        simpa [List.head?_map] using opens
      simp only [read, Except.ok_bind, List.map_append, List.map_cons]
      exact ErrorRules.ofRows_insert (Sheet.isEmpty_ruleRow header empty) opening _

/-- A row of commas at the end of a longer file, with its line number. -/
def commaRow : Row :=
  ⟨40, List.replicate 15 ""⟩

/-- A group without filters, which has its sheet refused. -/
def idleRows : List Row := [
  ⟨6, ["Cards", "credit_card", "visa"]⟩]

/-- A block with two types. -/
def cardErrorRows : List Row := [
  ⟨2, ["PostModernPI", "credit_card", "visa", "", "", "", "Declined", "InvalidCvv"]⟩,
  ⟨3, ["", "", "mc", "", "", "", "", "ExpiredCard"]⟩]

/-- A block of the same section, for wallets. -/
def walletErrorRows : List Row := [
  ⟨4, ["", "ewallet", "", "", "", "", "Try again"]⟩]

/-- The row separates a group from one that has the sheet refused, and the blocks of a section. -/
theorem separator_rows_are_neutral_of_rows :
    ClientRules.ofSheet ⟨walletHeader, walletRows ++ commaRow :: idleRows⟩ =
      .error (.shape "ClientAction" 6 (.groupWithoutActions "Cards")) ∧
    (ErrorRules.ofSheet ⟨declineHeader, cardErrorRows ++ commaRow :: walletErrorRows⟩).map
        (fun rules => rules.sections.flatMap fun part => part.blocks.map fun block =>
          (part.line, block.line, block.types.display)) =
      .ok [(2, 2, "visa,mc"), (2, 4, "*")] := by
  constructor
  · rw [(separator_rows_are_neutral walletHeader walletRows idleRows commaRow (by decide)).1
      (by decide)]
    decide +kernel
  · rw [(separator_rows_are_neutral declineHeader cardErrorRows walletErrorRows commaRow
      (by decide)).2 (by decide)]
    decide +kernel

end PaymentRules
