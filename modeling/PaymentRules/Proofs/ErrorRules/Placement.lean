import PaymentRules.Proofs.ErrorRules.Lines
import PaymentRules.Proofs.Component.Reading

/-!
# The rows of service-error rules

A row with a message is an entry when there is a row with a family at or above it, and a row with a
resource action at or above that one. A code belongs to the entry of the nearest message at or above
it, unless a family or a resource action stands in between. Below a resource action the rows in
front of the first family are passed over, and below a family those in front of the first message
are: the former always, the latter when the row with the family has neither a code nor a target.

## Main definitions

* `allEntries` — the entries of all blocks
* `anchor?` — the row of the entry to which a row belongs
* `Entry.IsAt` — an entry stands at a row, with the codes of the rows that belong to it
* `IsExplained` — a row does not have a code or a target without a message

## Main results

* `entries_stand_for_rows` — the entries of all blocks, by their rows
-/

namespace PaymentRules.ErrorRules

/-- The entries of all blocks, in file order. -/
def allEntries (rules : ErrorRules) : List Entry :=
  rules.sections.flatMap fun part => part.blocks.flatMap (·.table.entries)

/-- The row of the entry to which a row belongs: the nearest message, if it stands behind the
nearest family, and that one behind the nearest resource action. -/
def anchor? (rows : List SheetRow) (i : Nat) : Option Nat := do
  let action ← nearest? (hasText .resourceAction rows) i
  let family ← nearest? (hasText .family rows) i
  let message ← nearest? (hasText .message rows) i
  if action ≤ family ∧ family ≤ message then some message else none

/-- The entry stands at the row at a position: it has the line and the message of the row, and the
codes of the rows that belong to it. -/
def Entry.IsAt (rows : List SheetRow) (i : Nat) (entry : Entry) : Prop :=
  ∃ row, rows[i]? = some row ∧ entry.line = row.line ∧ entry.message = row.cell .message ∧
    List.Forall₂ (fun k code => ∃ other, rows[k]? = some other ∧
        Constant.resolve (other.cell .errorCode) other.line = .ok code)
      ((textRows .errorCode rows).filter fun k => anchor? rows k = some i) entry.errorCodes

section

variable {rows : List SheetRow} {i message : Nat}

theorem anchor?_eq_some_iff : anchor? rows i = some message ↔
    ∃ action family, nearest? (hasText .resourceAction rows) i = some action ∧
      nearest? (hasText .family rows) i = some family ∧
      nearest? (hasText .message rows) i = some message ∧
      action ≤ family ∧ family ≤ message := by
  simp only [anchor?, Option.bind_eq_bind, Option.bind_eq_some_iff, Option.ite_none_right_eq_some,
    Option.some.injEq]
  constructor
  · rintro ⟨action, at_action, family, at_family, _, at_message, in_order, rfl⟩
    exact ⟨action, family, at_action, at_family, at_message, in_order⟩
  · rintro ⟨action, family, at_action, at_family, at_message, in_order⟩
    exact ⟨action, at_action, family, at_family, message, at_message, in_order, rfl⟩

/-- The row to which a row belongs has a message and belongs to itself. -/
theorem anchor?_self (found : anchor? rows i = some message) :
    hasText .message rows message = true ∧ anchor? rows message = some message := by
  obtain ⟨action, family, at_action, at_family, at_message, in_order, before⟩ :=
    anchor?_eq_some_iff.mp found
  have greatest := (nearest?_eq_some_iff.mp at_message).1
  refine ⟨greatest.2, anchor?_eq_some_iff.mpr ⟨action, family, ?_, ?_, ?_, in_order, before⟩⟩
  · exact nearest?_between at_action (in_order.trans before) greatest.1
  · exact nearest?_between at_family before greatest.1
  · exact nearest?_between at_message (Nat.le_refl _) greatest.1

/-- What belongs to some row belongs to the row of an entry. -/
theorem mem_filter_of_anchor? (found : anchor? rows i = some message) :
    message ∈ (textRows .message rows).filter fun i => (anchor? rows i).isSome := by
  obtain ⟨told, anchored⟩ := anchor?_self found
  obtain ⟨row, at_row, full⟩ := isMarked_eq_true_iff.mp told
  refine List.mem_filter.mpr ⟨mem_textRows.mpr ⟨row, at_row, bne_iff_ne.mp full⟩, ?_⟩
  rw [anchored, Option.isSome_some]

end

/-! ## Reading entries and blocks -/

section

variable {rows : List SheetRow} {first : SheetRow} {component : Component SheetRow}

/-- An entry has the line and the message of its first row, and its codes are read down all of its
rows. -/
theorem Entry.of_ofComponent {entry : Entry}
    (read : Entry.ofComponent first component = .ok entry) :
    first.cell .message ≠ "" ∧ entry.message = first.cell .message ∧ entry.line = first.line ∧
      RuleRow.columnList .errorCode component.rows = .ok entry.errorCodes := by
  rw [Entry.ofComponent] at read
  split at read
  · next message told =>
    simp only [Except.bind_eq_ok_iff, Except.pure_eq_ok, Except.ok.injEq] at read
    obtain ⟨_, rfl, codes, codes_read, _, -, _, -, rfl⟩ := read
    rw [RuleRow.optional] at told
    split at told
    · cases told
    · next full => exact ⟨full, (Option.some.inj told).symm, rfl, codes_read⟩
  · cases read

/-- Pushed entries stand behind those that are there. -/
theorem EntryTable.entries_of_pushAll {table result : EntryTable} {entries : List Entry}
    (pushed : table.pushAll entries = .ok result) : result.entries = table.entries ++ entries := by
  induction entries generalizing table with
  | nil =>
    obtain rfl := Except.ok.inj pushed
    rw [List.append_nil]
  | cons entry entries ih =>
    rw [EntryTable.pushAll] at pushed
    split at pushed
    · cases pushed
    · rw [ih pushed, EntryTable.push, List.append_assoc, List.singleton_append]

theorem EntryTable.entries_of_ofEntries {table : EntryTable} {entries : List Entry}
    (read : EntryTable.ofEntries first entries = .ok table) : table.entries = entries := by
  rw [EntryTable.ofEntries] at read
  split at read
  · cases read
  · split at read
    · next pushed =>
      obtain rfl := Except.ok.inj read
      exact EntryTable.entries_of_pushAll pushed
    · cases read

/-- A block has the entries that are read from its rows. -/
theorem Block.entries_of_ofComponent {block : Block}
    (read : Block.ofComponent first component = .ok block) :
    ((component.anchored entryGrammar.name).mapM fun entry =>
      Entry.ofComponent entry.1 entry.2) = .ok block.table.entries := by
  simp only [Block.ofComponent, Except.bind_eq_ok_iff, Except.pure_eq_ok, Except.ok.injEq] at read
  obtain ⟨entries, entries_read, _, -, _, -, _, -, _, -, table, table_read, rfl⟩ := read
  rw [entries_read, EntryTable.entries_of_ofEntries table_read]

end

/-! ## Where the parts open -/

section

variable (rows : List SheetRow)

/-- Entries open at rows with a message. -/
theorem opensAtMarks_entryGrammar :
    OpensAtMarks rows entryGrammar (fun row => row.cell .message != "")
      (fun entry => Entry.ofComponent entry.1 entry.2) where
  continues row position := by simp [entryGrammar, Pattern.holds, bne]
  keeps row _ told := by
    rw [bne_iff_ne] at told
    simp [entryGrammar, Pattern.holds, told]
  marked first part entry _ read := bne_iff_ne.mpr (Entry.of_ofComponent read).1

/-- Blocks open at rows with a family. -/
theorem opensAtMarks_blockGrammar :
    OpensAtMarks rows blockGrammar (fun row => row.cell .family != "")
      (fun block => Block.ofComponent block.1 block.2) where
  continues row position := by simp [blockGrammar, Pattern.holds, bne]
  keeps row _ full := by simpa [blockGrammar, Pattern.holds, bne] using full
  marked first part block kept _ := by simpa [blockGrammar, Pattern.holds, bne] using kept

/-- Sections open at rows with a resource action. -/
theorem opensAtMarks_sectionGrammar :
    OpensAtMarks rows sectionGrammar (fun row => row.cell .resourceAction != "")
      (fun part => Section.ofComponent part.1 part.2) where
  continues row position := by simp [sectionGrammar, Pattern.holds, bne]
  keeps row _ full := by simpa [sectionGrammar, Pattern.holds, bne] using full
  marked first component part kept _ := by simpa [sectionGrammar, Pattern.holds, bne] using kept

end

/-! ## What a block and a section hold -/

/-- A row without a message has no code and no target either. -/
def IsExplained (row : SheetRow) : Prop :=
  row.cell .message = "" → row.cell .errorCode = "" ∧ row.cell .detailsTarget = ""

section

variable {rows : List SheetRow} {first : SheetRow} {tile : Span}

/-- The rows of an entry are those that belong to its first row, when the block of the entry is
known to have the rows with certain nearest openings. -/
theorem mem_rows_iff_anchor? {entry_tile : Span} {action : Nat} (behind : action ≤ tile.start)
    (own : ∀ i, i ∈ tile.rows ↔ i ∈ (Span.mk 0 rows.length).rows ∧
      nearest? (hasText .resourceAction rows) i = some action ∧
      nearest? (hasText .family rows) i = some tile.start)
    (is_tile : MarkedTile (fun row => row.cell .message != "") rows tile entry_tile) (i : Nat) :
    i ∈ entry_tile.rows ↔
      i ∈ (Span.mk 0 rows.length).rows ∧ anchor? rows i = some entry_tile.start := by
  have start_in_block := ((is_tile.mem_rows_iff _).mp is_tile.start_mem_rows).1
  rw [is_tile.mem_rows_iff, anchor?_eq_some_iff]
  constructor
  · -- The first row of the entry is in the block, so it stands behind the openings of the block.
    rintro ⟨in_block, message⟩
    obtain ⟨listed, at_action, at_family⟩ := (own i).mp in_block
    exact ⟨listed, action, tile.start, at_action, at_family, message, behind,
      (Span.mem_rows.mp start_in_block).1⟩
  · rintro ⟨listed, other_action, family, at_action, at_family, message, in_order, before⟩
    -- The openings of the row are those of the first row of the entry, too, since they stand above
    -- it; and these are the openings of the block.
    obtain ⟨-, start_action, start_family⟩ := (own _).mp start_in_block
    have bound := (nearest?_eq_some_iff.mp message).1.1
    have same_family := nearest?_between at_family before bound
    have same_action := nearest?_between at_action (in_order.trans before) bound
    obtain rfl := Option.some.inj (start_family.symm.trans same_family)
    obtain rfl := Option.some.inj (start_action.symm.trans same_action)
    exact ⟨(own i).mpr ⟨listed, at_action, at_family⟩, message⟩

/-- The entries of a block stand at the rows of the block with a message. -/
theorem Block.forall₂_entries {block : Block} {action : Nat} (behind : action ≤ tile.start)
    (forward : tile.start ≤ tile.stop) (inside : tile.stop ≤ rows.length)
    (own : ∀ i, i ∈ tile.rows ↔ i ∈ (Span.mk 0 rows.length).rows ∧
      nearest? (hasText .resourceAction rows) i = some action ∧
      nearest? (hasText .family rows) i = some tile.start)
    (read : Block.ofComponent first (blockGrammar.parse rows tile) = .ok block) :
    List.Forall₂ (Entry.IsAt rows) (tile.rows.filter (hasText .message rows))
      block.table.entries := by
  refine (opensAtMarks_entryGrammar rows).forall₂ rfl forward inside
    (entries_of_ofComponent read) ?_
  rintro entry_tile entry is_tile ⟨row, at_start, read_entry⟩
  obtain ⟨-, message, line, codes_read⟩ := Entry.of_ofComponent read_entry
  have codes := forall₂_columnList entryGrammar is_tile.inside codes_read
  have same_rows : entry_tile.rows.filter (hasText .errorCode rows) =
      (textRows .errorCode rows).filter fun k => anchor? rows k = some entry_tile.start := by
    rw [textRows_eq, List.filter_filter]
    refine Span.filter_rows_congr fun i => ?_
    rw [mem_rows_iff_anchor? behind own is_tile, Bool.and_eq_true, decide_eq_true_eq, and_assoc]
  exact ⟨row, at_start, line, message, same_rows ▸ codes⟩

/-- When the first row of a block has a code or a target, it has a message. -/
theorem Block.isExplained_first {block : Block} {row : SheetRow} (nonempty : tile.start < tile.stop)
    (inside : tile.stop ≤ rows.length) (at_start : rows[tile.start]? = some row)
    (read : Block.ofComponent first (blockGrammar.parse rows tile) = .ok block) :
    IsExplained row := by
  intro silent
  by_contra spoken
  -- Such a row would be kept as the first row of an entry, and an entry needs a message.
  have kept : entryGrammar.keeps row = true := by
    rw [not_and_or] at spoken
    simpa [entryGrammar, Pattern.holds, silent] using spoken
  have told := (opensAtMarks_entryGrammar rows).marked_of_keeps rfl nonempty.le inside
    (entries_of_ofComponent read) nonempty at_start kept
  exact bne_iff_ne.mp told silent

variable {part : Section}
  (is_tile : MarkedTile (fun row => row.cell .resourceAction != "") rows ⟨0, rows.length⟩ tile)
  (read : Section.ofComponent first (sectionGrammar.parse rows tile) = .ok part)

include is_tile read

/-- The entries of a section stand at its rows with a message that have a row of the section with a
family at or above them. -/
theorem Section.forall₂_entries :
    List.Forall₂ (Entry.IsAt rows)
      (tile.rows.filter fun i => (nearest? (hasText .family rows) i).any fun family =>
        decide (tile.start ≤ family) && hasText .message rows i)
      (part.blocks.flatMap (·.table.entries)) := by
  refine (opensAtMarks_blockGrammar rows).forall₂_flatMap rfl is_tile.nonempty.le is_tile.inside
    (of_ofComponent read).2 (·.table.entries) (fun _ => hasText .message rows) ?_
  rintro block_tile block is_block ⟨row, at_start, read_block⟩
  have start_in_section := ((is_block.mem_rows_iff _).mp is_block.start_mem_rows).1
  refine Block.forall₂_entries (Span.mem_rows.mp start_in_section).1 is_block.nonempty.le
    is_block.inside (fun i => ?_) read_block
  rw [is_block.mem_rows_iff, is_tile.mem_rows_iff, and_assoc]
  rfl

/-- Where a block of a section opens, a code or a target has a message. -/
theorem Section.isExplained_of_family {i : Nat} {row : SheetRow} (listed : i ∈ tile.rows)
    (at_row : rows[i]? = some row) (full : row.cell .family ≠ "") : IsExplained row := by
  have marked : isMarked (fun row => row.cell .family != "") rows i = true :=
    isMarked_eq_true_iff.mpr ⟨row, at_row, bne_iff_ne.mpr full⟩
  obtain ⟨block_tile, block, rfl, is_block, _, _, read_block⟩ :=
    (opensAtMarks_blockGrammar rows).exists_reads rfl is_tile.nonempty.le is_tile.inside
      (of_ofComponent read).2 listed marked
  exact Block.isExplained_first is_block.nonempty is_block.inside at_row read_block

end

/-! ## The sections of a sheet -/

/-- The rows with a message that have a row with a resource action, and behind it one with a family,
at or above them. -/
theorem filter_anchor?_eq (rows : List SheetRow) :
    ((Span.mk 0 rows.length).rows.filter fun i =>
      (nearest? (hasText .resourceAction rows) i).any fun action =>
        decide (0 ≤ action) && (nearest? (hasText .family rows) i).any fun family =>
          decide (action ≤ family) && hasText .message rows i) =
      (textRows .message rows).filter fun i => (anchor? rows i).isSome := by
  rw [textRows_eq, List.filter_filter]
  refine List.filter_congr fun i _ => ?_
  rw [Bool.eq_iff_iff]
  simp only [Option.any_eq_true, Bool.and_eq_true, decide_eq_true_eq, Option.isSome_iff_exists,
    anchor?_eq_some_iff]
  constructor
  · -- The nearest message is the row itself.
    rintro ⟨action, at_action, -, family, at_family, in_order, told⟩
    exact ⟨⟨i, action, family, at_action, at_family, nearest?_self told, in_order,
      (nearest?_eq_some_iff.mp at_family).1.1⟩, told⟩
  · rintro ⟨⟨_, action, family, at_action, at_family, -, in_order, -⟩, told⟩
    exact ⟨action, at_action, Nat.zero_le _, family, at_family, in_order, told⟩

section

variable {rows : List SheetRow} {sections : List Section}
  (sections_read : ((grammar.parse rows ⟨0, rows.length⟩).anchored sectionGrammar.name).mapM
    (fun part => Section.ofComponent part.1 part.2) = .ok sections)

include sections_read

/-- The entries of all sections stand at the rows with a message that belong to themselves. -/
theorem forall₂_entries :
    List.Forall₂ (Entry.IsAt rows)
      ((textRows .message rows).filter fun i => (anchor? rows i).isSome)
      (sections.flatMap fun part => part.blocks.flatMap (·.table.entries)) := by
  rw [← filter_anchor?_eq]
  refine (opensAtMarks_sectionGrammar rows).forall₂_flatMap rfl (Nat.zero_le _) (Nat.le_refl _)
    sections_read (fun part => part.blocks.flatMap (·.table.entries))
    (fun action i => (nearest? (hasText .family rows) i).any fun family =>
      decide (action ≤ family) && hasText .message rows i) ?_
  rintro tile part is_tile ⟨_, _, read_part⟩
  exact Section.forall₂_entries is_tile read_part

/-- At or below a row with a resource action, a row with a family and without a message has no code
and no target. -/
theorem isExplained_of_family {i : Nat} {row : SheetRow} (at_row : rows[i]? = some row)
    (full : row.cell .family ≠ "")
    (below_action : (nearest? (hasText .resourceAction rows) i).isSome = true) :
    IsExplained row := by
  obtain ⟨action, at_action⟩ := Option.isSome_iff_exists.mp below_action
  have greatest := (nearest?_eq_some_iff.mp at_action).1
  have inside := (List.getElem?_eq_some_iff.mp at_row).1
  have listed : action ∈ (Span.mk 0 rows.length).rows :=
    Span.mem_rows.mpr ⟨Nat.zero_le _, greatest.1.trans_lt inside⟩
  obtain ⟨tile, part, rfl, is_tile, _, _, read_part⟩ :=
    (opensAtMarks_sectionGrammar rows).exists_reads rfl (Nat.zero_le _) (Nat.le_refl _)
      sections_read listed greatest.2
  have in_section : i ∈ tile.rows :=
    (is_tile.mem_rows_iff i).mpr ⟨Span.mem_rows.mpr ⟨Nat.zero_le _, inside⟩, at_action⟩
  exact Section.isExplained_of_family is_tile read_part in_section at_row full

end

/-- The entries of built rules stand at the rows with a message that belong to a section and a
block, in file order, each with the codes that belong to it; a code that belongs to some row belongs
to that of an entry. Where a block opens, a code or a target has a message. -/
theorem entries_stand_for_rows {sheet : Sheet} {rules : ErrorRules}
    (built : ofSheet sheet = .ok rules) :
    ∃ rows, sheet.ruleRows Column = .ok rows ∧
      List.Forall₂ (Entry.IsAt rows)
        ((textRows .message rows).filter fun i => (anchor? rows i).isSome) rules.allEntries ∧
      (∀ k i, anchor? rows k = some i →
        i ∈ (textRows .message rows).filter fun i => (anchor? rows i).isSome) ∧
      ∀ i row, rows[i]? = some row → row.cell .family ≠ "" →
        (nearest? (hasText .resourceAction rows) i).isSome = true → IsExplained row := by
  rw [ofSheet, Except.bind_eq_ok_iff] at built
  obtain ⟨rows, read, built⟩ := built
  rw [ofRows, Except.bind_eq_ok_iff] at built
  obtain ⟨sections, sections_read, same⟩ := built
  obtain rfl := Except.ok.inj same
  exact ⟨rows, read, forall₂_entries sections_read, fun _ _ => mem_filter_of_anchor?,
    fun _ _ => isExplained_of_family sections_read⟩

/-- A message above the first section, and in a block of the section a code above the first
message. -/
def straySheet : Sheet where
  header := .ofDistinct ((Named.all : List Column).map Named.name) nodup_columnNames
  rows := [
    ⟨2, ["", "credit_card", "", "", "", "", "Not for any action"]⟩,
    ⟨3, ["PostModernPI", "credit_card"]⟩,
    ⟨4, ["", "", "", "", "", "", "", "InvalidCvv"]⟩,
    ⟨5, ["", "", "", "", "", "", "Declined", "ExpiredCard"]⟩,
    ⟨6, ["", "", "", "", "", "", "", "InvalidAmount"]⟩]

/-- The only entry stands at the last message, with the code on its row and the one below. -/
theorem entries_stand_for_rows_of_straySheet :
    ∃ rules rows, ofSheet straySheet = .ok rules ∧ straySheet.ruleRows Column = .ok rows ∧
      List.Forall₂ (Entry.IsAt rows) [3] rules.allEntries ∧
      ((textRows .errorCode rows).filter fun k => anchor? rows k = some 3) = [3, 4] := by
  have builds : (ofSheet straySheet).map (fun rules => rules.sections.length) = .ok 1 := by
    decide +kernel
  obtain ⟨rules, built, -⟩ := Except.map_eq_ok_iff.mp builds
  obtain ⟨rows, read, entries, -⟩ := entries_stand_for_rows built
  have placed : ((textRows .message rows).filter fun i => (anchor? rows i).isSome) = [3] := by
    rw [eq_map_of_ruleRows read]
    decide +kernel
  refine ⟨rules, rows, built, read, placed ▸ entries, ?_⟩
  rw [eq_map_of_ruleRows read]
  decide +kernel

/-- Messages and codes may be passed over in a sheet that is not refused: no entry has the line of
the first message, and no entry lists the first code. -/
theorem message_and_code_are_passed_over :
    ∃ rules rows, ofSheet straySheet = .ok rules ∧ straySheet.ruleRows Column = .ok rows ∧
      (¬ ∀ i ∈ textRows .message rows, ∃ entry ∈ rules.allEntries,
        rows[i]?.map (·.line) = some entry.line) ∧
      ¬ ∀ k ∈ textRows .errorCode rows, ∃ entry ∈ rules.allEntries,
        rows[k]?.any fun row => entry.errorCodes.any fun code =>
          Constant.resolve (row.cell .errorCode) row.line == .ok code := by
  have builds : (ofSheet straySheet).map (fun rules => rules.allEntries.map fun entry =>
      (entry.line, entry.errorCodes)) = .ok [(5, ["ExpiredCard", "InvalidAmount"])] := by
    decide +kernel
  obtain ⟨rules, built, entries⟩ := Except.map_eq_ok_iff.mp builds
  have read := built
  rw [ofSheet, Except.bind_eq_ok_iff] at read
  obtain ⟨rows, read, -⟩ := read
  have only : ∀ entry ∈ rules.allEntries,
      entry.line = 5 ∧ entry.errorCodes = ["ExpiredCard", "InvalidAmount"] := by
    intro entry listed
    have among := List.mem_map_of_mem (f := fun entry => (entry.line, entry.errorCodes)) listed
    rwa [entries, List.mem_singleton, Prod.mk.injEq] at among
  obtain rfl := eq_map_of_ruleRows read
  refine ⟨rules, _, built, read, fun placed => ?_, fun placed => ?_⟩
  · obtain ⟨entry, listed, same⟩ := placed 0 (by decide +kernel)
    rw [(only entry listed).1] at same
    revert same
    decide +kernel
  · obtain ⟨entry, listed, same⟩ := placed 2 (by decide +kernel)
    rw [(only entry listed).2] at same
    revert same
    decide +kernel

end PaymentRules.ErrorRules
