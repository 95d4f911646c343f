import PaymentRules.Proofs.ClientRules.Cleanup
import PaymentRules.Proofs.ClientRules.Placement
import PaymentRules.Proofs.Component.Nesting
import PaymentRules.Proofs.ErrorRules.Cleanup
import PaymentRules.Proofs.ErrorRules.Codes
import PaymentRules.Proofs.Sheet.Joining

/-!
# The nesting of built rules

In the rules of a sheet whose lines increase, everything stands where it belongs. The filters of a
group stand between the line of the group and that of the next one. The blocks of a section and the
entries of a block stand in the same way, the latter also in front of the next section. None of
these is empty.

Hence a line that a resolution reports leads back to one filter or to one entry, whatever group,
section or block it is in.

## Main results

* `ClientRules.isNested_groups` — the groups with the lines of their filters
* `ErrorRules.isNested_sections`, `ErrorRules.isNested_blocks`,
  `ErrorRules.isNested_sections_entries` — the sections with the lines of their blocks, the blocks
  of all sections with those of their entries, and the sections with those, too
* `built_rules_are_nested` — all of this, and what a reported line leads to
-/

namespace PaymentRules

/-! ## Client-action rules -/

namespace ClientRules

section

variable {first : SheetRow} {kind : Grammar SheetRow} {position : Nat} {own : List SheetRow}
  {group : Group}

/-- A group without filters is refused. -/
theorem Group.filters_ne_nil {component : Component SheetRow}
    (read : Group.ofComponent first component = .ok group) : group.filters ≠ [] := by
  rw [Group.ofComponent] at read
  split at read
  · simp only [Except.bind_eq_ok_iff, Except.pure_eq_ok] at read
    obtain ⟨_, -, filters, -, read⟩ := read
    split at read
    · cases read
    · next some_filter =>
      simp only [Except.bind_eq_ok_iff, Except.ok.injEq] at read
      obtain ⟨_, -, rfl⟩ := read
      exact fun nothing => some_filter (List.isEmpty_iff.mpr nothing)
  · cases read

theorem Group.fits (head : own.head? = some first)
    (read : Group.ofComponent first (kind.parseAt position own) = .ok group) :
    Fits Group.line (fun group => group.filters.map (·.line)) (own.map (·.line)) group where
  head := by rw [List.head?_map, head, (of_ofComponent read).line, Option.map_some]
  sublist := filterLines_sublist read
  nonempty nothing := filters_ne_nil read (List.map_eq_nil_iff.mp nothing)

end

section

variable {sheet : Sheet} {rules : ClientRules} {query : Query}

theorem isNested_groups (increasing : (sheet.rows.map (·.line)).Pairwise (· < ·))
    (built : ofSheet sheet = .ok rules) :
    IsNested Group.line (fun group => group.filters.map (·.line)) rules.groups := by
  obtain ⟨rows, same_lines, groups_read⟩ := exists_mapM_of_ofSheet built
  rw [← same_lines] at increasing
  exact (isLaidOut_of_mapM (fun _ _ _ _ _ => Group.fits) groups_read).isNested increasing

/-- The line of a selected filter is the line of no other filter. -/
theorem filter_line_eq_selected (increasing : (sheet.rows.map (·.line)).Pairwise (· < ·))
    (built : ofSheet sheet = .ok rules) {selection : Selection}
    (selected : rules.resolve query = .ok selection) :
    (rules.allFilters.filter fun filter => filter.line = selection.filter.line) =
      [selection.filter] := by
  have lines_increase := (isNested_groups increasing built).held_increasing
  rw [← List.map_flatMap] at lines_increase
  obtain ⟨group_listed, filter_listed⟩ := mem_of_selected selected
  exact filter_line_eq_singleton lines_increase
    (List.mem_flatMap.mpr ⟨selection.group, group_listed, filter_listed⟩)

end

end ClientRules

/-! ## Service-error rules -/

namespace ErrorRules

section

variable {first : SheetRow} {kind : Grammar SheetRow} {position : Nat} {own : List SheetRow}
  {block : Block} {part : Section}

/-- A block without entries is refused. -/
theorem Block.entries_ne_nil {component : Component SheetRow}
    (read : Block.ofComponent first component = .ok block) : block.table.entries ≠ [] := by
  intro nothing
  have table_read := ofEntries_of_ofComponent read
  rw [nothing] at table_read
  cases table_read

/-- What a table answers is one of its entries. -/
theorem EntryTable.mem_of_lookup? {table : EntryTable} {code : String} {entry : Entry}
    (answered : table.lookup? code = some entry) : entry ∈ table.entries := by
  obtain ⟨_, -, found⟩ := Option.bind_eq_some_iff.mp answered
  exact List.mem_of_getElem? found

/-- A section without blocks is refused. -/
theorem Section.blocks_ne_nil {component : Component SheetRow}
    (read : Section.ofComponent first component = .ok part) : part.blocks ≠ [] := by
  rw [Section.ofComponent, Except.bind_eq_ok_iff] at read
  obtain ⟨blocks, -, read⟩ := read
  rw [Except.bind_eq_ok_iff] at read
  obtain ⟨_, -, read⟩ := read
  split at read
  · cases read
  · next some_block =>
    obtain rfl := Except.ok.inj read
    exact fun nothing => some_block (List.isEmpty_iff.mpr nothing)

/-- The lines of the entries of a block are a selection of those of its rows. -/
theorem Block.entryLines_sublist
    (read : Block.ofComponent first (kind.parseAt position own) = .ok block) :
    (block.table.entries.map (·.line)).Sublist (own.map (·.line)) :=
  map_line_sublist (fun _ _ _ entry_read => (Entry.of_ofComponent entry_read).2.2.1)
    (entries_of_ofComponent read)

theorem Block.fits (head : own.head? = some first)
    (read : Block.ofComponent first (kind.parseAt position own) = .ok block) :
    Fits Block.line (fun block => block.table.entries.map (·.line)) (own.map (·.line)) block where
  head := by rw [List.head?_map, head, line_of_ofComponent read, Option.map_some]
  sublist := entryLines_sublist read
  nonempty nothing := entries_ne_nil read (List.map_eq_nil_iff.mp nothing)

theorem Section.fits (head : own.head? = some first)
    (read : Section.ofComponent first (kind.parseAt position own) = .ok part) :
    Fits Section.line (fun part => part.blocks.map (·.line)) (own.map (·.line)) part where
  head := by rw [List.head?_map, head, (of_ofComponent read).1, Option.map_some]
  sublist := blockLines_sublist read
  nonempty nothing := blocks_ne_nil read (List.map_eq_nil_iff.mp nothing)

/-- The entries of all blocks of a section are on lines of the section, and there are some. -/
theorem Section.fits_entries (head : own.head? = some first)
    (read : Section.ofComponent first (kind.parseAt position own) = .ok part) :
    Fits Section.line (fun part => part.blocks.flatMap fun block =>
      block.table.entries.map (·.line)) (own.map (·.line)) part where
  head := (fits head read).head
  sublist := lines_sublist (fun _ _ _ _ _ _ => Block.entryLines_sublist) (of_ofComponent read).2
  nonempty nothing := by
    obtain ⟨block, listed⟩ := List.exists_mem_of_ne_nil _ (blocks_ne_nil read)
    obtain ⟨_, -, block_read⟩ := Except.exists_of_mem_mapM (of_ofComponent read).2 listed
    exact Block.entries_ne_nil block_read
      (List.map_eq_nil_iff.mp (List.flatMap_eq_nil_iff.mp nothing block listed))

end

theorem entry_mem_of_selected {rules : ErrorRules} {action : ResourceAction} {query : Query}
    {selection : Selection} (selected : rules.resolve action query = .ok selection) :
    selection.entry ∈ selection.block.table.entries := by
  have decided := sectionDecides_resolve rules action query
  rw [selected] at decided
  cases decided with
  | selected _ _ listed => exact EntryTable.mem_of_lookup? listed

section

variable {sheet : Sheet} {rules : ErrorRules} {action : ResourceAction} {query : Query}
  (increasing : (sheet.rows.map (·.line)).Pairwise (· < ·)) (built : ofSheet sheet = .ok rules)

include increasing built

theorem isNested_sections :
    IsNested Section.line (fun part => part.blocks.map (·.line)) rules.sections := by
  obtain ⟨rows, same_lines, sections_read⟩ := exists_mapM_of_ofSheet built
  rw [← same_lines] at increasing
  exact (isLaidOut_of_mapM (fun _ _ _ _ _ => Section.fits) sections_read).isNested increasing

theorem isNested_sections_entries :
    IsNested Section.line (fun part => part.blocks.flatMap fun block =>
      block.table.entries.map (·.line)) rules.sections := by
  obtain ⟨rows, same_lines, sections_read⟩ := exists_mapM_of_ofSheet built
  rw [← same_lines] at increasing
  exact (isLaidOut_of_mapM (fun _ _ _ _ _ => Section.fits_entries) sections_read).isNested
    increasing

/-- The blocks are well nested across the sections that they are in. -/
theorem isNested_blocks :
    IsNested Block.line (fun block => block.table.entries.map (·.line))
      (rules.sections.flatMap (·.blocks)) := by
  obtain ⟨rows, same_lines, sections_read⟩ := exists_mapM_of_ofSheet built
  rw [← same_lines] at increasing
  have laid_out : IsLaidOut Block.line (fun block => block.table.entries.map (·.line))
      (rows.map (·.line)) (rules.sections.flatMap (·.blocks)) :=
    isLaidOut_flatMap_of_mapM (fun _ _ _ _ _ _ part_read =>
      isLaidOut_of_mapM (fun _ _ _ _ _ => Block.fits) (Section.of_ofComponent part_read).2)
      sections_read
  exact laid_out.isNested increasing

/-- The line of a selected entry is the line of no other entry, whatever block that is in. -/
theorem entry_line_eq_selected {selection : Selection}
    (selected : rules.resolve action query = .ok selection) :
    (rules.allEntries.filter fun entry => entry.line = selection.entry.line) =
      [selection.entry] := by
  have lines_increase := (isNested_sections_entries increasing built).held_increasing
  simp only [← List.map_flatMap] at lines_increase
  obtain ⟨part_listed, block_listed⟩ := mem_of_selected selected
  have entry_listed : selection.entry ∈ selection.part.blocks.flatMap (·.table.entries) :=
    List.mem_flatMap.mpr ⟨selection.block, block_listed, entry_mem_of_selected selected⟩
  exact filter_line_eq_singleton lines_increase
    (List.mem_flatMap.mpr ⟨selection.part, part_listed, entry_listed⟩)

end

end ErrorRules

/-! ## Both families -/

/-- The rules of a sheet whose lines increase are well nested. For client actions these are the
groups with their filters. For service errors these are the sections with their blocks, all blocks
with their entries, and the sections with the entries of their blocks. The line of the filter or of
the entry that a resolution selects is the line of no other one. -/
theorem built_rules_are_nested {sheet : Sheet}
    (increasing : (sheet.rows.map (·.line)).Pairwise (· < ·)) :
    (∀ rules, ClientRules.ofSheet sheet = .ok rules →
      IsNested ClientRules.Group.line (fun group => group.filters.map (·.line)) rules.groups ∧
      ∀ query selection, rules.resolve query = .ok selection →
        (rules.allFilters.filter fun filter => filter.line = selection.filter.line) =
          [selection.filter]) ∧
    (∀ rules, ErrorRules.ofSheet sheet = .ok rules →
      IsNested ErrorRules.Section.line (fun part => part.blocks.map (·.line)) rules.sections ∧
      IsNested ErrorRules.Block.line (fun block => block.table.entries.map (·.line))
        (rules.sections.flatMap (·.blocks)) ∧
      IsNested ErrorRules.Section.line
        (fun part => part.blocks.flatMap fun block => block.table.entries.map (·.line))
        rules.sections ∧
      ∀ action query selection, rules.resolve action query = .ok selection →
        (rules.allEntries.filter fun entry => entry.line = selection.entry.line) =
          [selection.entry]) := by
  constructor
  · intro rules built
    refine ⟨ClientRules.isNested_groups increasing built, fun query selection selected => ?_⟩
    exact ClientRules.filter_line_eq_selected increasing built selected
  · intro rules built
    refine ⟨ErrorRules.isNested_sections increasing built,
      ErrorRules.isNested_blocks increasing built,
      ErrorRules.isNested_sections_entries increasing built,
      fun action query selection selected => ?_⟩
    exact ErrorRules.entry_line_eq_selected increasing built selected

/-- Two sections, the first one with two blocks. Its first row opens no block, and a row without
anything in it stands between the blocks. -/
def nestedRows : List Row := [
  ⟨2, ["PostModernPI"]⟩,
  ⟨3, ["", "credit_card", "", "", "", "", "Declined", "InvalidCvv"]⟩,
  ⟨4, ["", "", "", "", "", "", "", "ExpiredCard"]⟩,
  ⟨6, ["", "", "", "", "", "", "Try again"]⟩,
  ⟨7, []⟩,
  ⟨8, ["", "ewallet", "", "", "", "", "Try later"]⟩,
  ⟨9, ["UpdateModernPI", "credit_card", "", "", "", "", "Not now"]⟩]

/-- A row without anything in it and one without a filter stand between two groups, on the lines 2
and 6. The filter on the line 2 and the entry on the line 6 are selected, and there are no others on
these lines. -/
theorem built_rules_are_nested_of_rows :
    (∃ rules selection, ClientRules.ofSheet ⟨walletHeader, walletRows ++ cardRows⟩ = .ok rules ∧
      rules.groups.map (fun group => (group.line, group.filters.map (·.line))) =
        [(2, [2, 3]), (6, [6])] ∧
      IsNested ClientRules.Group.line (fun group => group.filters.map (·.line)) rules.groups ∧
      rules.resolve ⟨"ewallet", none, none, some "sms", none, some "xbox"⟩ = .ok selection ∧
      (rules.allFilters.filter fun filter => filter.line = 2) = [selection.filter]) ∧
    (∃ rules selection, ErrorRules.ofSheet ⟨declineHeader, nestedRows⟩ = .ok rules ∧
      (rules.sections.flatMap fun part => part.blocks.map fun block =>
        (part.line, block.line, block.table.entries.map (·.line))) =
        [(2, 3, [3, 6]), (2, 8, [8]), (9, 9, [9])] ∧
      IsNested ErrorRules.Block.line (fun block => block.table.entries.map (·.line))
        (rules.sections.flatMap (·.blocks)) ∧
      rules.resolve .postModernPI (.of "credit_card" none none none "Blocked") = .ok selection ∧
      (rules.allEntries.filter fun entry => entry.line = 6) = [selection.entry]) := by
  constructor
  · have read : (ClientRules.ofSheet ⟨walletHeader, walletRows ++ cardRows⟩).map (fun rules =>
        (rules.groups.map fun group => (group.line, group.filters.map (·.line)),
          (rules.resolve ⟨"ewallet", none, none, some "sms", none, some "xbox"⟩).map
            (·.filter.line))) =
        .ok ([(2, [2, 3]), (6, [6])], .ok 2) := by decide +kernel
    obtain ⟨rules, built, answered⟩ := Except.map_eq_ok_iff.mp read
    obtain ⟨lines, answered⟩ := Prod.mk.inj answered
    obtain ⟨selection, selected, at_two⟩ := Except.map_eq_ok_iff.mp answered
    obtain ⟨nested, known⟩ := (built_rules_are_nested (by decide)).1 rules built
    exact ⟨rules, selection, built, lines, nested, selected, at_two ▸ known _ selection selected⟩
  · have read : (ErrorRules.ofSheet ⟨declineHeader, nestedRows⟩).map (fun rules =>
        (rules.sections.flatMap fun part => part.blocks.map fun block =>
            (part.line, block.line, block.table.entries.map (·.line)),
          (rules.resolve .postModernPI (.of "credit_card" none none none "Blocked")).map
            (·.entry.line))) =
        .ok ([(2, 3, [3, 6]), (2, 8, [8]), (9, 9, [9])], .ok 6) := by decide +kernel
    obtain ⟨rules, built, answered⟩ := Except.map_eq_ok_iff.mp read
    obtain ⟨lines, answered⟩ := Prod.mk.inj answered
    obtain ⟨selection, selected, at_six⟩ := Except.map_eq_ok_iff.mp answered
    obtain ⟨-, nested, -, known⟩ := (built_rules_are_nested (by decide)).2 rules built
    exact ⟨rules, selection, built, lines, nested, selected,
      at_six ▸ known _ _ selection selected⟩

end PaymentRules
