import PaymentRules.ErrorRules.Sheet
import PaymentRules.Proofs.Component.Lines
import PaymentRules.Proofs.Component.Walk

/-!
# The lines of service-error rules

A section has the line of the row that opens it, and so has a block. Sections are read from separate
rows, and so are the blocks of all sections.

## Main results

* `nodup_sectionLines`, `nodup_blockLines` — rows with lines of their own give sections, and blocks,
  with lines of their own
-/

namespace PaymentRules.ErrorRules

section

variable {first : SheetRow} {component : Component SheetRow} {part : Section}

theorem Block.line_of_ofComponent {block : Block}
    (read : Block.ofComponent first component = .ok block) : block.line = first.line := by
  simp only [Block.ofComponent, Except.bind_eq_ok_iff, Except.pure_eq_ok, Except.ok.injEq] at read
  obtain ⟨_, -, _, -, _, -, _, -, _, -, _, -, rfl⟩ := read
  rfl

/-- A section has the line of its first row, and its blocks are read from its own rows. -/
theorem Section.of_ofComponent (read : Section.ofComponent first component = .ok part) :
    part.line = first.line ∧
      ((component.anchored blockGrammar.name).mapM fun block =>
        Block.ofComponent block.1 block.2) = .ok part.blocks := by
  rw [Section.ofComponent, Except.bind_eq_ok_iff] at read
  obtain ⟨blocks, blocks_read, read⟩ := read
  rw [Except.bind_eq_ok_iff] at read
  obtain ⟨action, -, read⟩ := read
  split at read
  · cases read
  · obtain rfl := Except.ok.inj read
    exact ⟨rfl, blocks_read⟩

/-- The lines of the blocks of a section are a selection of those of its rows. -/
theorem Section.blockLines_sublist {kind : Grammar SheetRow} {position : Nat}
    {rows : List SheetRow}
    (read : Section.ofComponent first (kind.parseAt position rows) = .ok part) :
    (part.blocks.map (·.line)).Sublist (rows.map (·.line)) :=
  map_line_sublist (fun _ _ _ => Block.line_of_ofComponent) (of_ofComponent read).2

end

section

variable {sheet : Sheet} {rules : ErrorRules}

theorem exists_mapM_of_ofSheet (built : ofSheet sheet = .ok rules) :
    ∃ rows : List SheetRow, rows.map (·.line) = sheet.rows.map (·.line) ∧
      (((grammar.parseAt 0 rows).anchored sectionGrammar.name).mapM fun part =>
        Section.ofComponent part.1 part.2) = .ok rules.sections := by
  rw [ofSheet, Except.bind_eq_ok_iff] at built
  obtain ⟨rows, read, built⟩ := built
  rw [ofRows, Except.bind_eq_ok_iff] at built
  obtain ⟨sections, sections_read, same⟩ := built
  obtain rfl := Except.ok.inj same
  rw [parse_whole] at sections_read
  exact ⟨rows, lines_of_ruleRows read, sections_read⟩

/-- No two sections have a line in common when no two rows have. -/
theorem nodup_sectionLines (distinct : (sheet.rows.map (·.line)).Nodup)
    (built : ofSheet sheet = .ok rules) : (rules.sections.map (·.line)).Nodup := by
  obtain ⟨rows, same_lines, sections_read⟩ := exists_mapM_of_ofSheet built
  rw [← same_lines] at distinct
  exact distinct.sublist
    (map_line_sublist (fun _ _ _ read => (Section.of_ofComponent read).1) sections_read)

/-- No two blocks have a line in common when no two rows have, whatever their sections. -/
theorem nodup_blockLines (distinct : (sheet.rows.map (·.line)).Nodup)
    (built : ofSheet sheet = .ok rules) :
    (rules.sections.flatMap fun part => part.blocks.map (·.line)).Nodup := by
  obtain ⟨rows, same_lines, sections_read⟩ := exists_mapM_of_ofSheet built
  rw [← same_lines] at distinct
  refine distinct.sublist (lines_sublist (fun first _ _ own part _ read => ?_) sections_read)
  exact Section.blockLines_sublist read

end

end PaymentRules.ErrorRules
