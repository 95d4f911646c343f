import PaymentRules.ClientRules.Sheet
import PaymentRules.ErrorRules.Sheet
import PaymentRules.Proofs.Component.Reading
import PaymentRules.Proofs.Component.Relabelling

/-!
# Rows without the mark of a blank row

Of the columns that a family does not know, a row tells only whether anything stands in them. The
mark that nothing does is looked at in one place: a stretch of rows that opens with a blank row is
no group of client-action rules. Where every such stretch opens with a name, the mark says nothing
that the name does not say, and the rows can be read without it.

## Main definitions

* `RuleRow.unmarked` — the row without the mark

## Main results

* `ErrorRules.ofRows_unmarked` — service-error rules are read without the mark
* `ClientRules.ofRows_unmarked` — so are client-action rules, when the first row has a name
-/

namespace PaymentRules

section

variable {κ : Type}

/-- The row without the mark that nothing stands in it. -/
def RuleRow.unmarked (row : RuleRow κ) : RuleRow κ :=
  { row with isBlank := false }

variable [RuleColumn κ]

@[simp] theorem RuleRow.columnList_unmarked (column : κ) (rows : List (RuleRow κ)) :
    columnList column (rows.map unmarked) = columnList column rows := by
  induction rows with
  | nil => rfl
  | cons row rows ih =>
    have below : ((rows.map unmarked).find? fun later => later.cell column ≠ "") =
        (rows.find? fun later => later.cell column ≠ "").map unmarked := List.find?_map
    rw [List.map_cons, columnList, columnList, ih, below]
    cases rows.find? fun later => later.cell column ≠ "" <;> rfl

end

namespace ClientRules

theorem ignores_methodGrammar : methodGrammar.Ignores RuleRow.unmarked :=
  .intro (fun _ _ => rfl) (fun _ => rfl) (fun _ listed => nomatch listed)

theorem ignores_filterGrammar : filterGrammar.Ignores RuleRow.unmarked :=
  .intro (fun _ _ => rfl) (fun _ => rfl) (fun _ listed => nomatch listed)

theorem interruption?_unmarked (methods : List (SheetRow × Component SheetRow)) :
    interruption? (methods.map fun method => (method.1.unmarked, method.2.map RuleRow.unmarked)) =
      (interruption? methods).map RuleRow.unmarked := by
  induction methods with
  | nil => rfl
  | cons one later ih =>
    cases later with
    | nil => rfl
    | cons next later =>
      rw [List.map_cons, List.map_cons] at *
      simp only [interruption?, Component.start_map, ih]
      split <;> rfl

theorem Methods.ofGroup_unmarked (group : Component SheetRow) :
    Methods.ofGroup (group.map RuleRow.unmarked) = Methods.ofGroup group := by
  rw [Methods.ofGroup, Methods.ofGroup, Component.anchored_map]
  cases group.anchored methodGrammar.name with
  | nil => rfl
  | cons method later =>
    -- The lists are read down the rows of all methods, of which none looks at the mark.
    have stretch : ((method :: later).map fun method =>
          (method.1.unmarked, method.2.map RuleRow.unmarked)).flatMap (·.2.rows) =
        ((method :: later).flatMap (·.2.rows)).map RuleRow.unmarked := by
      rw [List.flatMap_map, List.map_flatMap]
      simp only [Component.rows_map]
    have stopped := interruption?_unmarked (method :: later)
    rw [List.map_cons] at *
    simp only [Component.start_map, stopped, stretch, RuleRow.columnList_unmarked]
    cases interruption? (method :: later) <;> rfl

theorem Group.ofComponent_unmarked (first : SheetRow) (group : Component SheetRow) :
    Group.ofComponent first.unmarked (group.map RuleRow.unmarked) =
      Group.ofComponent first group := by
  have filters : ((group.map RuleRow.unmarked).anchored filterGrammar.name).mapM
        (fun filter => Filter.ofRow filter.1) =
      (group.anchored filterGrammar.name).mapM fun filter => Filter.ofRow filter.1 := by
    rw [Component.anchored_map, List.mapM_map]
    rfl
  rw [Group.ofComponent, Group.ofComponent, filters, Methods.ofGroup_unmarked]
  rfl

/-- Where the first row has a name, and no row with a name is blank, the mark tells nothing. -/
theorem ofRows_unmarked {rows : List SheetRow}
    (blank : ∀ row ∈ rows, row.isBlank = true → row.cell .paymentName = "")
    (named : ∀ row ∈ rows.head?, row.cell .paymentName ≠ "") :
    ofRows (rows.map RuleRow.unmarked) = ofRows rows := by
  have found : (grammar.parts.find? fun kind => groupGrammar.name == kind.name) =
      some groupGrammar := rfl
  -- The mark is asked of the first rows of groups only.
  have keeps : ∀ tile ∈ tiles groupGrammar.continues rows, ∀ first ∈ tile.head?,
      groupGrammar.keeps first.unmarked = groupGrammar.keeps first := by
    intro tile listed first at_head
    -- A tile opens at the first row of all or at a row that goes on with none: it has a name.
    have first_named : first.cell .paymentName ≠ "" := by
      obtain ⟨opening, at_opening, opens⟩ := head?_of_mem_tiles listed
      obtain rfl : opening = first := Option.some.inj (at_opening.symm.trans at_head)
      rcases opens with at_top | ⟨_, refuses⟩
      · exact named opening at_top
      · simpa [groupGrammar, Pattern.holds] using refuses
    have among : first ∈ rows := by
      rw [← flatten_tiles groupGrammar.continues rows]
      exact List.mem_flatten.mpr ⟨tile, listed, List.mem_of_mem_head? at_head⟩
    have marked : first.isBlank = false :=
      Bool.eq_false_iff.mpr fun is_blank => first_named (blank first among is_blank)
    simp [groupGrammar, RuleRow.unmarked, marked]
  have parts : ∀ part ∈ groupGrammar.parts, part.Ignores RuleRow.unmarked := by
    simp [groupGrammar, ignores_methodGrammar, ignores_filterGrammar]
  have continues : ∀ (row : SheetRow) position,
      groupGrammar.continues row.unmarked position = groupGrammar.continues row position :=
    fun _ _ => rfl
  simp only [ofRows, parse_whole]
  rw [anchored_map_of_heads found continues keeps parts, List.mapM_map]
  simp only [Function.comp_def, Group.ofComponent_unmarked]

end ClientRules

namespace ErrorRules

theorem ignores_entryGrammar : entryGrammar.Ignores RuleRow.unmarked :=
  .intro (fun _ _ => rfl) (fun _ => rfl) (fun _ listed => nomatch listed)

theorem ignores_blockGrammar : blockGrammar.Ignores RuleRow.unmarked :=
  .intro (fun _ _ => rfl) (fun _ => rfl) (by simp [blockGrammar, ignores_entryGrammar])

theorem ignores_sectionGrammar : sectionGrammar.Ignores RuleRow.unmarked :=
  .intro (fun _ _ => rfl) (fun _ => rfl) (by simp [sectionGrammar, ignores_blockGrammar])

theorem Entry.ofComponent_unmarked (first : SheetRow) (entry : Component SheetRow) :
    Entry.ofComponent first.unmarked (entry.map RuleRow.unmarked) =
      Entry.ofComponent first entry := by
  rw [Entry.ofComponent, Entry.ofComponent, Component.rows_map, RuleRow.columnList_unmarked]
  rfl

theorem Block.ofComponent_unmarked (first : SheetRow) (block : Component SheetRow) :
    Block.ofComponent first.unmarked (block.map RuleRow.unmarked) =
      Block.ofComponent first block := by
  simp only [Block.ofComponent, Component.anchored_map, List.mapM_map, Function.comp_def,
    Entry.ofComponent_unmarked, Component.rows_map, RuleRow.columnList_unmarked]
  rfl

theorem Section.ofComponent_unmarked (first : SheetRow) (part : Component SheetRow) :
    Section.ofComponent first.unmarked (part.map RuleRow.unmarked) =
      Section.ofComponent first part := by
  simp only [Section.ofComponent, Component.anchored_map, List.mapM_map, Function.comp_def,
    Block.ofComponent_unmarked]
  rfl

/-- No condition and no reading looks at the mark. -/
theorem ofRows_unmarked (rows : List SheetRow) :
    ofRows (rows.map RuleRow.unmarked) = ofRows rows := by
  have parts : ∀ part ∈ grammar.parts, part.Ignores RuleRow.unmarked := by
    simp [grammar, ignores_sectionGrammar]
  simp only [ofRows, parse_whole]
  rw [parseAt_map grammar parts, Component.anchored_map, List.mapM_map]
  simp only [Function.comp_def, Section.ofComponent_unmarked]

end ErrorRules

end PaymentRules
