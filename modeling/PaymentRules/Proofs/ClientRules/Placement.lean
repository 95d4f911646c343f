import PaymentRules.Proofs.ClientRules.Lines
import PaymentRules.Proofs.Component.Reading

/-!
# The rows of client-action rules

Every row with an action type is a filter of the group that was opened by the nearest row with a
name at or above it, and there are no other filters. Rows above the first name belong to no group:
they are passed over when the first row of the sheet is blank, and otherwise the sheet is refused.

## Main definitions

* `allFilters` — the filters of all groups
* `Filter.IsAt` — a filter is read from the row at a position
* `opening?` — the nearest row with a name

## Main results

* `filters_stand_for_rows` — the filters of all groups, and of each group, by their rows
-/

namespace PaymentRules.ClientRules

/-- The filters of all groups, in file order. -/
def allFilters (rules : ClientRules) : List Filter :=
  rules.groups.flatMap (·.filters)

/-- The filter is what the row at a position says, with the line of that row. -/
def Filter.IsAt (rows : List SheetRow) (i : Nat) (filter : Filter) : Prop :=
  ∃ row, rows[i]? = some row ∧ Filter.ofRow row = .ok filter ∧ filter.line = row.line

/-- The nearest row with a name, at or above a position. -/
def opening? (rows : List SheetRow) (i : Nat) : Option Nat :=
  nearest? (hasText .paymentName rows) i

section

variable {rows : List SheetRow} {first : SheetRow} {component : Component SheetRow} {group : Group}

/-- The filters of a group stand for the rows of its tile with an action type. -/
theorem Group.forall₂_filters {tile : Span} (forward : tile.start ≤ tile.stop)
    (inside : tile.stop ≤ rows.length)
    (read : Group.ofComponent first (groupGrammar.parse rows tile) = .ok group) :
    List.Forall₂ (Filter.IsAt rows) (tile.rows.filter (hasText .actionType rows))
      group.filters := by
  have found : (groupGrammar.parts.find? fun kind => filterGrammar.name == kind.name) =
      some filterGrammar := rfl
  have single : ∀ row position, filterGrammar.continues row position = false := fun _ _ => rfl
  have keeps : isMarked filterGrammar.keeps rows = hasText .actionType rows := by
    funext i
    simp [isMarked, hasText, filterGrammar, Pattern.holds, bne]
  rw [← keeps]
  refine (forall₂_of_single single found forward inside (of_ofComponent read).filters).imp ?_
  rintro i filter ⟨row, part, at_row, read_row⟩
  exact ⟨row, at_row, read_row, (Filter.of_ofRow read_row).line⟩

/-- Groups open at rows with a name, none of which is blank. -/
theorem opensAtMarks_groupGrammar {sheet : Sheet} (read : sheet.ruleRows Column = .ok rows) :
    OpensAtMarks rows groupGrammar (fun row => row.cell .paymentName != "")
      (fun part => Group.ofComponent part.1 part.2) where
  continues row position := by simp [groupGrammar, Pattern.holds, bne]
  keeps row listed named := by
    rw [bne_iff_ne] at named
    rw [groupGrammar, Bool.not_eq_true_eq_eq_false, Bool.eq_false_iff]
    exact fun blank => named (cell_eq_empty_of_isBlank read listed blank .paymentName)
  marked first part group _ read_group := bne_iff_ne.mpr (Group.of_ofComponent read_group).named

end

/-! ## The groups of a sheet -/

/-- Rows that stand at or below some row with a name. -/
theorem filter_opening?_eq (rows : List SheetRow) (column : Column) :
    ((Span.mk 0 rows.length).rows.filter fun i =>
      (nearest? (hasText .paymentName rows) i).any fun opening =>
        decide (0 ≤ opening) && hasText column rows i) =
      (textRows column rows).filter fun i => (opening? rows i).isSome := by
  rw [textRows_eq, List.filter_filter]
  refine List.filter_congr fun i _ => ?_
  rw [opening?]
  cases nearest? (hasText .paymentName rows) i <;> simp

section

variable {sheet : Sheet} {rows : List SheetRow} {groups : List Group}
  (read : sheet.ruleRows Column = .ok rows)
  (groups_read : ((grammar.parse rows ⟨0, rows.length⟩).anchored groupGrammar.name).mapM
    (fun part => Group.ofComponent part.1 part.2) = .ok groups)

include read groups_read

/-- The first row of a sheet has a name or is blank. -/
theorem isBlank_of_unnamed {first : SheetRow} (at_first : first ∈ rows.head?)
    (unnamed : first.cell .paymentName = "") : first.isBlank = true := by
  -- A first row that is not blank is kept as the first row of a group, and a group needs a name.
  by_contra full
  have at_start : rows[0]? = some first := by rwa [← List.head?_eq_getElem?]
  have kept : groupGrammar.keeps first = true := by simpa [groupGrammar] using full
  have named := (opensAtMarks_groupGrammar read).marked_of_keeps rfl (Nat.zero_le _)
    (Nat.le_refl _) groups_read (List.getElem?_eq_some_iff.mp at_start).1 at_start kept
  exact bne_iff_ne.mp named unnamed

/-- The filters of all groups stand for the rows that have a row with a name at or above them. -/
theorem forall₂_filters :
    List.Forall₂ (Filter.IsAt rows)
      ((textRows .actionType rows).filter fun i => (opening? rows i).isSome)
      (groups.flatMap (·.filters)) := by
  rw [← filter_opening?_eq]
  refine (opensAtMarks_groupGrammar read).forall₂_flatMap rfl (Nat.zero_le _) (Nat.le_refl _)
    groups_read (·.filters) (fun _ => hasText .actionType rows) ?_
  rintro tile group is_tile ⟨_, _, read_group⟩
  exact Group.forall₂_filters is_tile.nonempty.le is_tile.inside read_group

/-- The groups stand for the rows with a name, each with the filters of the rows below its own. -/
theorem forall₂_groups :
    List.Forall₂ (fun opening group => ∃ first, rows[opening]? = some first ∧
        group.name = first.cell .paymentName ∧ group.line = first.line ∧
        List.Forall₂ (Filter.IsAt rows)
          ((textRows .actionType rows).filter fun i => opening? rows i = some opening)
          group.filters)
      (textRows .paymentName rows) groups := by
  rw [textRows_eq Column.paymentName]
  refine (opensAtMarks_groupGrammar read).forall₂ rfl (Nat.zero_le _) (Nat.le_refl _) groups_read ?_
  rintro tile group is_tile ⟨first, at_start, read_group⟩
  have filters := Group.forall₂_filters is_tile.nonempty.le is_tile.inside read_group
  rw [is_tile.filter_rows_eq rfl, ← textRows_eq] at filters
  have own := Group.of_ofComponent read_group
  exact ⟨first, at_start, own.name, own.line, filters⟩

end

/-- The filters of built rules stand for the rows with an action type that have a row with a name at
or above them, in file order; the groups stand for the rows with a name; and the filters of a group
stand for those rows of which its own is the nearest one with a name. A first row without a name is
blank. -/
theorem filters_stand_for_rows {sheet : Sheet} {rules : ClientRules}
    (built : ofSheet sheet = .ok rules) :
    ∃ rows, sheet.ruleRows Column = .ok rows ∧
      (∀ first ∈ rows.head?, first.cell .paymentName = "" → first.isBlank = true) ∧
      List.Forall₂ (Filter.IsAt rows)
        ((textRows .actionType rows).filter fun i => (opening? rows i).isSome)
        rules.allFilters ∧
      List.Forall₂ (fun opening group => ∃ first, rows[opening]? = some first ∧
          group.name = first.cell .paymentName ∧ group.line = first.line ∧
          List.Forall₂ (Filter.IsAt rows)
            ((textRows .actionType rows).filter fun i => opening? rows i = some opening)
            group.filters)
        (textRows .paymentName rows) rules.groups := by
  rw [ofSheet, Except.bind_eq_ok_iff] at built
  obtain ⟨rows, read, built⟩ := built
  rw [ofRows, Except.bind_eq_ok_iff] at built
  obtain ⟨groups, groups_read, same⟩ := built
  obtain rfl := Except.ok.inj same
  exact ⟨rows, read, fun _ => isBlank_of_unnamed read groups_read,
    forall₂_filters read groups_read, forall₂_groups read groups_read⟩

/-- A blank row and a filter, and below them a group that has two filters. -/
def straySheet : Sheet where
  header := .ofDistinct ((Named.all : List Column).map Named.name) nodup_columnNames
  rows := [
    ⟨2, List.replicate 15 ""⟩,
    ⟨3, ["", "", "", "", "", "", "", "sms", "", "", "Redirect", "RedirectUrl"]⟩,
    ⟨4, ["Wallets", "ewallet", "", "", "", "", "", "", "", "", "Redirect", "RedirectUrl"]⟩,
    ⟨6, ["", "", "", "", "", "", "", "sms", "", "", "Redirect", "RedirectServiceLink"]⟩]

/-- The first filter of the sheet is in no group. The group below it has the other two. -/
theorem filters_stand_for_rows_of_straySheet :
    ∃ rules rows, ofSheet straySheet = .ok rules ∧ straySheet.ruleRows Column = .ok rows ∧
      List.Forall₂ (Filter.IsAt rows) [2, 3] rules.allFilters := by
  have builds : (ofSheet straySheet).map (fun rules => rules.groups.length) = .ok 1 := by
    decide +kernel
  obtain ⟨rules, built, -⟩ := Except.map_eq_ok_iff.mp builds
  obtain ⟨rows, read, -, filters, -⟩ := filters_stand_for_rows built
  have chosen : ((textRows .actionType rows).filter fun i => (opening? rows i).isSome) =
      [2, 3] := by
    rw [eq_map_of_ruleRows read]
    decide +kernel
  exact ⟨rules, rows, built, read, chosen ▸ filters⟩

/-- Rows with an action type may be passed over in a sheet that is not refused: the filters of the
rules do not stand for all of these rows, not even by their lines. -/
theorem filter_above_names_is_passed_over :
    ∃ rules rows, ofSheet straySheet = .ok rules ∧ straySheet.ruleRows Column = .ok rows ∧
      textRows .actionType rows = [1, 2, 3] ∧
      rules.allFilters.map (·.line) = [4, 6] ∧
      ¬ List.Forall₂ (fun i filter => ∃ row, rows[i]? = some row ∧ filter.line = row.line)
        (textRows .actionType rows) rules.allFilters := by
  have builds : (ofSheet straySheet).map (fun rules =>
      rules.allFilters.map (·.line)) = .ok [4, 6] := by decide +kernel
  obtain ⟨rules, built, lines⟩ := Except.map_eq_ok_iff.mp builds
  have read := built
  rw [ofSheet, Except.bind_eq_ok_iff] at read
  obtain ⟨rows, read, -⟩ := read
  have positions : textRows .actionType rows = [1, 2, 3] := by
    rw [eq_map_of_ruleRows read]
    decide +kernel
  refine ⟨rules, rows, built, read, positions, lines, fun one_to_one => ?_⟩
  have held := congrArg List.length lines
  rw [List.length_map, ← one_to_one.length_eq, positions] at held
  cases held

end PaymentRules.ClientRules
