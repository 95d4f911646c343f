import PaymentRules.ClientRules.Sheet
import PaymentRules.Proofs.Component.Lines
import PaymentRules.Proofs.Component.Walk

/-!
# The lines of client-action rules

A group has the line of the row that opens it, and a filter has the line of its row. Groups are read
from separate rows, and so are the filters of all groups.

## Main definitions

* `Filter.IsReadFrom`, `Group.IsReadFrom` — what a filter, a group that is read has from its rows

## Main results

* `nodup_groupLines`, `nodup_filterLines` — rows with lines of their own give groups, and filters,
  with lines of their own
-/

namespace PaymentRules.ClientRules

section

variable {row first : SheetRow} {component : Component SheetRow} {group : Group}

/-- What stands in the row of a filter. -/
structure Filter.IsReadFrom (row : SheetRow) (filter : Filter) : Prop where
  line : filter.line = row.line
  kind : row.word .actionType Named.ofName? = .ok filter.action.kind
  context : row.word .context Named.ofName? = .ok filter.action.context
  description : row.constant .descriptionType = .ok filter.descriptionType
  pendingOn : row.dimension .pendingOn = .ok filter.pendingOn
  requestType : row.dimension .requestType = .ok filter.requestType
  partner : row.dimension .partner = .ok filter.partner

theorem Filter.of_ofRow {filter : Filter} (read : Filter.ofRow row = .ok filter) :
    filter.IsReadFrom row := by
  rw [Filter.ofRow, Except.bind_eq_ok_iff] at read
  obtain ⟨kind, kind_read, read⟩ := read
  rw [Except.bind_eq_ok_iff] at read
  obtain ⟨context, context_read, read⟩ := read
  split at read
  · next agreed =>
    -- The two words are not kept beside the action, but they can be told from it.
    simp only [Except.bind_eq_ok_iff, Except.pure_eq_ok, Except.ok.injEq] at read
    obtain ⟨_, rfl, _, pendingOn, _, requestType, _, partner, _, description, rfl⟩ := read
    obtain ⟨rfl, rfl⟩ := FilterAction.kind_of_ofWords? agreed
    exact ⟨rfl, kind_read, context_read, description, pendingOn, requestType, partner⟩
  · cases read

/-- What stands in the first row of a group, and what is read from its component. -/
structure Group.IsReadFrom (first : SheetRow) (component : Component SheetRow) (group : Group) :
    Prop where
  named : first.cell .paymentName ≠ ""
  name : group.name = first.cell .paymentName
  line : group.line = first.line
  methods : Methods.ofGroup component = .ok group.methods
  filters : ((component.anchored filterGrammar.name).mapM fun filter => Filter.ofRow filter.1) =
    .ok group.filters

theorem Group.of_ofComponent (read : Group.ofComponent first component = .ok group) :
    group.IsReadFrom first component := by
  rw [Group.ofComponent] at read
  -- A group without a name or without filters is refused.
  split at read
  · next name named =>
    simp only [Except.bind_eq_ok_iff, Except.pure_eq_ok] at read
    obtain ⟨_, same, filters, filters_read, read⟩ := read
    obtain rfl := Except.ok.inj same
    split at read
    · cases read
    · simp only [Except.bind_eq_ok_iff, Except.ok.injEq] at read
      obtain ⟨methods, methods_read, rfl⟩ := read
      rw [RuleRow.optional] at named
      split at named
      · cases named
      · next full => exact ⟨full, (Option.some.inj named).symm, rfl, methods_read, filters_read⟩
  · cases read

/-- The lines of the filters of a group are a selection of those of its rows. -/
theorem Group.filterLines_sublist {kind : Grammar SheetRow} {position : Nat}
    {rows : List SheetRow}
    (read : Group.ofComponent first (kind.parseAt position rows) = .ok group) :
    (group.filters.map (·.line)).Sublist (rows.map (·.line)) :=
  map_line_sublist (fun _ _ _ filter_read => (Filter.of_ofRow filter_read).line)
    (of_ofComponent read).filters

end

section

variable {sheet : Sheet} {rules : ClientRules}

theorem exists_mapM_of_ofSheet (built : ofSheet sheet = .ok rules) :
    ∃ rows : List SheetRow, rows.map (·.line) = sheet.rows.map (·.line) ∧
      (((grammar.parseAt 0 rows).anchored groupGrammar.name).mapM fun group =>
        Group.ofComponent group.1 group.2) = .ok rules.groups := by
  rw [ofSheet, Except.bind_eq_ok_iff] at built
  obtain ⟨rows, read, built⟩ := built
  rw [ofRows, Except.bind_eq_ok_iff] at built
  obtain ⟨groups, groups_read, same⟩ := built
  obtain rfl := Except.ok.inj same
  rw [parse_whole] at groups_read
  exact ⟨rows, lines_of_ruleRows read, groups_read⟩

/-- No two groups have a line in common when no two rows have. -/
theorem nodup_groupLines (distinct : (sheet.rows.map (·.line)).Nodup)
    (built : ofSheet sheet = .ok rules) : (rules.groups.map (·.line)).Nodup := by
  obtain ⟨rows, same_lines, groups_read⟩ := exists_mapM_of_ofSheet built
  rw [← same_lines] at distinct
  exact distinct.sublist
    (map_line_sublist (fun _ _ _ read => (Group.of_ofComponent read).line) groups_read)

/-- No two filters have a line in common when no two rows have, whatever their groups. -/
theorem nodup_filterLines (distinct : (sheet.rows.map (·.line)).Nodup)
    (built : ofSheet sheet = .ok rules) :
    (rules.groups.flatMap fun group => group.filters.map (·.line)).Nodup := by
  obtain ⟨rows, same_lines, groups_read⟩ := exists_mapM_of_ofSheet built
  rw [← same_lines] at distinct
  refine distinct.sublist (lines_sublist (fun first _ _ own group _ read => ?_) groups_read)
  exact Group.filterLines_sublist read

end

end PaymentRules.ClientRules
