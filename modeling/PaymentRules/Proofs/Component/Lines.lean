import PaymentRules.RuleRow
import PaymentRules.Proofs.Component.Parts
import PaymentRules.Proofs.Except

/-!
# The lines of what is read from components

Whatever is read from the parts of a component, each item from the rows of its own part, has its
lines in the order of the rows: no line is used twice unless two rows share it.

## Main results

* `lines_sublist`, `map_line_sublist` — the lines of what is read from the parts are a selection of
  those of the rows
-/

namespace PaymentRules

variable {κ β : Type} {linesOf : β → List Nat}

/-- The rows of a sheet keep their lines. -/
theorem lines_of_ruleRows [RuleColumn κ] {sheet : Sheet} {rows : List (RuleRow κ)}
    (read : sheet.ruleRows κ = .ok rows) : rows.map (·.line) = sheet.rows.map (·.line) := by
  rw [Sheet.ruleRows, Except.bind_eq_ok_iff] at read
  obtain ⟨-, -, same⟩ := read
  rw [← Except.ok.inj same, List.map_map]
  rfl

/-- The lines of items that are read one by one from a list of parts. -/
theorem flatMap_sublist_of_forall₂ {parts : List (RuleRow κ × Component (RuleRow κ))}
    {items : List β}
    (each : List.Forall₂ (fun part item => (linesOf item).Sublist (part.2.rows.map (·.line)))
      parts items) :
    (items.flatMap linesOf).Sublist ((parts.flatMap (·.2.rows)).map (·.line)) := by
  induction each with
  | nil => exact List.Sublist.slnil
  | cons first _ ih =>
    rw [List.flatMap_cons, List.flatMap_cons, List.map_append]
    exact first.append ih

/-- Items that are read from the parts found under a name are read one by one, each from a part that
stands behind its first row and is parsed from its own rows. -/
theorem forall₂_of_mapM_anchored {g : Grammar (RuleRow κ)} {start : Nat} {rows : List (RuleRow κ)}
    {name : String} {read : RuleRow κ × Component (RuleRow κ) → Except LoadError β}
    {items : List β}
    (built : ((g.parseAt start rows).anchored name).mapM read = .ok items) :
    List.Forall₂ (fun part item => part.2.rows.head? = some part.1 ∧
        ∃ (kind : Grammar (RuleRow κ)) (position : Nat),
          read (part.1, kind.parseAt position part.2.rows) = .ok item)
      ((g.parseAt start rows).anchored name) items := by
  have anchored : ∀ part ∈ (g.parseAt start rows).anchored name,
      part.2.rows.head? = some part.1 ∧
        ∃ (kind : Grammar (RuleRow κ)) (position : Nat),
          part.2 = kind.parseAt position part.2.rows :=
    fun _ listed => exists_eq_parseAt_of_mem_anchored listed
  have of_part := (List.forall₂_and_left _ _).mpr ⟨anchored, Except.mapM_eq_ok_iff.mp built⟩
  refine of_part.imp ?_
  rintro ⟨first, part⟩ item ⟨⟨head, kind, position, parsed⟩, read_item⟩
  exact ⟨head, kind, position, parsed ▸ read_item⟩

/-- When the lines of each item are a selection of those of its part, the lines of all items are a
selection of those of the rows. -/
theorem lines_sublist {g : Grammar (RuleRow κ)} {start : Nat} {rows : List (RuleRow κ)}
    {name : String} {read : RuleRow κ × Component (RuleRow κ) → Except LoadError β}
    {items : List β}
    (each : ∀ first kind position own item, own.head? = some first →
      read (first, Grammar.parseAt kind position own) = .ok item →
      (linesOf item).Sublist (own.map (·.line)))
    (built : ((g.parseAt start rows).anchored name).mapM read = .ok items) :
    (items.flatMap linesOf).Sublist (rows.map (·.line)) := by
  refine (flatMap_sublist_of_forall₂ ((forall₂_of_mapM_anchored built).imp ?_)).trans
    ((rows_anchored_sublist g start rows name).map (·.line))
  rintro ⟨first, part⟩ item ⟨head, kind, position, read_item⟩
  exact each first kind position part.rows item head read_item

/-- When each item has the line of the first row of its part, the lines of the items are a selection
of those of the rows. -/
theorem map_line_sublist {lineOf : β → Nat} {g : Grammar (RuleRow κ)} {start : Nat}
    {rows : List (RuleRow κ)} {name : String}
    {read : RuleRow κ × Component (RuleRow κ) → Except LoadError β} {items : List β}
    (each : ∀ first part item, read (first, part) = .ok item → lineOf item = first.line)
    (built : ((g.parseAt start rows).anchored name).mapM read = .ok items) :
    (items.map lineOf).Sublist (rows.map (·.line)) := by
  rw [List.map_eq_flatMap]
  refine lines_sublist (fun first kind position own item head read_item => ?_) built
  rw [each first _ item read_item, List.singleton_sublist]
  exact List.mem_map_of_mem (List.mem_of_mem_head? head)

end PaymentRules
