import PaymentRules.Proofs.Component.Shift
import PaymentRules.Proofs.Component.Tree

/-!
# Components are made from their own rows

A component is found by walking along all rows of the sheet, but it could be found without the rest
of them: cut the rows of the span out, parse them as a sheet of their own, and move the tree down to
where the span starts. So rows in front of a span and rows behind it have no influence on its tree,
at no depth, although every component knows its position in the whole sheet.

## Main results

* `node_shift_iff` — the components of a tree that is moved down are those of the tree, moved down
* `parse_is_local` — the tree of a span is that of its rows alone, moved down
-/

namespace PaymentRules

variable {α : Type}

section

variable {root kind : Grammar α} {c part : Component α}

/-- A component of a tree is found at the same place when the tree is moved down. -/
theorem Node.shift (n : Nat) (node : Node root c kind part) :
    Node root (c.shift n) kind (part.shift n) := by
  induction node with
  | root => exact .root
  | @part kind sub parent child place found node declared at_place listed ih =>
    have moved : (parent.shift n).parts[place]? =
        some (found.1, found.2.map (Component.shift n)) := by
      rw [Component.parts_shift, Component.shiftParts_eq_map, List.getElem?_map, at_place]
      rfl
    exact .part ih declared moved (List.mem_map_of_mem listed)

/-- Nothing else is found in a tree that is moved down. -/
theorem Node.exists_of_shift {n : Nat} (node : Node root (c.shift n) kind part) :
    ∃ own, Node root c kind own ∧ part = own.shift n := by
  induction node with
  | root => exact ⟨c, .root, rfl⟩
  | @part kind sub parent child place found node declared at_place listed ih =>
    obtain ⟨own, own_node, rfl⟩ := ih
    rw [Component.parts_shift, Component.shiftParts_eq_map, List.getElem?_map,
      Option.map_eq_some_iff] at at_place
    obtain ⟨own_found, own_place, rfl⟩ := at_place
    obtain ⟨inner, inner_listed, rfl⟩ := List.mem_map.mp listed
    exact ⟨inner, .part own_node declared own_place inner_listed, rfl⟩

theorem node_shift_iff (n : Nat) :
    Node root (c.shift n) kind part ↔ ∃ own, Node root c kind own ∧ part = own.shift n := by
  constructor
  · exact Node.exists_of_shift
  · rintro ⟨own, node, rfl⟩
    exact node.shift n

end

/-- The rows that are cut out are parsed as a whole. -/
theorem parse_extract (g : Grammar α) (rows : List α) (span : Span) :
    g.parse (rows.extract span.start span.stop) ⟨0, span.length⟩ =
      g.parseAt 0 (rows.extract span.start span.stop) := by
  have all : (rows.extract span.start span.stop).extract 0 span.length =
      rows.extract span.start span.stop := by
    rw [List.extract, List.drop_zero, Nat.sub_zero, List.extract, ← Span.length, List.take_take,
      Nat.min_self]
  rw [parse_eq_parseAt, all]

theorem parse_eq_shift (g : Grammar α) (rows : List α) (span : Span) :
    g.parse rows span =
      (g.parse (rows.extract span.start span.stop) ⟨0, span.length⟩).shift span.start := by
  rw [parse_extract, ← parseAt_add, Nat.zero_add, parse_eq_parseAt]

/-- Sheets with the same rows in a span have the same tree there. -/
theorem parse_congr (g : Grammar α) {rows others : List α} {span : Span}
    (same : ∀ row ∈ span.rows, others[row]? = rows[row]?) :
    g.parse others span = g.parse rows span := by
  have same_rows : others.extract span.start span.stop = rows.extract span.start span.stop := by
    refine List.ext_getElem? fun i => ?_
    rw [List.extract, List.extract, List.getElem?_take, List.getElem?_take, List.getElem?_drop,
      List.getElem?_drop]
    split
    · next inside => exact same _ (Span.mem_rows.mpr ⟨Nat.le_add_right _ _, by omega⟩)
    · rfl
  rw [parse_eq_parseAt, parse_eq_parseAt, same_rows]

/-- The tree of a span of rows is the tree of the rows that are cut out, moved down to the start of
the span: at every depth the same kinds of components stand in the same order, with the start of the
span added to both ends. Other rows in front of the span or behind it do not change the tree. -/
theorem parse_is_local (g : Grammar α) (rows : List α) (span : Span) :
    g.parse rows span =
        (g.parse (rows.extract span.start span.stop) ⟨0, span.length⟩).shift span.start ∧
      (∀ kind part, Node g (g.parse rows span) kind part ↔
        ∃ own, Node g (g.parse (rows.extract span.start span.stop) ⟨0, span.length⟩) kind own ∧
          part = own.shift span.start ∧
          part.span = ⟨own.span.start + span.start, own.span.stop + span.start⟩) ∧
      ∀ others : List α, (∀ row ∈ span.rows, others[row]? = rows[row]?) →
        g.parse others span = g.parse rows span := by
  refine ⟨parse_eq_shift g rows span, fun kind part => ?_, fun others => parse_congr g⟩
  rw [parse_eq_shift, node_shift_iff]
  refine exists_congr fun own => and_congr_right fun _ => ?_
  constructor
  · rintro rfl
    exact ⟨rfl, own.span_shift span.start⟩
  · exact And.left

/-- Rows are paired from the first row of a span on, and not from that of the sheet. -/
example :
    let pairs : Grammar Nat := ⟨"Pair", fun _ position => position < 2, fun _ => true, []⟩
    let sheet : Grammar Nat := ⟨"Sheet", fun _ _ => true, fun _ => true, [pairs]⟩
    ((sheet.parse [10, 11, 12, 13, 14] ⟨1, 4⟩).part "Pair").map (·.span) =
      [⟨1, 3⟩, ⟨3, 4⟩] := by
  decide +kernel

end PaymentRules
