import Mathlib.Data.List.Flatten
import PaymentRules.Proofs.Component.Cutting

/-!
# The parts of a component

What is found in a component under a name comes from one kind: its tiles are placed, those with a
genuine first row are kept, and each is parsed from its own rows. Tiles are separate, so that the
rows of the parts, one after the other, are a selection of the rows of the component.

## Main definitions

* `Grammar.keptTiles` — the tiles of a kind that are components, with their positions

## Main results

* `part_parseAt` — the parts found under a name are the kept tiles of the first kind of that name
* `rows_anchored_sublist` — the rows of the parts are a selection of the rows
-/

namespace PaymentRules

variable {α : Type}

/-- The tiles of some rows that are components, with the positions of their first rows. -/
def Grammar.keptTiles (kind : Grammar α) (start : Nat) (rows : List α) : List (Nat × List α) :=
  (placeTiles start (tiles kind.continues rows)).filter fun tile => kind.keepsTile tile.2

/-- What is listed for each kind under its name is found for the first kind of that name. -/
theorem lookup_map_name {β : Type} (kinds : List (Grammar α)) (found : Grammar α → β)
    (name : String) :
    (kinds.map fun kind => (kind.name, found kind)).lookup name =
      (kinds.find? fun kind => name == kind.name).map found := by
  induction kinds with
  | nil => rfl
  | cons kind later ih =>
    rw [List.map_cons, List.lookup_cons, List.find?_cons, ih]
    cases name == kind.name <;> rfl

/-- The parts of each kind are its kept tiles. -/
theorem parseParts_eq_map (kinds : List (Grammar α)) (start : Nat) (rows : List α) :
    Grammar.parseParts kinds start rows = kinds.map fun kind =>
      (kind.name, (kind.keptTiles start rows).map fun tile => kind.parseAt tile.1 tile.2) := by
  induction kinds with
  | nil => rfl
  | cons kind later ih =>
    rw [Grammar.parseParts, ih]
    rfl

/-- Each part found under a name is made from a kept tile, and nothing else is found. -/
theorem part_parseAt (g : Grammar α) (start : Nat) (rows : List α) (name : String) :
    (g.parseAt start rows).part name =
      ((g.parts.find? fun kind => name == kind.name).map fun kind =>
        (kind.keptTiles start rows).map fun tile => kind.parseAt tile.1 tile.2).getD [] := by
  rw [Component.part, parts_parseAt, parseParts_eq_map, lookup_map_name]

theorem flatMap_placeTiles (start : Nat) (cut : List (List α)) :
    (placeTiles start cut).flatMap (·.2) = cut.flatten := by
  induction cut generalizing start with
  | nil => rfl
  | cons tile later ih => rw [placeTiles, List.flatMap_cons, ih, List.flatten_cons]

/-- The rows of the kept tiles are a selection of the rows. -/
theorem flatMap_keptTiles_sublist (kind : Grammar α) (start : Nat) (rows : List α) :
    ((kind.keptTiles start rows).flatMap (·.2)).Sublist rows := by
  have all : (placeTiles start (tiles kind.continues rows)).flatMap (·.2) = rows := by
    rw [flatMap_placeTiles, flatten_tiles]
  have selected := (List.filter_sublist (p := fun tile => kind.keepsTile tile.2)
    (l := placeTiles start (tiles kind.continues rows))).flatMap (·.2)
  rwa [all] at selected

/-- Each part stands behind its first row, and is parsed from its own rows. -/
theorem exists_eq_parseAt_of_mem_anchored {g : Grammar α} {start : Nat} {rows : List α}
    {name : String} {first : α} {part : Component α}
    (listed : (first, part) ∈ (g.parseAt start rows).anchored name) :
    part.rows.head? = some first ∧
      ∃ (kind : Grammar α) (position : Nat), part = kind.parseAt position part.rows := by
  obtain ⟨_, among, anchor⟩ := List.mem_filterMap.mp listed
  obtain ⟨_, head, same⟩ := Option.map_eq_some_iff.mp anchor
  obtain ⟨rfl, rfl⟩ := Prod.mk.inj same
  refine ⟨head, ?_⟩
  rw [part_parseAt] at among
  cases found : g.parts.find? fun kind => name == kind.name with
  | none => simp [found] at among
  | some kind =>
    rw [found, Option.map_some, Option.getD_some] at among
    obtain ⟨tile, -, rfl⟩ := List.mem_map.mp among
    exact ⟨kind, tile.1, by rw [rows_parseAt]⟩

/-- The rows of the parts, one after the other, are a selection of the rows. -/
theorem rows_anchored_sublist (g : Grammar α) (start : Nat) (rows : List α) (name : String) :
    (((g.parseAt start rows).anchored name).flatMap (·.2.rows)).Sublist rows := by
  have parts_only : ∀ parts : List (Component α),
      (parts.filterMap fun part => part.rows.head?.map (·, part)).flatMap (·.2.rows) =
        parts.flatMap (·.rows) := by
    -- A part without rows stands behind no first row, and has no rows to lose.
    intro parts
    induction parts with
    | nil => rfl
    | cons part parts ih =>
      cases own : part.rows <;> simp [own, ih]
  rw [Component.anchored, parts_only, part_parseAt]
  cases g.parts.find? fun kind => name == kind.name with
  | none => exact List.nil_sublist _
  | some kind =>
    rw [Option.map_some, Option.getD_some, List.flatMap_map]
    simpa using flatMap_keptTiles_sublist kind start rows

end PaymentRules
