import PaymentRules.Proofs.Component.Parts

/-!
# Components that stand further down

Where the rows of a component stand in a sheet shows only in the positions that the component
carries. The same rows further down give the same component, with every position in it moved by the
same distance.

## Main definitions

* `Component.shift` — a component with all of its positions moved down

## Main results

* `parseAt_add` — rows that stand further down are parsed to the shifted component
* `Component.anchored_shift` — its parts are the shifted parts, behind the same first rows
-/

namespace PaymentRules

variable {α : Type}

namespace Component

mutual

/-- The component with all of its positions moved down by `n`. -/
def shift (n : Nat) : Component α → Component α
  | ⟨start, rows, parts⟩ => ⟨start + n, rows, shiftParts n parts⟩

/-- The parts of each kind, moved down. -/
def shiftParts (n : Nat) : List (String × List (Component α)) → List (String × List (Component α))
  | [] => []
  | (name, found) :: later => (name, shiftAll n found) :: shiftParts n later

/-- The parts of one kind, moved down. -/
def shiftAll (n : Nat) : List (Component α) → List (Component α)
  | [] => []
  | part :: later => part.shift n :: shiftAll n later

end

variable (n : Nat)

@[simp] theorem start_shift (c : Component α) : (c.shift n).start = c.start + n := by
  cases c
  rfl

@[simp] theorem rows_shift (c : Component α) : (c.shift n).rows = c.rows := by
  cases c
  rfl

theorem parts_shift (c : Component α) : (c.shift n).parts = shiftParts n c.parts := by
  cases c
  rfl

/-- Both ends of the span of a component are moved. -/
theorem span_shift (c : Component α) :
    (c.shift n).span = ⟨c.span.start + n, c.span.stop + n⟩ := by
  rw [span, span, start_shift, rows_shift, Nat.add_right_comm]

theorem shiftAll_eq_map (found : List (Component α)) : shiftAll n found = found.map (shift n) := by
  induction found with
  | nil => rfl
  | cons part later ih => rw [shiftAll, ih, List.map_cons]

theorem shiftParts_eq_map (parts : List (String × List (Component α))) :
    shiftParts n parts = parts.map fun found => (found.1, found.2.map (shift n)) := by
  induction parts with
  | nil => rfl
  | cons found later ih =>
    obtain ⟨name, found⟩ := found
    rw [shiftParts, ih, shiftAll_eq_map, List.map_cons]

theorem lookup_shiftParts (parts : List (String × List (Component α))) (name : String) :
    (shiftParts n parts).lookup name = (parts.lookup name).map (shiftAll n) := by
  induction parts with
  | nil => rfl
  | cons found later ih =>
    obtain ⟨other, found⟩ := found
    rw [shiftParts, List.lookup_cons, List.lookup_cons, ih]
    cases name == other <;> rfl

theorem part_shift (c : Component α) (name : String) :
    (c.shift n).part name = (c.part name).map (shift n) := by
  rw [part, part, parts_shift, lookup_shiftParts]
  cases c.parts.lookup name with
  | none => rfl
  | some found => exact shiftAll_eq_map n found

/-- The parts found under a name keep their first rows. -/
theorem anchored_shift (c : Component α) (name : String) :
    (c.shift n).anchored name = (c.anchored name).map fun part => (part.1, part.2.shift n) := by
  rw [anchored, anchored, part_shift, List.filterMap_map, List.map_filterMap]
  congr 1
  funext part
  rw [Function.comp_apply, rows_shift, Option.map_map]
  rfl

end Component

/-! ## Parsing further down -/

theorem placeTiles_add (start n : Nat) (cut : List (List α)) :
    placeTiles (start + n) cut = (placeTiles start cut).map fun tile => (tile.1 + n, tile.2) := by
  induction cut generalizing start with
  | nil => rfl
  | cons tile later ih =>
    rw [placeTiles, placeTiles, List.map_cons, ← ih, Nat.add_right_comm]

theorem Grammar.keptTiles_add (kind : Grammar α) (start n : Nat) (rows : List α) :
    kind.keptTiles (start + n) rows =
      (kind.keptTiles start rows).map fun tile => (tile.1 + n, tile.2) := by
  rw [keptTiles, keptTiles, placeTiles_add, List.filter_map]
  rfl

mutual

/-- The same rows further down give the same component, shifted as a whole. -/
theorem parseAt_add (g : Grammar α) (start n : Nat) (rows : List α) :
    g.parseAt (start + n) rows = (g.parseAt start rows).shift n := by
  match g with
  | ⟨_, _, _, parts⟩ =>
    rw [Grammar.parseAt, Grammar.parseAt, Component.shift, parseParts_add parts]

theorem parseParts_add (kinds : List (Grammar α)) (start n : Nat) (rows : List α) :
    Grammar.parseParts kinds (start + n) rows =
      Component.shiftParts n (Grammar.parseParts kinds start rows) := by
  match kinds with
  | [] => rfl
  | kind :: later =>
    have kept := kind.keptTiles_add start n rows
    rw [Grammar.keptTiles, Grammar.keptTiles] at kept
    rw [Grammar.parseParts, Grammar.parseParts, Component.shiftParts, parseParts_add later,
      Component.shiftAll_eq_map, List.map_map, kept, List.map_map]
    simp only [Function.comp_def, parseAt_add kind]

end

end PaymentRules
