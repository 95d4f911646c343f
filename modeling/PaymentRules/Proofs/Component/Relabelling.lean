import PaymentRules.Proofs.Component.Headed

/-!
# Rows seen otherwise

Rows may carry more than a grammar looks at. When rows are changed in nothing by which the grammar
tells them apart, they are cut as before, and the component of the changed rows is the component of
the rows, changed row by row.

The parts of a kind need less: whether a row is a genuine first one is asked only of the rows at
which tiles open.

## Main definitions

* `Component.map` — a component with each of its rows changed
* `Grammar.Ignores` — the grammar, with all of its parts, does not see the change

## Main results

* `parseAt_map` — changed rows are parsed to the changed component
* `anchored_map_of_heads` — the parts of a kind that sees the change, but not where tiles open
-/

namespace PaymentRules

variable {α : Type}

namespace Component

mutual

/-- The component with each of its rows changed. -/
def map (f : α → α) : Component α → Component α
  | ⟨start, rows, parts⟩ => ⟨start, rows.map f, mapParts f parts⟩

/-- The parts of each kind, with their rows changed. -/
def mapParts (f : α → α) : List (String × List (Component α)) → List (String × List (Component α))
  | [] => []
  | (name, found) :: later => (name, mapAll f found) :: mapParts f later

/-- The parts of one kind, with their rows changed. -/
def mapAll (f : α → α) : List (Component α) → List (Component α)
  | [] => []
  | part :: later => part.map f :: mapAll f later

end

variable (f : α → α)

@[simp] theorem start_map (c : Component α) : (c.map f).start = c.start := by
  cases c
  rfl

@[simp] theorem rows_map (c : Component α) : (c.map f).rows = c.rows.map f := by
  cases c
  rfl

theorem parts_map (c : Component α) : (c.map f).parts = mapParts f c.parts := by
  cases c
  rfl

theorem mapAll_eq_map (found : List (Component α)) : mapAll f found = found.map (map f) := by
  induction found with
  | nil => rfl
  | cons part later ih => rw [mapAll, ih, List.map_cons]

theorem lookup_mapParts (parts : List (String × List (Component α))) (name : String) :
    (mapParts f parts).lookup name = (parts.lookup name).map (mapAll f) := by
  induction parts with
  | nil => rfl
  | cons found later ih =>
    obtain ⟨other, found⟩ := found
    rw [mapParts, List.lookup_cons, List.lookup_cons, ih]
    cases name == other <;> rfl

theorem part_map (c : Component α) (name : String) :
    (c.map f).part name = (c.part name).map (map f) := by
  rw [part, part, parts_map, lookup_mapParts]
  cases c.parts.lookup name with
  | none => rfl
  | some found => exact mapAll_eq_map f found

/-- Every part of the parts that are changed stands behind its changed first row. -/
theorem filterMap_anchor_map (found : List (Component α)) :
    ((found.map (map f)).filterMap fun part => part.rows.head?.map (·, part)) =
      (found.filterMap fun part => part.rows.head?.map (·, part)).map fun part =>
        (f part.1, part.2.map f) := by
  rw [List.filterMap_map, List.map_filterMap]
  refine List.filterMap_congr fun part _ => ?_
  rw [Function.comp_apply, rows_map, List.head?_map, Option.map_map, Option.map_map]
  rfl

theorem anchored_map (c : Component α) (name : String) :
    (c.map f).anchored name = (c.anchored name).map fun part => (f part.1, part.2.map f) := by
  rw [anchored, anchored, part_map, filterMap_anchor_map]

end Component

/-! ## Cutting changed rows -/

section

variable {f : α → α} {continues : α → Nat → Bool}
  (blind : ∀ row position, continues (f row) position = continues row position)

include blind

theorem cutTiles_map (position : Nat) (rows : List α) :
    cutTiles continues position (rows.map f) =
      ((cutTiles continues position rows).1.map f,
        (cutTiles continues position rows).2.map (List.map f)) := by
  induction rows generalizing position with
  | nil => rfl
  | cons row rows ih =>
    by_cases h : continues row position = true
    · simp [cutTiles, blind, h, ih]
    · simp [cutTiles, blind, h, ih]

theorem tiles_map (rows : List α) :
    tiles continues (rows.map f) = (tiles continues rows).map (List.map f) := by
  cases rows with
  | nil => rfl
  | cons row rows => simp [tiles, cutTiles_map blind]

end

theorem placeTiles_map (f : α → α) (start : Nat) (cut : List (List α)) :
    placeTiles start (cut.map (List.map f)) =
      (placeTiles start cut).map fun tile => (tile.1, tile.2.map f) := by
  induction cut generalizing start with
  | nil => rfl
  | cons tile later ih =>
    rw [List.map_cons, placeTiles, placeTiles, List.length_map, ih, List.map_cons]

theorem map_snd_placeTiles (start : Nat) (cut : List (List α)) :
    (placeTiles start cut).map (·.2) = cut := by
  induction cut generalizing start with
  | nil => rfl
  | cons tile later ih => rw [placeTiles, List.map_cons, ih]

/-- The tiles are those of the rows, changed, and the same ones are kept. -/
theorem Grammar.keptTiles_map {f : α → α} {kind : Grammar α} {rows : List α}
    (continues : ∀ row position, kind.continues (f row) position = kind.continues row position)
    (keeps : ∀ tile ∈ tiles kind.continues rows, ∀ first ∈ tile.head?,
      kind.keeps (f first) = kind.keeps first) (start : Nat) :
    kind.keptTiles start (rows.map f) =
      (kind.keptTiles start rows).map fun tile => (tile.1, tile.2.map f) := by
  rw [keptTiles, keptTiles, tiles_map continues, placeTiles_map, List.filter_map]
  congr 1
  refine List.filter_congr fun tile placed => ?_
  have listed : tile.2 ∈ tiles kind.continues rows :=
    map_snd_placeTiles start (tiles kind.continues rows) ▸ List.mem_map_of_mem placed
  rw [Function.comp_apply, keepsTile, keepsTile, List.head?_map]
  cases opens : tile.2.head? with
  | none => rfl
  | some first => exact keeps tile.2 listed first opens

/-! ## Parsing changed rows -/

/-- No condition of the grammar, or of one of its parts, sees the change. -/
inductive Grammar.Ignores (f : α → α) : Grammar α → Prop
  | intro {g : Grammar α}
      (continues : ∀ row position, g.continues (f row) position = g.continues row position)
      (keeps : ∀ row, g.keeps (f row) = g.keeps row)
      (parts : ∀ kind ∈ g.parts, Grammar.Ignores f kind) : Grammar.Ignores f g

theorem Grammar.Ignores.keptTiles {f : α → α} {kind : Grammar α} (ignores : kind.Ignores f)
    (start : Nat) (rows : List α) :
    kind.keptTiles start (rows.map f) =
      (kind.keptTiles start rows).map fun tile => (tile.1, tile.2.map f) := by
  obtain ⟨continues, keeps, -⟩ := ignores
  exact Grammar.keptTiles_map continues (fun _ _ first _ => keeps first) start

mutual

/-- Changed rows give the changed component, when no part of the grammar sees the change. -/
theorem parseAt_map {f : α → α} (g : Grammar α) (parts : ∀ kind ∈ g.parts, kind.Ignores f)
    (start : Nat) (rows : List α) :
    g.parseAt start (rows.map f) = (g.parseAt start rows).map f := by
  match g with
  | ⟨_, _, _, kinds⟩ =>
    rw [Grammar.parseAt, Grammar.parseAt, Component.map, parseParts_map kinds parts]

theorem parseParts_map {f : α → α} (kinds : List (Grammar α))
    (ignores : ∀ kind ∈ kinds, kind.Ignores f) (start : Nat) (rows : List α) :
    Grammar.parseParts kinds start (rows.map f) =
      Component.mapParts f (Grammar.parseParts kinds start rows) := by
  match kinds with
  | [] => rfl
  | kind :: later =>
    have own := ignores kind List.mem_cons_self
    have kept := own.keptTiles start rows
    have parts : ∀ part ∈ kind.parts, part.Ignores f := by
      obtain ⟨-, -, parts⟩ := own
      exact parts
    rw [Grammar.keptTiles, Grammar.keptTiles] at kept
    rw [Grammar.parseParts, Grammar.parseParts, Component.mapParts,
      parseParts_map later fun kind listed => ignores kind (List.mem_cons_of_mem _ listed),
      Component.mapAll_eq_map, List.map_map, kept, List.map_map]
    simp only [Function.comp_def, parseAt_map kind parts]

end

/-- The parts of a kind in changed rows are the changed parts. Of the rows at which tiles open, the
change hides from none whether it is a genuine first one. -/
theorem anchored_map_of_heads {f : α → α} {g kind : Grammar α} {name : String} {rows : List α}
    (found : (g.parts.find? fun kind => name == kind.name) = some kind)
    (continues : ∀ row position, kind.continues (f row) position = kind.continues row position)
    (keeps : ∀ tile ∈ tiles kind.continues rows, ∀ first ∈ tile.head?,
      kind.keeps (f first) = kind.keeps first)
    (parts : ∀ part ∈ kind.parts, part.Ignores f) (start : Nat) :
    (g.parseAt start (rows.map f)).anchored name =
      ((g.parseAt start rows).anchored name).map fun part => (f part.1, part.2.map f) := by
  rw [Component.anchored, Component.anchored, ← Component.filterMap_anchor_map, part_parseAt,
    part_parseAt, found, Option.map_some, Option.getD_some, Option.map_some, Option.getD_some,
    Grammar.keptTiles_map continues keeps, List.map_map, List.map_map]
  simp only [Function.comp_def, parseAt_map kind parts]

end PaymentRules
