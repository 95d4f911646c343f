import Mathlib.Data.List.Forall2
import PaymentRules.Proofs.Component.Shift
import PaymentRules.Proofs.Except

/-!
# Reading parts without their positions

Most readings of a component look at its rows and not at where they stand. What they read from the
parts of a kind is told by the tiles of the kind alone, each behind its first row. So two stretches
of rows are read alike when their tiles, one by one, are.

## Main definitions

* `Grammar.headedTiles` — the tiles that are components, each behind its first row

## Main results

* `mapM_anchored` — the parts of a kind are read from its tiles
* `head?_of_mem_tiles` — a tile opens at the first row of all, or at a row that continues nothing
* `anchored_cons_of_single` — the parts of a kind of single rows, row by row
-/

namespace PaymentRules

variable {α β ε : Type} {g kind : Grammar α} {name : String}

/-- A tile behind its first row, when that is a genuine one. -/
def Grammar.headed? (kind : Grammar α) (tile : List α) : Option (α × List α) :=
  (tile.head?.filter kind.keeps).map (·, tile)

/-- The tiles of some rows that are components, each behind its first row. -/
def Grammar.headedTiles (kind : Grammar α) (rows : List α) : List (α × List α) :=
  (tiles kind.continues rows).filterMap kind.headed?

theorem Grammar.headed?_cons (kind : Grammar α) (first : α) (rest : List α) :
    kind.headed? (first :: rest) =
      if kind.keeps first then some (first, first :: rest) else none := by
  cases kept : kind.keeps first <;> simp [headed?, Option.filter, kept]

/-- The parts found under a name, by the placed tiles of the first kind of that name. -/
theorem anchored_parseAt (found : (g.parts.find? fun kind => name == kind.name) = some kind)
    (start : Nat) (rows : List α) :
    (g.parseAt start rows).anchored name =
      (placeTiles start (tiles kind.continues rows)).filterMap fun tile =>
        (kind.headed? tile.2).map fun headed => (headed.1, kind.parseAt tile.1 headed.2) := by
  rw [Component.anchored, part_parseAt, found, Option.map_some, Option.getD_some,
    Grammar.keptTiles, List.filterMap_map, List.filterMap_filter]
  refine List.filterMap_congr ?_
  rintro ⟨position, tile⟩ -
  rw [Function.comp_apply, rows_parseAt, Grammar.keepsTile]
  cases tile with
  | nil => rfl
  | cons first rest => cases kept : kind.keeps first <;> simp [Grammar.headed?_cons, kept]

/-- A reading that does not depend on where a component stands reads the parts of a kind from its
tiles, each taken by itself. -/
theorem mapM_anchored {read : α × Component α → Except ε β}
    (found : (g.parts.find? fun kind => name == kind.name) = some kind)
    (placeless : ∀ first part n, read (first, part.shift n) = read (first, part))
    (start : Nat) (rows : List α) :
    ((g.parseAt start rows).anchored name).mapM read =
      (kind.headedTiles rows).mapM fun tile => read (tile.1, kind.parseAt 0 tile.2) := by
  have anywhere : ∀ first position tile,
      read (first, kind.parseAt position tile) = read (first, kind.parseAt 0 tile) := by
    intro first position tile
    have moved := parseAt_add kind 0 position tile
    rw [Nat.zero_add] at moved
    rw [moved, placeless]
  rw [anchored_parseAt found, Grammar.headedTiles]
  generalize tiles kind.continues rows = cut
  induction cut generalizing start with
  | nil => rfl
  | cons tile later ih =>
    rw [placeTiles]
    cases opens : kind.headed? tile with
    | none => simp only [List.filterMap_cons, opens, Option.map_none, ih]
    | some headed =>
      simp only [List.filterMap_cons, opens, Option.map_some, List.mapM_cons, anywhere, ih]

/-- Two lists are read alike when their members are, one by one. -/
theorem mapM_congr_of_forall₂ {γ : Type} {read : α → Except ε β} {reread : γ → Except ε β}
    {members : List α} {others : List γ}
    (each : List.Forall₂ (fun member other => read member = reread other) members others) :
    members.mapM read = others.mapM reread := by
  induction each with
  | nil => rfl
  | cons same _ ih => rw [List.mapM_cons, List.mapM_cons, same, ih]

/-! ## Where tiles open -/

theorem head?_of_mem_cutTiles {continues : α → Nat → Bool} {position : Nat} {rows : List α}
    {tile : List α} (listed : tile ∈ (cutTiles continues position rows).2) :
    ∃ first position, tile.head? = some first ∧ continues first position = false := by
  induction rows generalizing position with
  | nil => cases listed
  | cons row rows ih =>
    by_cases h : continues row position = true
    · exact ih (by simpa [cutTiles, h] using listed)
    · simp only [cutTiles, h] at listed
      rcases List.mem_cons.mp listed with rfl | later
      · exact ⟨row, position, rfl, by simpa using h⟩
      · exact ih later

/-- A tile opens at the first row of all, or at a row that continues nothing at some position. -/
theorem head?_of_mem_tiles {continues : α → Nat → Bool} {rows tile : List α}
    (listed : tile ∈ tiles continues rows) :
    ∃ first, tile.head? = some first ∧
      (first ∈ rows.head? ∨ ∃ position, continues first position = false) := by
  cases rows with
  | nil => cases listed
  | cons row rows =>
    rcases List.mem_cons.mp listed with rfl | later
    · exact ⟨row, rfl, .inl rfl⟩
    · obtain ⟨first, position, at_head, refuses⟩ := head?_of_mem_cutTiles later
      exact ⟨first, at_head, .inr ⟨position, refuses⟩⟩

/-! ## Parts of single rows -/

section

variable (single : ∀ row position, kind.continues row position = false)

include single

/-- When no row continues a tile, every row is one. -/
theorem tiles_of_single (rows : List α) : tiles kind.continues rows = rows.map ([·]) := by
  have nothing_open : ∀ position, cutTiles kind.continues position rows = ([], rows.map ([·])) := by
    induction rows with
    | nil => exact fun _ => rfl
    | cons row rows ih => exact fun position => by simp [cutTiles, single, ih]
  cases rows with
  | nil => rfl
  | cons row rows =>
    have behind := nothing_open 0
    rw [cutTiles, single, if_neg Bool.false_ne_true, Prod.mk.injEq] at behind
    exact behind.2

/-- The parts of a kind of single rows are the genuine rows, each at its own position. -/
theorem anchored_cons_of_single
    (found : (g.parts.find? fun kind => name == kind.name) = some kind)
    (start : Nat) (row : α) (rows : List α) :
    (g.parseAt start (row :: rows)).anchored name =
      if kind.keeps row then
        (row, kind.parseAt start [row]) :: (g.parseAt (start + 1) rows).anchored name
      else (g.parseAt (start + 1) rows).anchored name := by
  rw [anchored_parseAt found, anchored_parseAt found, tiles_of_single single,
    tiles_of_single single, List.map_cons, placeTiles, List.filterMap_cons,
    Grammar.headed?_cons]
  cases kind.keeps row <;> rfl

end

end PaymentRules
