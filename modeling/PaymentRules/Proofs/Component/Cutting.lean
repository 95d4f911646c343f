import PaymentRules.Component.Grammar

/-!
# Cutting out rows

A tile can be cut off as a list of rows, and a component can be made from the list of its rows, by
recursion on it. Nothing but the position of its first row is left then of the sheet in which they
stand. What is added to the rows, removed from them or done to each of them is easier to follow in
this form.

## Main definitions

* `tiles` — the tiles of some rows, with `flatten_tiles`: nothing is lost
* `Grammar.parseAt` — the component of some rows
-/

namespace PaymentRules

section Tiles

variable {α : Type}

/-- The rows that are left of an open tile, the next one being at `position`, and the tiles behind
it. -/
def cutTiles (continues : α → Nat → Bool) (position : Nat) : List α → List α × List (List α)
  | [] => ([], [])
  | row :: rows =>
    if continues row position then
      let (tile, later) := cutTiles continues (position + 1) rows
      (row :: tile, later)
    else
      -- the row opens a tile of its own, in which positions are counted anew
      let (tile, later) := cutTiles continues 1 rows
      ([], (row :: tile) :: later)

/-- The tiles of some rows. -/
def tiles (continues : α → Nat → Bool) : List α → List (List α)
  | [] => []
  | row :: rows =>
    let (tile, later) := cutTiles continues 1 rows
    (row :: tile) :: later

/-- The tiles with the positions of their first rows, the first tile being at `start`. -/
def placeTiles (start : Nat) : List (List α) → List (Nat × List α)
  | [] => []
  | tile :: later => (start, tile) :: placeTiles (start + tile.length) later

theorem flatten_cutTiles (continues : α → Nat → Bool) (position : Nat) (rows : List α) :
    (cutTiles continues position rows).1 ++ (cutTiles continues position rows).2.flatten =
      rows := by
  induction rows generalizing position with
  | nil => rfl
  | cons row rows ih =>
    by_cases h : continues row position = true
    · simp [cutTiles, h, ih]
    · simp [cutTiles, h, ih]

/-- The tiles one after the other are the rows. -/
theorem flatten_tiles (continues : α → Nat → Bool) (rows : List α) :
    (tiles continues rows).flatten = rows := by
  cases rows with
  | nil => rfl
  | cons row rows => simp [tiles, flatten_cutTiles]

end Tiles

namespace Grammar

variable {α : Type}

/-- Whether a tile is a component: its first row is a genuine one. -/
def keepsTile (g : Grammar α) (tile : List α) : Bool :=
  tile.head?.any g.keeps

mutual

/-- The component of some rows, the first of which is at position `start`. -/
def parseAt (g : Grammar α) (start : Nat) (rows : List α) : Component α :=
  match g with
  | ⟨_, _, _, parts⟩ => ⟨start, rows, parseParts parts start rows⟩

/-- The parts of each kind in some rows. -/
def parseParts (kinds : List (Grammar α)) (start : Nat) (rows : List α) :
    List (String × List (Component α)) :=
  match kinds with
  | [] => []
  | g :: later =>
    let kept := (placeTiles start (tiles g.continues rows)).filter fun tile => g.keepsTile tile.2
    (g.name, kept.map fun tile => g.parseAt tile.1 tile.2) :: parseParts later start rows

end

end Grammar

variable {α : Type}

@[simp] theorem start_parseAt (g : Grammar α) (start : Nat) (rows : List α) :
    (g.parseAt start rows).start = start := by
  cases g
  rfl

@[simp] theorem rows_parseAt (g : Grammar α) (start : Nat) (rows : List α) :
    (g.parseAt start rows).rows = rows := by
  cases g
  rfl

theorem parts_parseAt (g : Grammar α) (start : Nat) (rows : List α) :
    (g.parseAt start rows).parts = Grammar.parseParts g.parts start rows := by
  cases g
  rfl

end PaymentRules
