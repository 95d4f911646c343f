import PaymentRules.Component.Pattern
import PaymentRules.Component.Span
import PaymentRules.Text.Quoted

/-!
# Cutting rows into components

The rows of a sheet form a tree of components. A *grammar* says how: for each kind of part it tells
which rows continue a part that is already open, and which first rows make a genuine part. The rows
of a component are cut into tiles, from the first row on and without gaps: a tile opens at the first
row that is left and takes in the following rows as long as they continue it. A tile whose first row
is no genuine one is passed over. Every kind of part cuts the same rows anew, and every part is cut
further by its own grammar.

All components of a sheet are found by walking along the same rows, so that a position always counts
from the first row of the sheet. Only whether a row continues a tile may depend on its position in
the tile, which is 1 for the row after the first.

## Main definitions

* `Grammar` — the name of a kind of component, its two conditions, and its parts
* `tileEnd`, `scan` — the walk along a tile, and from tile to tile
* `Component` — a stretch of rows and the parts found in it
* `Grammar.parse` — the component of a span of rows
* `Grammar.outline` — the text of a grammar: its names, nested
-/

namespace PaymentRules

/-- A kind of component over rows of type `α`. -/
structure Grammar (α : Type) where
  name : String
  /-- Whether a row, at this position of the tile, belongs to the open tile. -/
  continues : α → Nat → Bool
  /-- Whether a tile with this first row is a component. -/
  keeps : α → Bool
  parts : List (Grammar α)

/-- A stretch of rows, the position of its first row, and the parts found in it under each name. -/
structure Component (α : Type) where
  start : Nat
  rows : List α
  parts : List (String × List (Component α))

section Walk

variable {α : Type}

/-- The end of the tile that opens at `start`, once the rows before `cursor` are taken in. No tile
goes on behind `stop`. -/
def tileEnd (continues : α → Nat → Bool) (rows : List α) (stop start cursor : Nat) : Nat :=
  if cursor < stop ∧ rows[cursor]?.any (continues · (cursor - start)) then
    tileEnd continues rows stop start (cursor + 1)
  else
    cursor
termination_by stop - cursor

theorem le_tileEnd (continues : α → Nat → Bool) (rows : List α) (stop start cursor : Nat) :
    cursor ≤ tileEnd continues rows stop start cursor := by
  fun_induction tileEnd <;> omega

/-- The tiles of the rows from `cursor` up to `stop`, one behind the other. -/
def scan (continues : α → Nat → Bool) (rows : List α) (stop cursor : Nat) : List Span :=
  if cursor < stop then
    -- the first row of a tile is taken in unasked
    let next := tileEnd continues rows stop cursor (cursor + 1)
    ⟨cursor, next⟩ :: scan continues rows stop next
  else
    []
termination_by stop - cursor
decreasing_by
  have advances := le_tileEnd continues rows stop cursor (cursor + 1)
  omega

end Walk

namespace Component

variable {α : Type}

/-- The span of the component's rows. -/
def span (c : Component α) : Span :=
  ⟨c.start, c.start + c.rows.length⟩

/-- The parts found under a name, those of the first kind of that name. -/
def part (c : Component α) (name : String) : List (Component α) :=
  (c.parts.lookup name).getD []

/-- The parts found under a name, each behind its first row. -/
def anchored (c : Component α) (name : String) : List (α × Component α) :=
  (c.part name).filterMap fun part => part.rows.head?.map (·, part)

end Component

namespace Grammar

variable {α : Type}

/-- Whether the first row of a tile is a genuine one. -/
def opensAt (kind : Grammar α) (rows : List α) (tile : Span) : Bool :=
  rows[tile.start]?.any kind.keeps

mutual

/-- The component of a span of rows. What lies behind the last row is left out of the span. -/
def parse (g : Grammar α) (rows : List α) (span : Span) : Component α :=
  match g with
  | ⟨_, _, _, parts⟩ =>
    let stop := min span.stop rows.length
    ⟨span.start, rows.extract span.start stop, findParts parts rows stop span.start⟩

/-- The parts of each kind in the rows from `start` up to `stop`. -/
def findParts (kinds : List (Grammar α)) (rows : List α) (stop start : Nat) :
    List (String × List (Component α)) :=
  match kinds with
  | [] => []
  | g :: later =>
    -- every kind walks along the rows anew
    let kept := (scan g.continues rows stop start).filter (g.opensAt rows)
    (g.name, kept.map fun tile => g.parse rows tile) :: findParts later rows stop start

end

mutual

/-- The text of a grammar. -/
def outline (g : Grammar α) : String :=
  match g with
  | ⟨name, _, _, parts⟩ =>
    "ComponentRule \x7b name: " ++ Text.quote name ++ ", sub_components: [" ++
      String.intercalate ", " (outlines parts) ++ "] \x7d"

/-- The texts of some grammars. -/
def outlines (kinds : List (Grammar α)) : List String :=
  match kinds with
  | [] => []
  | g :: later => g.outline :: outlines later

end

end Grammar

end PaymentRules
