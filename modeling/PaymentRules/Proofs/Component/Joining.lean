import PaymentRules.Proofs.Component.Shift
import PaymentRules.Proofs.Except

/-!
# Joined rows

When rows are put behind other rows, and the first of them opens a tile wherever it stands, the cut
between the two is a cut between tiles. What is found in the joined rows is then what is found in
the first rows, followed by what is found in the rows behind them.

## Main results

* `tiles_append` — the tiles of joined rows
* `mapM_anchored_append` — what is read from joined rows, with the first error of either
-/

namespace PaymentRules

variable {α β ε : Type} {continues : α → Nat → Bool} {one other : List α}

theorem cutTiles_append (position : Nat)
    (opens : ∀ row ∈ other.head?, ∀ position, continues row position = false) :
    cutTiles continues position (one ++ other) =
      ((cutTiles continues position one).1,
        (cutTiles continues position one).2 ++ tiles continues other) := by
  induction one generalizing position with
  | nil =>
    cases other with
    | nil => rfl
    | cons row other => simp [cutTiles, tiles, opens row rfl position]
  | cons row one ih =>
    by_cases h : continues row position = true
    · simp [cutTiles, h, ih]
    · simp [cutTiles, h, ih]

/-- A row that continues no tile is where the tiles of joined rows can be taken apart. -/
theorem tiles_append (opens : ∀ row ∈ other.head?, ∀ position, continues row position = false) :
    tiles continues (one ++ other) = tiles continues one ++ tiles continues other := by
  cases one with
  | nil => rfl
  | cons row one => simp [tiles, cutTiles_append _ opens]

theorem placeTiles_append (start : Nat) (cut more : List (List α)) :
    placeTiles start (cut ++ more) =
      placeTiles start cut ++ placeTiles (start + cut.flatten.length) more := by
  induction cut generalizing start with
  | nil => rfl
  | cons tile later ih =>
    rw [List.cons_append, placeTiles, placeTiles, ih, List.cons_append, List.flatten_cons,
      List.length_append, Nat.add_assoc]

theorem Grammar.keptTiles_append {kind : Grammar α} (start : Nat)
    (opens : ∀ row ∈ other.head?, ∀ position, kind.continues row position = false) :
    kind.keptTiles start (one ++ other) =
      kind.keptTiles start one ++ kind.keptTiles (start + one.length) other := by
  rw [keptTiles, tiles_append opens, placeTiles_append, List.filter_append, flatten_tiles]
  rfl

/-- What is found in joined rows under the name of a kind. -/
theorem anchored_append {g kind : Grammar α} {name : String} (start : Nat)
    (found : (g.parts.find? fun kind => name == kind.name) = some kind)
    (opens : ∀ row ∈ other.head?, ∀ position, kind.continues row position = false) :
    (g.parseAt start (one ++ other)).anchored name =
      (g.parseAt start one).anchored name ++
        (g.parseAt (start + one.length) other).anchored name := by
  simp only [Component.anchored, part_parseAt, found, Option.map_some, Option.getD_some,
    Grammar.keptTiles_append start opens, List.map_append, List.filterMap_append]

/-- A reading that does not depend on where a component stands reads from joined rows what it reads
from the first ones and then what it reads from the others. The first error is the answer. -/
theorem mapM_anchored_append {g kind : Grammar α} {name : String}
    {read : α × Component α → Except ε β} (start : Nat)
    (found : (g.parts.find? fun kind => name == kind.name) = some kind)
    (opens : ∀ row ∈ other.head?, ∀ position, kind.continues row position = false)
    (placeless : ∀ first part n, read (first, part.shift n) = read (first, part)) :
    ((g.parseAt start (one ++ other)).anchored name).mapM read = (do
      let items ← ((g.parseAt start one).anchored name).mapM read
      let more ← ((g.parseAt start other).anchored name).mapM read
      return items ++ more) := by
  have moved : (read ∘ fun part : α × Component α => (part.1, part.2.shift one.length)) = read :=
    funext fun part => placeless part.1 part.2 one.length
  rw [anchored_append start found opens, List.mapM_append, parseAt_add, Component.anchored_shift,
    List.mapM_map, moved]

end PaymentRules
