import Mathlib.Data.List.Infix
import Mathlib.Order.Bounds.Basic
import PaymentRules.Proofs.Component.Cutting

/-!
# Tilings

The tiles of some rows can be told by their ends alone. A tile ends at the first position at which
the rows are over or the row there does not continue the tile, and the next tile opens at that
position. So the spans of the tiles follow one another without gaps, none is empty, and every
position lies in exactly one.

Here `rows` are all rows of a sheet and the tiles are those of a stretch of them: positions are
counted from the first row of the sheet, and a stretch is a list that begins what is left of the
rows behind its start.

## Main definitions

* `IsCut` — where a tile ends
* `Tiling` — spans, each of which ends where the next one starts
* `tileSpans` — the spans of tiles that lie one behind the other

## Main results

* `tiling_tileSpans` — the tiles of a stretch of rows are a tiling
* `Tiling.exists_mem`, `Tiling.eq_of_mem` — a position lies in one tile, and in no other
-/

namespace PaymentRules

variable {α : Type} {continues : α → Nat → Bool} {rows : List α}

/-- A tile that opens at `start`, in rows that are over at `stop`, ends at `next`: no earlier
position behind the start is the end of the rows or has a row that does not continue the tile. -/
def IsCut (continues : α → Nat → Bool) (rows : List α) (stop start next : Nat) : Prop :=
  IsLeast {cut | start < cut ∧
    (cut = stop ∨ ∃ row, rows[cut]? = some row ∧ continues row (cut - start) = false)} next

/-- The spans are the tiles of the rows from a position on up to `stop`. -/
inductive Tiling (continues : α → Nat → Bool) (rows : List α) (stop : Nat) :
    Nat → List Span → Prop
  | done : Tiling continues rows stop stop []
  | tile {start next : Nat} {spans : List Span} (opens : start < stop)
      (cut : IsCut continues rows stop start next)
      (later : Tiling continues rows stop next spans) :
      Tiling continues rows stop start (⟨start, next⟩ :: spans)

/-! ## Positions in a tiling -/

section

variable {stop start next : Nat} {spans : List Span}

theorem IsCut.lt (cut : IsCut continues rows stop start next) : start < next :=
  cut.1.1

theorem IsCut.le (cut : IsCut continues rows stop start next) (opens : start < stop) :
    next ≤ stop :=
  cut.2 ⟨opens, .inl rfl⟩

namespace Tiling

/-- A tile is not empty and lies between the ends of its tiling. -/
theorem bounds (tiling : Tiling continues rows stop start spans) {tile : Span}
    (listed : tile ∈ spans) : start ≤ tile.start ∧ tile.start < tile.stop ∧ tile.stop ≤ stop := by
  induction tiling with
  | done => cases listed
  | @tile start next spans opens cut later ih =>
    rcases List.mem_cons.mp listed with rfl | behind
    · exact ⟨Nat.le_refl _, cut.lt, cut.le opens⟩
    · have inside := ih behind
      have advances := cut.lt
      omega

/-- The tiles stand in their order, each where the one before it has ended. -/
theorem ordered (tiling : Tiling continues rows stop start spans) :
    spans.Pairwise fun one other => one.stop ≤ other.start := by
  induction tiling with
  | done => exact .nil
  | @tile start next spans opens cut later ih =>
    exact .cons (fun other behind => (later.bounds behind).1) ih

/-- Every position lies in a tile. -/
theorem exists_mem (tiling : Tiling continues rows stop start spans) {position : Nat}
    (from_start : start ≤ position) (before_stop : position < stop) :
    ∃ tile ∈ spans, tile.start ≤ position ∧ position < tile.stop := by
  induction tiling with
  | done => omega
  | @tile start next spans opens cut later ih =>
    by_cases here : position < next
    · exact ⟨⟨start, next⟩, by simp, from_start, here⟩
    · obtain ⟨tile, behind, inside⟩ := ih (by omega)
      exact ⟨tile, by simp [behind], inside⟩

/-- No position lies in two tiles. -/
theorem eq_of_mem (tiling : Tiling continues rows stop start spans) {one other : Span}
    (one_listed : one ∈ spans) (other_listed : other ∈ spans) {position : Nat}
    (in_one : one.start ≤ position ∧ position < one.stop)
    (in_other : other.start ≤ position ∧ position < other.stop) : one = other := by
  induction tiling with
  | done => cases one_listed
  | @tile start next spans opens cut later ih =>
    -- The first tile ends where the later ones begin, so two tiles are both it or both later.
    rcases List.mem_cons.mp one_listed with rfl | one_behind <;>
      rcases List.mem_cons.mp other_listed with rfl | other_behind
    · rfl
    · have bounds := later.bounds other_behind
      dsimp only at in_one
      omega
    · have bounds := later.bounds one_behind
      dsimp only at in_other
      omega
    · exact ih one_behind other_behind

end Tiling

end

/-! ## The open tile -/

section

variable (continues) (position : Nat) (stretch : List α)

theorem cutTiles_fst_initial : (cutTiles continues position stretch).1 <+: stretch :=
  ⟨_, flatten_cutTiles continues position stretch⟩

/-- Behind the open tile the rows are cut as if they stood alone. -/
theorem cutTiles_snd :
    (cutTiles continues position stretch).2 =
      tiles continues (stretch.drop (cutTiles continues position stretch).1.length) := by
  induction stretch generalizing position with
  | nil => rfl
  | cons row stretch ih =>
    by_cases h : continues row position = true
    · simpa [cutTiles, h] using ih (position + 1)
    · simp [cutTiles, h, tiles]

variable {continues position stretch} {i : Nat} {row : α}

/-- Every row of the open tile continues it. -/
theorem continues_of_lt_cutTiles (inside : i < (cutTiles continues position stretch).1.length)
    (found : stretch[i]? = some row) : continues row (position + i) = true := by
  induction stretch generalizing position i with
  | nil => simp at found
  | cons first stretch ih =>
    by_cases h : continues first position = true
    · cases i with
      | zero =>
        obtain rfl : first = row := by simpa using found
        exact h
      | succ i =>
        have step : continues row (position + 1 + i) = true :=
          ih (by simpa [cutTiles, h] using inside) (by simpa using found)
        rwa [Nat.add_assoc, Nat.add_comm 1] at step
    · simp [cutTiles, h] at inside

/-- The first row behind the open tile does not continue it. -/
theorem not_continues_cutTiles
    (found : stretch[(cutTiles continues position stretch).1.length]? = some row) :
    continues row (position + (cutTiles continues position stretch).1.length) = false := by
  induction stretch generalizing position with
  | nil => simp at found
  | cons first stretch ih =>
    by_cases h : continues first position = true
    · have step : continues row (position + 1 +
          (cutTiles continues (position + 1) stretch).1.length) = false :=
        ih (by simpa [cutTiles, h] using found)
      simpa [cutTiles, h, Nat.add_assoc, Nat.add_comm 1] using step
    · obtain rfl : first = row := by simpa [cutTiles, h] using found
      simp [cutTiles, h]

end

/-! ## The tiles of a stretch -/

/-- The spans of tiles of which the first is at `start`. -/
def tileSpans (start : Nat) (tiles : List (List α)) : List Span :=
  (placeTiles start tiles).map fun tile => ⟨tile.1, tile.1 + tile.2.length⟩

section

variable {start : Nat} {stretch : List α}

/-- A row of a stretch is the row at its position in all rows. -/
theorem getElem?_of_stretch (window : stretch <+: rows.drop start) {i : Nat}
    (inside : i < stretch.length) : rows[start + i]? = stretch[i]? := by
  obtain ⟨behind, split⟩ := window
  rw [← List.getElem?_drop, ← split, List.getElem?_append_left inside]

/-- What is left of a stretch is again a stretch. -/
theorem drop_stretch (window : stretch <+: rows.drop start) (n : Nat) (bound : n ≤ stretch.length) :
    stretch.drop n <+: rows.drop (start + n) := by
  obtain ⟨behind, split⟩ := window
  refine ⟨behind, ?_⟩
  rw [← List.drop_drop, ← split, List.drop_append_of_le_length bound]

/-- The open tile of a stretch ends where the rows no longer continue it. -/
theorem isCut_cutTiles (continues : α → Nat → Bool) {first : α}
    (window : first :: stretch <+: rows.drop start) :
    IsCut continues rows (start + (stretch.length + 1)) start
      (start + ((cutTiles continues 1 stretch).1.length + 1)) := by
  have bound := (cutTiles_fst_initial continues 1 stretch).length_le
  have found (i : Nat) (inside : i < stretch.length) :
      rows[start + (i + 1)]? = stretch[i]? := by
    rw [getElem?_of_stretch window (by simpa using inside), List.getElem?_cons_succ]
  constructor
  · refine ⟨by omega, ?_⟩
    rcases bound.eq_or_lt with full | short
    · exact .inl (by rw [full])
    · have next_row := List.getElem?_eq_getElem short
      refine .inr ⟨_, (found _ short).trans next_row, ?_⟩
      rw [Nat.add_sub_cancel_left, Nat.add_comm _ 1]
      exact not_continues_cutTiles next_row
  · rintro cut ⟨behind, ends⟩
    -- An earlier cut would be at a row of the open tile, and that row continues it.
    by_contra early
    obtain ⟨i, rfl⟩ : ∃ i, cut = start + (i + 1) := ⟨cut - start - 1, by omega⟩
    have inside : i < (cutTiles continues 1 stretch).1.length := by omega
    rcases ends with at_end | ⟨row, at_cut, refuses⟩
    · omega
    · rw [found i (by omega)] at at_cut
      rw [Nat.add_sub_cancel_left, Nat.add_comm i 1,
        continues_of_lt_cutTiles inside at_cut] at refuses
      cases refuses

/-- The tiles of a stretch of rows are a tiling of its positions. -/
theorem tiling_tileSpans (continues : α → Nat → Bool) (window : stretch <+: rows.drop start) :
    Tiling continues rows (start + stretch.length) start
      (tileSpans start (tiles continues stretch)) := by
  -- Behind the first tile the rest is a shorter stretch, cut as if it stood alone.
  induction length : stretch.length using Nat.strong_induction_on generalizing start stretch with
  | _ n ih =>
    subst length
    cases stretch with
    | nil => exact .done
    | cons first stretch =>
      have bound := (cutTiles_fst_initial continues 1 stretch).length_le
      have cut := isCut_cutTiles continues window
      have later := ih (stretch.drop (cutTiles continues 1 stretch).1.length).length
        (by simp only [List.length_drop, List.length_cons]; omega)
        (drop_stretch window ((cutTiles continues 1 stretch).1.length + 1) (by simpa using bound))
        rfl
      have same_stop : start + ((cutTiles continues 1 stretch).1.length + 1) +
          (stretch.drop (cutTiles continues 1 stretch).1.length).length =
            start + (stretch.length + 1) := by
        rw [List.length_drop]
        omega
      have spans : tileSpans start (tiles continues (first :: stretch)) =
          ⟨start, start + ((cutTiles continues 1 stretch).1.length + 1)⟩ ::
            tileSpans (start + ((cutTiles continues 1 stretch).1.length + 1))
              (tiles continues (stretch.drop (cutTiles continues 1 stretch).1.length)) := by
        rw [← cutTiles_snd]
        simp [tiles, tileSpans, placeTiles]
      rw [same_stop] at later
      rw [spans, List.length_cons]
      exact .tile (by omega) cut later

/-- The rows of a placed tile are those that stand at its span. -/
theorem rows_of_mem_placeTiles {tiles : List (List α)} (window : tiles.flatten <+: rows.drop start)
    {tile : Nat × List α} (listed : tile ∈ placeTiles start tiles) :
    tile.2 <+: rows.drop tile.1 := by
  induction tiles generalizing start with
  | nil => cases listed
  | cons first later ih =>
    rw [List.flatten_cons] at window
    rcases List.mem_cons.mp listed with rfl | behind
    · exact (List.prefix_append _ _).trans window
    · have rest := drop_stretch window first.length (by simp)
      rw [List.drop_left] at rest
      exact ih rest behind

end

end PaymentRules
