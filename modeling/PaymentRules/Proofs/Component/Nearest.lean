import Mathlib.Data.List.Sort
import PaymentRules.Proofs.Component.Tiling

/-!
# The nearest row above

Where a kind of part opens at certain rows and takes in all others, a row belongs to the part that
was opened by the nearest such row at or above it. Only the first tile of a stretch can open at
another row: it has no such row above it.

A row that opens a part is called marked.

## Main definitions

* `isMarked` — whether there is a marked row at a position
* `nearest?` — the last position, up to a given one, that passes a test

## Main results

* `Tiling.mem_rows_iff` — the rows of a tile are those with its first row as the nearest marked one
* `Tiling.map_start_filter` — the tiles that open at marked rows, by their first rows
* `Tiling.flatMap_filter` — what is chosen from these tiles is chosen from the whole stretch
-/

namespace PaymentRules

/-- The last position, up to a given one, that passes a test. -/
def nearest? (test : Nat → Bool) : Nat → Option Nat
  | 0 => if test 0 then some 0 else none
  | i + 1 => if test (i + 1) then some (i + 1) else nearest? test i

section

variable {test : Nat → Bool} {i j k : Nat}

/-- The nearest position is the greatest of those that pass, up to the given one. -/
theorem nearest?_eq_some_iff :
    nearest? test i = some j ↔ IsGreatest {k | k ≤ i ∧ test k = true} j := by
  induction i with
  | zero =>
    by_cases h : test 0 = true
    · simp only [nearest?, h, if_true, Option.some.injEq]
      constructor
      · rintro rfl
        exact ⟨⟨Nat.le_refl 0, h⟩, fun k found => found.1⟩
      · exact fun greatest => (Nat.le_zero.mp greatest.1.1).symm
    · simp only [nearest?, h]
      refine ⟨nofun, fun greatest => absurd greatest.1.2 ?_⟩
      rwa [Nat.le_zero.mp greatest.1.1]
  | succ i ih =>
    by_cases h : test (i + 1) = true
    · simp only [nearest?, h, if_true, Option.some.injEq]
      constructor
      · rintro rfl
        exact ⟨⟨Nat.le_refl _, h⟩, fun k found => found.1⟩
      · exact fun greatest =>
          Nat.le_antisymm (greatest.2 ⟨Nat.le_refl _, h⟩) greatest.1.1
    · have same : {k | k ≤ i + 1 ∧ test k = true} = {k | k ≤ i ∧ test k = true} := by
        ext k
        simp only [Set.mem_ofPred_eq]
        refine ⟨fun ⟨bound, passes⟩ => ⟨?_, passes⟩, fun ⟨bound, passes⟩ => ⟨by omega, passes⟩⟩
        rcases Nat.le_succ_iff.mp bound with below | rfl
        · exact below
        · exact absurd passes h
      simp only [nearest?, h, ih, same, Bool.false_eq_true, if_false]

/-- A position that passes is the nearest to itself. -/
theorem nearest?_self (passes : test i = true) : nearest? test i = some i :=
  nearest?_eq_some_iff.mpr ⟨⟨Nat.le_refl i, passes⟩, fun _ found => found.1⟩

/-- What is nearest to a position is nearest to every position on the way. -/
theorem nearest?_between (found : nearest? test i = some j) (behind : j ≤ k) (before : k ≤ i) :
    nearest? test k = some j := by
  rw [nearest?_eq_some_iff] at found ⊢
  exact ⟨⟨behind, found.1.2⟩, fun other passes => found.2 ⟨passes.1.trans before, passes.2⟩⟩

end

/-! ## Tiles that open at marked rows -/

variable {α : Type} {mark : α → Bool} {rows : List α}

/-- Whether there is a marked row at a position. -/
def isMarked (mark : α → Bool) (rows : List α) (i : Nat) : Bool :=
  rows[i]?.any mark

theorem isMarked_eq_true_iff {i : Nat} :
    isMarked mark rows i = true ↔ ∃ row, rows[i]? = some row ∧ mark row = true := by
  rw [isMarked, Option.any_eq_true]

theorem isMarked_of_getElem? {i : Nat} {row : α} (found : rows[i]? = some row) :
    isMarked mark rows i = mark row := by
  rw [isMarked, found, Option.any_some]

/-- The positions of a span are increasing. -/
theorem Span.pairwise_rows (s : Span) : s.rows.Pairwise (· < ·) :=
  List.pairwise_lt_range'

/-- What is chosen from two spans is the same list when it has the same members. -/
theorem Span.filter_rows_congr {s t : Span} {p q : Nat → Bool}
    (same : ∀ i, i ∈ s.rows ∧ p i = true ↔ i ∈ t.rows ∧ q i = true) :
    s.rows.filter p = t.rows.filter q := by
  refine List.Pairwise.eq_of_mem_iff (r := (· < ·)) (s.pairwise_rows.filter _)
    (t.pairwise_rows.filter _) fun i => ?_
  rw [List.mem_filter, List.mem_filter, same]

namespace Tiling

variable {continues : α → Nat → Bool} {stop start : Nat} {spans : List Span} {tile : Span}

theorem isCut_of_mem (tiling : Tiling continues rows stop start spans) (listed : tile ∈ spans) :
    IsCut continues rows stop tile.start tile.stop := by
  induction tiling with
  | done => cases listed
  | @tile start next spans opens cut later ih =>
    rcases List.mem_cons.mp listed with rfl | behind
    · exact cut
    · exact ih behind

variable (opening : ∀ row position, continues row position = !mark row)
  (tiling : Tiling continues rows stop start spans)

include opening tiling

/-- No row of a tile is marked, unless it is the first one. -/
theorem not_marked_of_mem (listed : tile ∈ spans) {i : Nat} (behind : tile.start < i)
    (before : i < tile.stop) : isMarked mark rows i = false := by
  by_contra marked
  obtain ⟨row, found, marked⟩ := isMarked_eq_true_iff.mp (Bool.not_eq_false _ ▸ marked)
  have ends : tile.stop ≤ i :=
    (tiling.isCut_of_mem listed).2 ⟨behind, .inr ⟨row, found, by rw [opening, marked]; rfl⟩⟩
  omega

/-- The rows of a tile that opens at a marked row are those of the stretch with this row as the
nearest marked one. -/
theorem mem_rows_iff (listed : tile ∈ spans) (marked : isMarked mark rows tile.start = true)
    {i : Nat} : i ∈ tile.rows ↔
      (start ≤ i ∧ i < stop) ∧ nearest? (isMarked mark rows) i = some tile.start := by
  have bounds := tiling.bounds listed
  rw [Span.mem_rows, nearest?_eq_some_iff]
  constructor
  · rintro ⟨behind, before⟩
    refine ⟨by omega, ⟨behind, marked⟩, fun other ⟨bound, other_marked⟩ => ?_⟩
    by_contra later
    have := not_marked_of_mem opening tiling listed (Nat.not_le.mp later) (by omega)
    rw [this] at other_marked
    cases other_marked
  · rintro ⟨⟨-, inside⟩, ⟨behind, -⟩, greatest⟩
    refine ⟨behind, ?_⟩
    -- Behind the tile the stretch goes on with a marked row, which would be nearer.
    by_contra past
    rcases (tiling.isCut_of_mem listed).1.2 with at_stop | ⟨row, found, refuses⟩
    · omega
    · have next_marked : isMarked mark rows tile.stop = true := by
        rw [isMarked_of_getElem? found]
        simpa [opening] using refuses
      have nearer : tile.stop ≤ tile.start := greatest ⟨by omega, next_marked⟩
      omega

/-- A marked row of a stretch opens a tile. -/
theorem exists_start_eq {i : Nat} (inside : start ≤ i ∧ i < stop)
    (marked : isMarked mark rows i = true) : ∃ tile ∈ spans, tile.start = i := by
  obtain ⟨tile, listed, behind, before⟩ := tiling.exists_mem inside.1 inside.2
  refine ⟨tile, listed, ?_⟩
  rcases behind.eq_or_lt with same | past
  · exact same
  · rw [not_marked_of_mem opening tiling listed past before] at marked
    cases marked

/-- The tiles that open at chosen rows, all of them marked, by their first rows. -/
theorem map_start_filter {chosen : Nat → Bool}
    (only_marked : ∀ i, chosen i = true → isMarked mark rows i = true) :
    (spans.filter fun tile => chosen tile.start).map (·.start) =
      (Span.mk start stop).rows.filter chosen := by
  -- Both lists are increasing, so it is enough that they have the same members.
  refine List.Pairwise.eq_of_mem_iff (r := (· < ·)) ?_ ((Span.pairwise_rows _).filter _) fun i => ?_
  · rw [List.pairwise_map]
    refine (tiling.ordered.imp_of_mem fun one_listed _ apart => ?_).filter _
    exact (tiling.bounds one_listed).2.1.trans_le apart
  · simp only [List.mem_map, List.mem_filter, Span.mem_rows]
    constructor
    · rintro ⟨tile, ⟨listed, picked⟩, rfl⟩
      have bounds := tiling.bounds listed
      exact ⟨by omega, picked⟩
    · rintro ⟨inside, picked⟩
      obtain ⟨tile, listed, rfl⟩ := exists_start_eq opening tiling inside (only_marked i picked)
      exact ⟨tile, ⟨listed, picked⟩, rfl⟩

/-- What is chosen from the rows of each tile that opens at a marked row is chosen from the rows of
the stretch that have a marked row of the stretch at or above them. -/
theorem flatMap_filter (chosen : Nat → Nat → Bool) :
    ((spans.filter fun tile => isMarked mark rows tile.start).flatMap fun tile =>
        tile.rows.filter (chosen tile.start)) =
      (Span.mk start stop).rows.filter fun i =>
        (nearest? (isMarked mark rows) i).any fun opening =>
          decide (start ≤ opening) && chosen opening i := by
  refine List.Pairwise.eq_of_mem_iff (r := (· < ·)) ?_ ((Span.pairwise_rows _).filter _) fun i => ?_
  · rw [List.pairwise_flatMap]
    refine ⟨fun tile _ => (Span.pairwise_rows _).filter _, (tiling.ordered.filter _).imp ?_⟩
    intro one other apart i in_one j in_other
    have before := (Span.mem_rows.mp (List.mem_of_mem_filter in_one)).2
    have behind := (Span.mem_rows.mp (List.mem_of_mem_filter in_other)).1
    omega
  · simp only [List.mem_flatMap, List.mem_filter, Option.any_eq_true, Bool.and_eq_true,
      decide_eq_true_eq]
    constructor
    · rintro ⟨tile, ⟨listed, marked⟩, in_tile, picked⟩
      obtain ⟨inside, near⟩ := (mem_rows_iff opening tiling listed marked).mp in_tile
      exact ⟨Span.mem_rows.mpr inside, tile.start, near, (tiling.bounds listed).1, picked⟩
    · rintro ⟨inside, position, near, behind, picked⟩
      have greatest := nearest?_eq_some_iff.mp near
      have inside : start ≤ i ∧ i < stop := Span.mem_rows.mp inside
      obtain ⟨tile, listed, rfl⟩ := exists_start_eq opening tiling
        ⟨behind, greatest.1.1.trans_lt inside.2⟩ greatest.1.2
      exact ⟨tile, ⟨listed, greatest.1.2⟩,
        (mem_rows_iff opening tiling listed greatest.1.2).mpr ⟨inside, near⟩, picked⟩

end Tiling

end PaymentRules
