import PaymentRules.Proofs.Component.Parts
import PaymentRules.Proofs.Component.Tiling

/-!
# The walk along the rows

The tiles of a component are found by walking along the rows of the whole sheet, from the start of
the component up to its end or the end of the sheet. The walk stops at the cuts, and rows that are
cut out and divided by themselves are divided at the same cuts. Since a tiling is settled by its
ends, the spans of the walk are those of the divided rows, and so are the components made from them,
at every depth.

## Main results

* `isCut_tileEnd` — where the walk along one tile ends
* `tiling_scan` — the walk from tile to tile is a tiling
* `parse_eq_parseAt` — a component is made from the rows of its span
-/

namespace PaymentRules

variable {α : Type} {continues : α → Nat → Bool} {rows : List α} {stop start cursor : Nat}

/-! ## The two walks -/

/-- The walk along a tile ends at the cut, as long as all rows taken in continue the tile. -/
theorem isCut_tileEnd (within : stop ≤ rows.length) (opens : start < cursor)
    (inside : cursor ≤ stop)
    (taken : ∀ position row, start < position → position < cursor → rows[position]? = some row →
      continues row (position - start) = true) :
    IsCut continues rows stop start (tileEnd continues rows stop start cursor) := by
  fun_induction tileEnd with
  | case1 cursor goes_on ih =>
    obtain ⟨before_stop, next_row⟩ := goes_on
    refine ih (by omega) before_stop fun position row behind up_to at_position => ?_
    rcases (Nat.lt_succ_iff.mp up_to).lt_or_eq with earlier | rfl
    · exact taken position row behind earlier at_position
    · rwa [at_position, Option.any_some] at next_row
  | case2 cursor ends =>
    constructor
    · refine ⟨opens, inside.eq_or_lt.imp_right fun before_stop => ?_⟩
      have next_row := List.getElem?_eq_getElem (before_stop.trans_le within)
      refine ⟨_, next_row, Bool.eq_false_iff.mpr fun goes_on => ends ⟨before_stop, ?_⟩⟩
      rwa [next_row, Option.any_some]
    · rintro cut ⟨behind, at_stop | ⟨row, at_cut, refuses⟩⟩
      · exact at_stop ▸ inside
      · -- An earlier cut would be at a row that was taken in.
        by_contra early
        rw [taken cut row behind (Nat.lt_of_not_ge early) at_cut] at refuses
        cases refuses

/-- The walk from tile to tile is a tiling. Where there is nothing to walk along, it ends where it
starts. -/
theorem tiling_scan (continues : α → Nat → Bool) (within : stop ≤ rows.length) (start : Nat) :
    Tiling continues rows (max start stop) start (scan continues rows stop start) := by
  fun_induction scan with
  | case1 start opens next ih =>
    have cut : IsCut continues rows stop start next :=
      isCut_tileEnd within (Nat.lt_succ_self start) opens fun position row behind up_to _ => by
        omega
    rw [max_eq_right opens.le]
    rw [max_eq_right (cut.le opens)] at ih
    exact .tile opens cut ih
  | case2 start ends =>
    rw [max_eq_left (Nat.le_of_not_lt ends)]
    exact .done

/-- There is only one way to tile the rows between two positions. -/
theorem Tiling.unique {spans others : List Span} (one : Tiling continues rows stop start spans)
    (other : Tiling continues rows stop start others) : spans = others := by
  induction one generalizing others with
  | done =>
    cases other with
    | done => rfl
    | tile opens => exact absurd opens (Nat.lt_irrefl _)
  | tile opens cut later ih =>
    cases other with
    | done => exact absurd opens (Nat.lt_irrefl _)
    | tile _ other_cut other_later =>
      obtain rfl := cut.unique other_cut
      rw [ih other_later]

/-! ## Rows that are cut out -/

/-- The rows of a span begin what is left of the rows behind its start. -/
theorem extract_initial (rows : List α) (start stop : Nat) :
    rows.extract start stop <+: rows.drop start :=
  List.take_prefix _ _

/-- The walk divides the rows as they are divided when they are cut out. -/
theorem scan_eq_tileSpans (continues : α → Nat → Bool) (within : stop ≤ rows.length)
    (start : Nat) :
    scan continues rows stop start =
      tileSpans start (tiles continues (rows.extract start stop)) := by
  have same_stop : start + (rows.extract start stop).length = max start stop := by
    rw [List.extract, List.length_take, List.length_drop]
    omega
  -- Both are tilings of the same rows, and so there is nothing to compare tile by tile.
  have cut_out := tiling_tileSpans continues (extract_initial rows start stop)
  rw [same_stop] at cut_out
  exact (tiling_scan continues within start).unique cut_out

/-- Whether a tile is kept is told by the row at which it opens. -/
theorem keepsTile_eq_opensAt (g : Grammar α) {tile : Nat × List α}
    (window : tile.2 <+: rows.drop tile.1) (nonempty : tile.2 ≠ []) :
    g.keepsTile tile.2 = g.opensAt rows ⟨tile.1, tile.1 + tile.2.length⟩ := by
  have inside : 0 < tile.2.length := List.length_pos_iff.mpr nonempty
  have first := getElem?_of_stretch window inside
  rw [Nat.add_zero, ← List.head?_eq_getElem?] at first
  rw [Grammar.keepsTile, Grammar.opensAt, first]

/-- The tiles that the walk keeps are those that are kept when the rows are cut out. -/
theorem filter_scan_eq (kind : Grammar α) (within : stop ≤ rows.length) (start : Nat) :
    (scan kind.continues rows stop start).filter (kind.opensAt rows) =
      (kind.keptTiles start (rows.extract start stop)).map fun tile =>
        ⟨tile.1, tile.1 + tile.2.length⟩ := by
  have window := extract_initial rows start stop
  rw [scan_eq_tileSpans kind.continues within, tileSpans, List.filter_map, Grammar.keptTiles]
  congr 1
  refine List.filter_congr fun tile listed => ?_
  have own := rows_of_mem_placeTiles (by rwa [flatten_tiles]) listed
  refine (keepsTile_eq_opensAt kind own fun empty => ?_).symm
  have bounds := (tiling_tileSpans kind.continues window).bounds (List.mem_map_of_mem listed)
  simp [empty] at bounds

theorem rows_of_mem_keptTiles {kind : Grammar α} {stretch : List α}
    (window : stretch <+: rows.drop start) {tile : Nat × List α}
    (kept : tile ∈ kind.keptTiles start stretch) : tile.2 <+: rows.drop tile.1 :=
  rows_of_mem_placeTiles (by rwa [flatten_tiles]) (List.mem_filter.mp kept).1

/-- The rows that stand at the span of a tile are its own. -/
theorem extract_tile {tile : Nat × List α} (window : tile.2 <+: rows.drop tile.1) :
    rows.extract tile.1 (tile.1 + tile.2.length) = tile.2 := by
  rw [List.extract, Nat.add_sub_cancel_left, ← List.prefix_iff_eq_take.mp window]

/-- No rows stand behind the last one. -/
theorem extract_min (rows : List α) (start stop : Nat) :
    rows.extract start (min stop rows.length) = rows.extract start stop := by
  rw [List.extract, List.extract, List.take_eq_take_iff, List.length_drop]
  omega

mutual

/-- A component is made from the rows of its span, and from nothing else but the position of the
first one. -/
theorem parse_eq_parseAt (g : Grammar α) (rows : List α) (span : Span) :
    g.parse rows span = g.parseAt span.start (rows.extract span.start span.stop) := by
  match g with
  | ⟨_, _, _, parts⟩ =>
    rw [Grammar.parse, Grammar.parseAt, findParts_eq_parseParts parts (Nat.min_le_right _ _),
      extract_min]

theorem findParts_eq_parseParts (kinds : List (Grammar α)) {rows : List α} {stop : Nat}
    (within : stop ≤ rows.length) (start : Nat) :
    Grammar.findParts kinds rows stop start =
      Grammar.parseParts kinds start (rows.extract start stop) := by
  match kinds with
  | [] => rfl
  | kind :: later =>
    -- A part is walked along once more in the rows of the whole sheet, where its tile still stands.
    have own : ∀ tile ∈ kind.keptTiles start (rows.extract start stop),
        kind.parse rows ⟨tile.1, tile.1 + tile.2.length⟩ = kind.parseAt tile.1 tile.2 := by
      intro tile kept
      have window := rows_of_mem_keptTiles (extract_initial rows start stop) kept
      rw [parse_eq_parseAt kind, extract_tile window]
    rw [Grammar.findParts, Grammar.parseParts, findParts_eq_parseParts later within,
      filter_scan_eq kind within, List.map_map]
    exact congrArg (fun found => (kind.name, found) :: _) (List.map_congr_left own)

end

/-- A sheet is parsed as a whole. -/
theorem parse_whole (g : Grammar α) (rows : List α) :
    g.parse rows ⟨0, rows.length⟩ = g.parseAt 0 rows := by
  rw [parse_eq_parseAt, List.extract_eq_take_drop]
  simp

end PaymentRules
