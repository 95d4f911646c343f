import PaymentRules.RuleRow
import PaymentRules.Proofs.Component.Nearest
import PaymentRules.Proofs.Component.Tree
import PaymentRules.Proofs.Except
import PaymentRules.Proofs.Sheet.Names

/-!
# Reading the parts of a component by position

The items that are read from the parts of a component stand for tiles of its span, in their order.
When a kind opens at marked rows, and only its tiles with a marked first row can be read, then the
items stand for the marked rows of the span.

A list that is read down a column stands for the rows of its component that have some text there.

## Main definitions

* `ReadsAt` — an item is read from a tile
* `OpensAtMarks` — a kind whose parts open at marked rows, and are read from there only
* `MarkedTile` — a tile that opens at a marked row, by its rows
* `hasText`, `textRows` — the rows with some text in a column

## Main results

* `exists_tiling_of_mapM` — the items that are read, with their tiles
* `OpensAtMarks.forall₂` — the items by the marked rows of the span
* `OpensAtMarks.forall₂_flatMap` — what the items hold, by the rows of the whole span
* `forall₂_columnList` — the values of a list, with their rows
-/

namespace PaymentRules

variable {α β γ : Type}

/-- A member of a list is related to some member of the other. -/
theorem exists_of_mem_of_forall₂ {R : α → β → Prop} {members : List α} {items : List β}
    (each : List.Forall₂ R members items) {member : α} (listed : member ∈ members) :
    ∃ item ∈ items, R member item := by
  induction each with
  | nil => cases listed
  | cons related _ ih =>
    rcases List.mem_cons.mp listed with rfl | later
    · exact ⟨_, List.mem_cons_self, related⟩
    · obtain ⟨item, among, related⟩ := ih later
      exact ⟨item, List.mem_cons_of_mem _ among, related⟩

/-- What is related to the images of a list, all of which exist, is related to its members. -/
theorem forall₂_of_filterMap {R : γ → β → Prop} {f : α → Option γ} {members : List α}
    {items : List β} (total : ∀ member ∈ members, (f member).isSome = true)
    (each : List.Forall₂ R (members.filterMap f) items) :
    List.Forall₂ (fun member item => ∃ image, f member = some image ∧ R image item)
      members items := by
  induction members generalizing items with
  | nil => simpa using each
  | cons member members ih =>
    obtain ⟨image, found⟩ := Option.isSome_iff_exists.mp (total member List.mem_cons_self)
    rw [List.filterMap_cons_some found] at each
    obtain ⟨item, later, related, each_later, rfl⟩ := List.forall₂_cons_left_iff.mp each
    exact .cons ⟨image, found, related⟩
      (ih (fun member listed => total member (List.mem_cons_of_mem _ listed)) each_later)

/-! ## Items and their tiles -/

/-- The item is read from a tile, given the first row of the tile and its component. -/
def ReadsAt (rows : List α) (kind : Grammar α) (read : α × Component α → Except LoadError β)
    (tile : Span) (item : β) : Prop :=
  ∃ first, rows[tile.start]? = some first ∧ read (first, kind.parse rows tile) = .ok item

section

variable {rows : List α} {g kind : Grammar α} {name : String} {span : Span}
  {read : α × Component α → Except LoadError β} {items : List β}

/-- The first row of a tile that is not empty. -/
theorem head?_parse_rows {tile : Span} (opens : tile.start < tile.stop) :
    (kind.parse rows tile).rows.head? = rows[tile.start]? := by
  rw [parse_rows, List.head?_take, if_neg (by rw [Span.length]; omega), List.head?_drop]

/-- The parts found under a name are those of the kept tiles of a tiling of the span, each behind
the first row of its tile. -/
theorem exists_tiling_of_anchored
    (found : (g.parts.find? fun kind => name == kind.name) = some kind)
    (forward : span.start ≤ span.stop) (inside : span.stop ≤ rows.length) :
    ∃ spans, Tiling kind.continues rows span.stop span.start spans ∧
      (g.parse rows span).anchored name = (spans.filter (kind.opensAt rows)).filterMap fun tile =>
        rows[tile.start]?.map (·, kind.parse rows tile) := by
  have tiling := tiling_scan kind.continues (Nat.min_le_right span.stop rows.length) span.start
  rw [min_eq_left inside, max_eq_right forward] at tiling
  refine ⟨_, tiling, ?_⟩
  rw [Component.anchored, Component.part, parts_parse, lookup_map_name, found, Option.map_some,
    Option.getD_some, Grammar.keptSpans, min_eq_left inside, List.filterMap_map]
  refine List.filterMap_congr fun tile listed => ?_
  rw [Function.comp_apply, head?_parse_rows (tiling.bounds (List.mem_of_mem_filter listed)).2.1]

/-- The items that are read from the parts of a kind, with the tiles that they are read from. -/
theorem exists_tiling_of_mapM (found : (g.parts.find? fun kind => name == kind.name) = some kind)
    (forward : span.start ≤ span.stop) (inside : span.stop ≤ rows.length)
    (built : ((g.parse rows span).anchored name).mapM read = .ok items) :
    ∃ spans, Tiling kind.continues rows span.stop span.start spans ∧
      List.Forall₂ (ReadsAt rows kind read) (spans.filter (kind.opensAt rows)) items := by
  obtain ⟨spans, tiling, anchored⟩ := exists_tiling_of_anchored found forward inside
  refine ⟨spans, tiling, ?_⟩
  have each := Except.mapM_eq_ok_iff.mp built
  rw [anchored] at each
  have total : ∀ tile ∈ spans.filter (kind.opensAt rows),
      (rows[tile.start]?.map (·, kind.parse rows tile)).isSome = true := by
    intro tile listed
    obtain ⟨first, at_start, -⟩ := (Option.any_eq_true _ _).mp (List.mem_filter.mp listed).2
    rw [at_start]
    rfl
  refine (forall₂_of_filterMap total each).imp fun tile item ⟨image, same, read_item⟩ => ?_
  obtain ⟨first, at_start, rfl⟩ := Option.map_eq_some_iff.mp same
  exact ⟨first, at_start, read_item⟩

end

/-! ## Kinds that open at marked rows -/

/-- The parts of a kind open at marked rows, every marked row is a genuine one, and no part is read
whose first row is not marked. -/
structure OpensAtMarks (rows : List α) (kind : Grammar α) (mark : α → Bool)
    (read : α × Component α → Except LoadError β) : Prop where
  continues : ∀ row position, kind.continues row position = !mark row
  keeps : ∀ row ∈ rows, mark row = true → kind.keeps row = true
  marked : ∀ first part item, kind.keeps first = true → read (first, part) = .ok item →
    mark first = true

/-- A tile of a span that opens at a marked row: its rows are those of the span with this row as the
nearest marked one. -/
structure MarkedTile (mark : α → Bool) (rows : List α) (span tile : Span) : Prop where
  nonempty : tile.start < tile.stop
  inside : tile.stop ≤ rows.length
  mem_rows_iff : ∀ i, i ∈ tile.rows ↔
    i ∈ span.rows ∧ nearest? (isMarked mark rows) i = some tile.start

namespace MarkedTile

variable {mark : α → Bool} {rows : List α} {span tile : Span}
  (is_tile : MarkedTile mark rows span tile)

include is_tile

theorem start_mem_rows : tile.start ∈ tile.rows :=
  Span.mem_rows.mpr ⟨Nat.le_refl _, is_tile.nonempty⟩

/-- A tile of the whole sheet is told by its first row alone. -/
theorem filter_rows_eq (whole : span = ⟨0, rows.length⟩) (chosen : Nat → Bool) :
    tile.rows.filter chosen = ((Span.mk 0 rows.length).rows.filter chosen).filter fun i =>
      nearest? (isMarked mark rows) i = some tile.start := by
  rw [List.filter_filter]
  refine Span.filter_rows_congr fun i => ?_
  rw [is_tile.mem_rows_iff, whole, Bool.and_eq_true, decide_eq_true_eq, and_assoc]

end MarkedTile

section

variable {rows : List α} {g kind : Grammar α} {name : String} {span : Span}
  {read : α × Component α → Except LoadError β} {items : List β}

/-- The items that are read from the parts of a kind of single rows, with their rows. -/
theorem forall₂_of_single (single : ∀ row position, kind.continues row position = false)
    (found : (g.parts.find? fun kind => name == kind.name) = some kind)
    (forward : span.start ≤ span.stop) (inside : span.stop ≤ rows.length)
    (built : ((g.parse rows span).anchored name).mapM read = .ok items) :
    List.Forall₂ (fun i item => ∃ row part, rows[i]? = some row ∧ read (row, part) = .ok item)
      (span.rows.filter (isMarked kind.keeps rows)) items := by
  obtain ⟨spans, tiling, each⟩ := exists_tiling_of_mapM found forward inside built
  -- Every row opens a tile, so every row counts as marked here.
  have every : ∀ row position, kind.continues row position = !(fun _ : α => true) row := single
  have starts : (spans.filter (kind.opensAt rows)).map (·.start) =
      span.rows.filter (isMarked kind.keeps rows) :=
    tiling.map_start_filter every fun i kept => by
      obtain ⟨row, at_row, -⟩ := isMarked_eq_true_iff.mp kept
      exact isMarked_of_getElem? at_row
  rw [← starts, List.forall₂_map_left_iff]
  exact each.imp fun tile item ⟨row, at_start, read_item⟩ => ⟨row, _, at_start, read_item⟩

namespace OpensAtMarks

variable {mark : α → Bool} (marks : OpensAtMarks rows kind mark read)
  (found : (g.parts.find? fun kind => name == kind.name) = some kind)
  (forward : span.start ≤ span.stop) (inside : span.stop ≤ rows.length)
  (built : ((g.parse rows span).anchored name).mapM read = .ok items)

include marks

/-- The tiles that are kept are those that open at marked rows. -/
theorem opensAt_eq_isMarked {spans : List Span}
    (each : List.Forall₂ (ReadsAt rows kind read) (spans.filter (kind.opensAt rows)) items) :
    ∀ tile ∈ spans, kind.opensAt rows tile = isMarked mark rows tile.start := by
  intro tile listed
  rw [Bool.eq_iff_iff]
  constructor
  · intro kept
    obtain ⟨item, -, first, at_start, read_item⟩ :=
      exists_of_mem_of_forall₂ each (List.mem_filter.mpr ⟨listed, kept⟩)
    rw [isMarked_of_getElem? at_start]
    rw [Grammar.opensAt, at_start] at kept
    exact marks.marked first _ item kept read_item
  · intro marked
    obtain ⟨first, at_start, marked⟩ := isMarked_eq_true_iff.mp marked
    rw [Grammar.opensAt, at_start]
    exact marks.keeps first (List.mem_of_getElem? at_start) marked

include found forward inside built

theorem exists_tiling : ∃ spans, Tiling kind.continues rows span.stop span.start spans ∧
    (∀ tile ∈ spans, kind.opensAt rows tile = isMarked mark rows tile.start) ∧
    List.Forall₂
      (fun tile item => MarkedTile mark rows span tile ∧ ReadsAt rows kind read tile item)
      (spans.filter fun tile => isMarked mark rows tile.start) items := by
  obtain ⟨spans, tiling, each⟩ := exists_tiling_of_mapM found forward inside built
  have kept := marks.opensAt_eq_isMarked each
  rw [List.filter_congr kept] at each
  refine ⟨spans, tiling, kept, (List.forall₂_and_left _ _).mpr ⟨fun tile listed => ?_, each⟩⟩
  obtain ⟨among, marked⟩ := List.mem_filter.mp listed
  have bounds := tiling.bounds among
  refine ⟨bounds.2.1, bounds.2.2.trans inside, fun i => ?_⟩
  rw [tiling.mem_rows_iff marks.continues among marked, Span.mem_rows]

/-- The items stand for the marked rows of the span. -/
theorem forall₂ {R : Nat → β → Prop}
    (each : ∀ tile item, MarkedTile mark rows span tile → ReadsAt rows kind read tile item →
      R tile.start item) :
    List.Forall₂ R (span.rows.filter (isMarked mark rows)) items := by
  obtain ⟨spans, tiling, -, tiles⟩ := marks.exists_tiling found forward inside built
  rw [← tiling.map_start_filter marks.continues fun _ marked => marked, List.forall₂_map_left_iff]
  exact tiles.imp fun tile item ⟨is_tile, reads⟩ => each tile item is_tile reads

/-- Every marked row of the span has an item. -/
theorem exists_reads {i : Nat} (listed : i ∈ span.rows) (marked : isMarked mark rows i = true) :
    ∃ tile item, tile.start = i ∧ MarkedTile mark rows span tile ∧
      ReadsAt rows kind read tile item := by
  have each := marks.forall₂ found forward inside built (R := fun i item => ∃ tile : Span,
    tile.start = i ∧ MarkedTile mark rows span tile ∧ ReadsAt rows kind read tile item)
    fun tile item is_tile reads => ⟨tile, rfl, is_tile, reads⟩
  obtain ⟨item, -, tile, reads⟩ :=
    exists_of_mem_of_forall₂ each (List.mem_filter.mpr ⟨listed, marked⟩)
  exact ⟨tile, item, reads⟩

/-- When what an item holds stands for chosen rows of its tile, then what all of them hold stands
for the chosen rows of the span that have a marked row of the span at or above them. -/
theorem forall₂_flatMap {R : Nat → γ → Prop} (held : β → List γ) (chosen : Nat → Nat → Bool)
    (each : ∀ tile item, MarkedTile mark rows span tile → ReadsAt rows kind read tile item →
      List.Forall₂ R (tile.rows.filter (chosen tile.start)) (held item)) :
    List.Forall₂ R
      (span.rows.filter fun i => (nearest? (isMarked mark rows) i).any fun opening =>
        decide (span.start ≤ opening) && chosen opening i)
      (items.flatMap held) := by
  obtain ⟨spans, tiling, -, tiles⟩ := marks.exists_tiling found forward inside built
  rw [← tiling.flatMap_filter marks.continues]
  exact List.rel_flatMap tiles fun tile item ⟨is_tile, reads⟩ => each tile item is_tile reads

/-- A genuine row at the start of the span is marked. -/
theorem marked_of_keeps {first : α} (opens : span.start < span.stop)
    (at_start : rows[span.start]? = some first) (kept : kind.keeps first = true) :
    mark first = true := by
  obtain ⟨spans, tiling, same, -⟩ := marks.exists_tiling found forward inside built
  obtain ⟨tile, listed, behind, -⟩ := tiling.exists_mem (Nat.le_refl _) opens
  have at_tile : tile.start = span.start := behind.antisymm (tiling.bounds listed).1
  have told := same tile listed
  rw [Grammar.opensAt, at_tile, isMarked_of_getElem? at_start, at_start, Option.any_some] at told
  rw [← told, kept]

end OpensAtMarks

end

/-! ## Rows with some text in a column -/

section

variable {κ : Type} {rows : List (RuleRow κ)}

/-- Whether the row at a position has some text in a column. -/
def hasText (column : κ) (rows : List (RuleRow κ)) (i : Nat) : Bool :=
  isMarked (fun row => row.cell column != "") rows i

/-- The positions of the rows with some text in a column. -/
def textRows (column : κ) (rows : List (RuleRow κ)) : List Nat :=
  (List.range rows.length).filter (hasText column rows)

theorem textRows_eq (column : κ) (rows : List (RuleRow κ)) :
    textRows column rows = (Span.mk 0 rows.length).rows.filter (hasText column rows) := by
  rw [textRows, List.range_eq_range']
  rfl

theorem mem_textRows {column : κ} {i : Nat} :
    i ∈ textRows column rows ↔ ∃ row, rows[i]? = some row ∧ row.cell column ≠ "" := by
  rw [textRows, List.mem_filter, List.mem_range, hasText, isMarked_eq_true_iff]
  simp only [bne_iff_ne]
  exact ⟨And.right, fun ⟨row, found, full⟩ =>
    ⟨(List.getElem?_eq_some_iff.mp found).1, row, found, full⟩⟩

/-- The rows of a sheet, each seen through the columns of the family. -/
theorem eq_map_of_ruleRows [RuleColumn κ] {sheet : Sheet} (read : sheet.ruleRows κ = .ok rows) :
    rows = sheet.rows.map (Sheet.ruleRow sheet.header) := by
  rw [Sheet.ruleRows, Except.bind_eq_ok_iff] at read
  obtain ⟨-, -, same⟩ := read
  exact (Except.ok.inj same).symm

/-- A blank row has no text in any column. -/
theorem cell_eq_empty_of_isBlank [RuleColumn κ] {sheet : Sheet}
    (read : sheet.ruleRows κ = .ok rows) {row : RuleRow κ} (listed : row ∈ rows)
    (blank : row.isBlank = true) (column : κ) : row.cell column = "" := by
  rw [eq_map_of_ruleRows read] at listed
  obtain ⟨stored, -, rfl⟩ := List.mem_map.mp listed
  simp only [Sheet.ruleRow, List.all_eq_true, beq_iff_eq] at blank ⊢
  split
  · next index found =>
    have inside : index < sheet.header.width :=
      (List.getElem?_eq_some_iff.mp (Header.indexOf?_eq_some_iff.mp found)).1
    cases at_index : stored.cells[index]? with
    | none => rw [Row.cell, at_index, Option.getD_none]
    | some cell =>
      have among : cell ∈ stored.cells.take sheet.header.width :=
        List.mem_of_getElem? (List.getElem?_take_of_lt inside ▸ at_index)
      rw [Row.cell, at_index, Option.getD_some, blank cell among]
  · rfl

/-- The rows of a component are those at the positions of its span. -/
theorem forall₂_parse_rows (kind : Grammar (RuleRow κ)) {tile : Span}
    (inside : tile.stop ≤ rows.length) :
    List.Forall₂ (fun i row => rows[i]? = some row) tile.rows (kind.parse rows tile).rows := by
  rw [parse_rows, List.forall₂_iff_get]
  refine ⟨?_, fun k in_tile in_rows => ?_⟩
  · rw [Span.length_rows, List.length_take, List.length_drop, Span.length]
    omega
  · simp only [List.get_eq_getElem, Span.rows, List.getElem_range', Nat.one_mul, List.getElem_take,
      List.getElem_drop]
    exact List.getElem?_eq_getElem _

variable [RuleColumn κ] {column : κ}

/-- The values that are read down a column, when it is known at which positions the rows stand. -/
theorem forall₂_of_columnList {own : List (RuleRow κ)} {positions : List Nat} {values : List String}
    (placed : List.Forall₂ (fun i row => rows[i]? = some row) positions own)
    (read : RuleRow.columnList column own = .ok values) :
    List.Forall₂ (fun i value => ∃ row, rows[i]? = some row ∧
        Constant.resolve (row.cell column) row.line = .ok value)
      (positions.filter (hasText column rows)) values := by
  induction placed generalizing values with
  | nil =>
    obtain rfl := Except.ok.inj read
    exact .nil
  | @cons i row positions own at_row placed ih =>
    have told : hasText column rows i = (row.cell column != "") := isMarked_of_getElem? at_row
    rw [RuleRow.columnList] at read
    split at read
    · next empty =>
      -- The list ends here, and nothing stands below it.
      have none_here : hasText column rows i = false := by rw [told, empty]; rfl
      split at read
      · cases read
      · next none_below =>
        obtain rfl := Except.ok.inj read
        rw [List.filter_cons_of_neg (by rw [none_here]; nofun)]
        suffices none_later : positions.filter (hasText column rows) = [] by
          rw [none_later]
          exact .nil
        refine List.filter_eq_nil_iff.mpr fun j listed => ?_
        obtain ⟨later, among, at_later⟩ := exists_of_mem_of_forall₂ placed listed
        rw [hasText, isMarked_of_getElem? at_later]
        simpa using List.find?_eq_none.mp none_below later among
    · next full =>
      rw [Except.bind_eq_ok_iff] at read
      obtain ⟨value, resolved, read⟩ := read
      rw [Except.bind_eq_ok_iff] at read
      obtain ⟨later, read_later, same⟩ := read
      obtain rfl := Except.ok.inj same
      rw [List.filter_cons_of_pos (by rw [told]; exact bne_iff_ne.mpr full)]
      exact .cons ⟨row, at_row, resolved⟩ (ih read_later)

/-- The values of a list in a component, with the rows of its span that have some text there. -/
theorem forall₂_columnList (kind : Grammar (RuleRow κ)) {tile : Span} {values : List String}
    (inside : tile.stop ≤ rows.length)
    (read : RuleRow.columnList column (kind.parse rows tile).rows = .ok values) :
    List.Forall₂ (fun i value => ∃ row, rows[i]? = some row ∧
        Constant.resolve (row.cell column) row.line = .ok value)
      (tile.rows.filter (hasText column rows)) values :=
  forall₂_of_columnList (forall₂_parse_rows kind inside) read

end

end PaymentRules
