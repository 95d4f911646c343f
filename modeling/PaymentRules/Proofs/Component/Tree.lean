import Mathlib.Data.List.Forall2
import PaymentRules.Proofs.Component.Walk

/-!
# The tree of components

A component is made by cutting its rows once for each kind of part: the tiles with a genuine first
row become the parts of that kind, and each of them is cut in the same way. Hence what is found at
one node of the tree says what is found at all of them. The parts of a kind are not empty, lie in
their component, stand in their order and do not overlap; the rows that belong to no part are those
of the tiles that were passed over.

## Main definitions

* `Node` — the components in a tree, each with its kind
* `Finds` — what is found of a kind in a span of rows

## Main results

* `parse_finds` — every node of the tree finds the tiles of its own span
-/

namespace PaymentRules

variable {α : Type}

/-- A component of the tree below `component`, which is of the kind `root`, with its own kind. -/
inductive Node (root : Grammar α) (component : Component α) : Grammar α → Component α → Prop
  | root : Node root component root component
  | part {kind sub : Grammar α} {parent child : Component α} {n : Nat}
      {found : String × List (Component α)} (node : Node root component kind parent)
      (declared : kind.parts[n]? = some sub) (at_place : parent.parts[n]? = some found)
      (listed : child ∈ found.2) : Node root component sub child

/-- What is found of a kind in a span of rows. -/
structure Finds (rows : List α) (kind : Grammar α) (span : Span) (found : List (Component α)) :
    Prop where
  /-- The rows are cut into tiles. The parts are the tiles with a genuine first row, each made from
  its own tile. A row that is in no part is in a tile that was passed over. -/
  tiled : ∃ spans, Tiling kind.continues rows span.stop span.start spans ∧
    found.map (·.span) = spans.filter (kind.opensAt rows) ∧
    found = (spans.filter (kind.opensAt rows)).map (kind.parse rows) ∧
    ∀ row, (row ∈ span.rows ∧ ∀ part ∈ found, row ∉ part.span.rows) ↔
      ∃ tile ∈ spans, kind.opensAt rows tile = false ∧ row ∈ tile.rows
  nonempty : ∀ part ∈ found, part.span.start < part.span.stop
  inside : ∀ part ∈ found, span.start ≤ part.span.start ∧ part.span.stop ≤ span.stop
  ordered : found.Pairwise fun one other => one.span.stop ≤ other.span.start

/-! ## One component -/

section

variable {rows : List α}

@[simp] theorem start_parse (g : Grammar α) (rows : List α) (span : Span) :
    (g.parse rows span).start = span.start := by
  cases g
  rw [Grammar.parse]

/-- The rows of a span of rows. -/
theorem parse_rows (g : Grammar α) (rows : List α) (span : Span) :
    (g.parse rows span).rows = (rows.drop span.start).take span.length := by
  cases g
  rw [Grammar.parse]
  exact extract_min rows span.start span.stop

/-- The end of a span is moved into the rows, but not before its start. -/
theorem parse_span (g : Grammar α) (rows : List α) (span : Span) :
    (g.parse rows span).span = ⟨span.start, max span.start (min span.stop rows.length)⟩ := by
  rw [Component.span, parse_rows, start_parse, Span.mk.injEq]
  refine ⟨rfl, ?_⟩
  rw [List.length_take, List.length_drop, Span.length]
  omega

/-- The tiles of a span that are components of a kind. -/
def Grammar.keptSpans (kind : Grammar α) (rows : List α) (span : Span) : List Span :=
  (scan kind.continues rows (min span.stop rows.length) span.start).filter (kind.opensAt rows)

/-- The parts of each kind are parsed from its tiles. -/
theorem parts_parse (g : Grammar α) (rows : List α) (span : Span) :
    (g.parse rows span).parts =
      g.parts.map fun kind => (kind.name, (kind.keptSpans rows span).map (kind.parse rows)) := by
  have each (kinds : List (Grammar α)) :
      Grammar.findParts kinds rows (min span.stop rows.length) span.start =
        kinds.map fun kind => (kind.name, (kind.keptSpans rows span).map (kind.parse rows)) := by
    induction kinds with
    | nil => rfl
    | cons kind later ih =>
      rw [Grammar.findParts, ih]
      rfl
  cases g
  rw [Grammar.parse]
  exact each _

/-- A span that is not empty and lies in the rows is the span of its component. -/
theorem span_parse_of_inside (g : Grammar α) {tile : Span} (nonempty : tile.start < tile.stop)
    (inside : tile.stop ≤ rows.length) : (g.parse rows tile).span = tile := by
  rw [parse_span]
  have stop_eq : max tile.start (min tile.stop rows.length) = tile.stop := by omega
  rw [stop_eq]

/-- What a kind finds in a span of rows. -/
theorem finds_keptSpans (kind : Grammar α) (rows : List α) (span : Span) :
    Finds rows kind ⟨span.start, max span.start (min span.stop rows.length)⟩
      ((kind.keptSpans rows span).map (kind.parse rows)) := by
  have tiling := tiling_scan kind.continues (Nat.min_le_right span.stop rows.length) span.start
  rw [Grammar.keptSpans]
  generalize scan kind.continues rows (min span.stop rows.length) span.start = spans at tiling
  have span_eq : ∀ tile ∈ spans, (kind.parse rows tile).span = tile := by
    intro tile listed
    have bounds := tiling.bounds listed
    exact span_parse_of_inside kind bounds.2.1 (by omega)
  -- Every part is a tile of the tiling, and knows its own span.
  have tile_of_part : ∀ part ∈ (spans.filter (kind.opensAt rows)).map (kind.parse rows),
      part.span ∈ spans ∧ kind.opensAt rows part.span = true := by
    intro part listed
    obtain ⟨tile, kept, rfl⟩ := List.mem_map.mp listed
    obtain ⟨among, opens⟩ := List.mem_filter.mp kept
    rw [span_eq tile among]
    exact ⟨among, opens⟩
  have all_spans : ((spans.filter (kind.opensAt rows)).map (kind.parse rows)).map (·.span) =
      spans.filter (kind.opensAt rows) := by
    rw [List.map_map]
    refine (List.map_congr_left fun tile kept => ?_).trans (List.map_id _)
    exact span_eq tile (List.mem_filter.mp kept).1
  refine ⟨⟨spans, tiling, all_spans, rfl, fun row => ?_⟩, ?_, ?_, ?_⟩
  · simp only [Span.mem_rows]
    constructor
    · rintro ⟨inside, in_none⟩
      obtain ⟨tile, listed, in_tile⟩ := tiling.exists_mem inside.1 inside.2
      refine ⟨tile, listed, Bool.eq_false_iff.mpr fun opens => ?_, in_tile⟩
      have kept := List.mem_map_of_mem (f := kind.parse rows)
        (List.mem_filter.mpr ⟨listed, opens⟩)
      exact in_none _ kept (by rwa [span_eq tile listed])
    · rintro ⟨tile, listed, passed_over, in_tile⟩
      have bounds := tiling.bounds listed
      refine ⟨by omega, fun part found in_part => ?_⟩
      obtain ⟨among, opens⟩ := tile_of_part part found
      rw [tiling.eq_of_mem among listed in_part in_tile, passed_over] at opens
      cases opens
  · intro part listed
    exact (tiling.bounds (tile_of_part part listed).1).2.1
  · intro part listed
    have bounds := tiling.bounds (tile_of_part part listed).1
    exact ⟨bounds.1, bounds.2.2⟩
  · have in_order := tiling.ordered.filter (kind.opensAt rows)
    rwa [← all_spans, List.pairwise_map] at in_order

/-- A component is made of what each kind finds in its span, in the order of the kinds. -/
theorem finds_parse (g : Grammar α) (rows : List α) (span : Span) :
    List.Forall₂ (fun kind found =>
      found.1 = kind.name ∧ Finds rows kind (g.parse rows span).span found.2)
      g.parts (g.parse rows span).parts := by
  rw [parts_parse, parse_span, List.forall₂_map_right_iff]
  exact List.forall₂_same.mpr fun kind _ => ⟨rfl, finds_keptSpans kind rows span⟩

end

/-! ## The whole tree -/

/-- Every component of a tree is parsed from a span of its own, by its own kind. -/
theorem Node.exists_eq_parse {g h : Grammar α} {rows : List α} {span : Span} {d : Component α}
    (node : Node g (g.parse rows span) h d) : ∃ own : Span, d = h.parse rows own := by
  -- Below a parsed component a kind and its parts stand at the same place of their lists.
  induction node with
  | root => exact ⟨span, rfl⟩
  | @part kind sub parent child n found node declared at_place listed ih =>
    obtain ⟨own, rfl⟩ := ih
    obtain ⟨in_kinds, rfl⟩ := List.getElem?_eq_some_iff.mp declared
    obtain ⟨in_parts, rfl⟩ := List.getElem?_eq_some_iff.mp at_place
    obtain ⟨-, finds⟩ := (List.forall₂_iff_get.mp (finds_parse kind rows own)).2 n in_kinds in_parts
    obtain ⟨spans, -, -, parsed, -⟩ := finds.tiled
    rw [List.get_eq_getElem] at parsed
    rw [parsed] at listed
    obtain ⟨tile, -, rfl⟩ := List.mem_map.mp listed
    exact ⟨tile, rfl⟩

/-- What of a span lies outside the rows makes no difference. -/
theorem parse_span_self (g : Grammar α) (rows : List α) (span : Span) :
    g.parse rows (g.parse rows span).span = g.parse rows span := by
  have same_rows : rows.extract span.start (max span.start (min span.stop rows.length)) =
      rows.extract span.start span.stop := by
    rw [List.extract, List.extract, List.take_eq_take_iff, List.length_drop]
    omega
  rw [parse_span, parse_eq_parseAt, parse_eq_parseAt, same_rows]

/-- Every node of the tree of a span of rows finds, for each kind of part in the order of the
grammar, the tiles of its own span. -/
theorem parse_finds (g : Grammar α) (rows : List α) (span : Span) :
    (g.parse rows span).span = ⟨span.start, max span.start (min span.stop rows.length)⟩ ∧
      ∀ h d, Node g (g.parse rows span) h d →
        d = h.parse rows d.span ∧
        d.rows = (rows.drop d.span.start).take d.span.length ∧
        (∀ row ∈ d.span.rows, row < rows.length) ∧
        List.Forall₂ (fun kind found => found.1 = kind.name ∧ Finds rows kind d.span found.2)
          h.parts d.parts := by
  refine ⟨parse_span g rows span, fun h d node => ?_⟩
  obtain ⟨own, rfl⟩ := node.exists_eq_parse
  refine ⟨(parse_span_self h rows own).symm, ?_, ?_, finds_parse h rows own⟩
  · -- Its own span is the part of the given one that lies in the rows.
    rw [← parse_rows, parse_span_self]
  · intro row inside
    rw [Span.mem_rows, parse_span] at inside
    simp only at inside
    omega

end PaymentRules
