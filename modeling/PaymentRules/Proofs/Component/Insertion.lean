import PaymentRules.Proofs.Component.Headed
import PaymentRules.Proofs.Component.Joining

/-!
# A row put between others

A row that continues every tile and opens none worth keeping is taken in by the tile that is open
where it is put. One tile gets longer by that row and all others stay as they are. When the row is
put in front of all others, then the tile that it opens is passed over, together with the rows that
go on with it; these have been passed over without it, too.

## Main definitions

* `Lengthened` — a tile, and the same tile with the row in it
* `IsAbsorbed` — the row continues every tile of a kind and opens none worth keeping

## Main results

* `IsAbsorbed.forall₂_headedTiles` — the tiles without and with the row, one by one
* `IsAbsorbed.mapM_anchored_insert` — a reading that does not mind the row in a tile reads the same
* `anchored_concat` — a row that opens a tile of its own behind all others, not worth keeping
-/

namespace PaymentRules

variable {α β ε : Type} {continues : α → Bool} {row : α} {other : List α}

/-- A tile gets longer by a row, if at all. Behind the row the tile goes on, if it does, with the
row in front of which it was put. -/
def Lengthened (continues : α → Bool) (row : α) (other tile longer : List α) : Prop :=
  longer = tile ∨ ∃ front back, tile = front ++ back ∧ longer = front ++ row :: back ∧
    ∀ next ∈ back.head?, next ∈ other.head? ∧ continues next = true

theorem Lengthened.cons {tile longer : List α} (first : α)
    (grown : Lengthened continues row other tile longer) :
    Lengthened continues row other (first :: tile) (first :: longer) := by
  obtain rfl | ⟨front, back, rfl, rfl, at_seam⟩ := grown
  · exact .inl rfl
  · exact .inr ⟨first :: front, back, rfl, rfl, at_seam⟩

/-! ## Tiles -/

/-- Where the condition does not look at positions, the position of the open tile does not
matter. -/
theorem cutTiles_position (position another : Nat) (rows : List α) :
    cutTiles (fun row _ => continues row) position rows =
      cutTiles (fun row _ => continues row) another rows := by
  induction rows generalizing position another with
  | nil => rfl
  | cons first rows ih =>
    by_cases h : continues first = true
    · simp [cutTiles, h, ih (position + 1) (another + 1)]
    · simp [cutTiles, h]

/-- The open tile goes on with the first row, when it goes on at all. -/
theorem head?_cutTiles {position : Nat} {rows : List α} {next : α}
    (at_head : next ∈ (cutTiles (fun row _ => continues row) position rows).1.head?) :
    next ∈ rows.head? ∧ continues next = true := by
  cases rows with
  | nil => cases at_head
  | cons first rows =>
    by_cases h : continues first = true
    · have same : first = next := by simpa [cutTiles, h] using at_head
      exact ⟨congrArg some same, same ▸ h⟩
    · simp [cutTiles, h] at at_head

/-- The row goes into the open tile or into one behind it, but not in front of its first row. -/
theorem cutTiles_insert (absorbed : continues row = true) (position : Nat) (one other : List α) :
    Lengthened continues row other
        (cutTiles (fun row _ => continues row) position (one ++ other)).1
        (cutTiles (fun row _ => continues row) position (one ++ row :: other)).1 ∧
      List.Forall₂ (fun tile longer => tile.head? = longer.head? ∧
          Lengthened continues row other tile longer)
        (cutTiles (fun row _ => continues row) position (one ++ other)).2
        (cutTiles (fun row _ => continues row) position (one ++ row :: other)).2 := by
  induction one generalizing position with
  | nil =>
    simp only [List.nil_append, cutTiles, absorbed, if_true]
    rw [cutTiles_position (position + 1) position]
    refine ⟨.inr ⟨[], _, rfl, rfl, fun next at_head => head?_cutTiles at_head⟩, ?_⟩
    exact List.forall₂_same.mpr fun tile _ => ⟨rfl, .inl rfl⟩
  | cons first one ih =>
    by_cases h : continues first = true
    · obtain ⟨opened, later⟩ := ih (position + 1)
      have both := And.intro (opened.cons first) later
      simpa [cutTiles, h] using both
    · obtain ⟨opened, later⟩ := ih 1
      simp only [List.cons_append, cutTiles, h]
      exact ⟨.inl rfl, .cons ⟨rfl, opened.cons first⟩ later⟩

/-- A tile and its longer form are kept or passed over together. -/
theorem forall₂_filterMap_headed? {kind : Grammar α} {cut longer : List (List α)}
    (each : List.Forall₂ (fun tile longer => tile.head? = longer.head? ∧
      Lengthened continues row other tile longer) cut longer) :
    List.Forall₂ (fun tile longer => tile.1 = longer.1 ∧
        Lengthened continues row other tile.2 longer.2)
      (cut.filterMap kind.headed?) (longer.filterMap kind.headed?) := by
  induction each with
  | nil => exact .nil
  | @cons tile longer _ _ grown _ ih =>
    obtain ⟨same_head, grown⟩ := grown
    cases opens : tile.head?.filter kind.keeps with
    | none => simpa [List.filterMap_cons, Grammar.headed?, ← same_head, opens] using ih
    | some first =>
      have both := List.Forall₂.cons (R := fun tile longer => tile.1 = longer.1 ∧
        Lengthened continues row other tile.2 longer.2) (a := (first, tile)) (b := (first, longer))
        ⟨rfl, grown⟩ ih
      simpa only [List.filterMap_cons, Grammar.headed?, ← same_head, opens, Option.map_some]
        using both

/-! ## A row that is absorbed -/

/-- The row continues every tile of a kind, and a tile that it opens is not worth keeping. The kind
does not look at positions. -/
structure IsAbsorbed (kind : Grammar α) (continues : α → Bool) (row : α) : Prop where
  condition : kind.continues = fun row _ => continues row
  absorbed : continues row = true
  refused : kind.keeps row = false

namespace IsAbsorbed

variable {kind : Grammar α} (absorbed : IsAbsorbed kind continues row)

include absorbed

/-- The tiles are the same, each behind its first row, but one may get longer by the row. -/
theorem forall₂_headedTiles
    (passed_over : ∀ next ∈ other.head?, continues next = true → kind.keeps next = false)
    (one : List α) :
    List.Forall₂ (fun tile longer => tile.1 = longer.1 ∧
        Lengthened continues row other tile.2 longer.2)
      (kind.headedTiles (one ++ other)) (kind.headedTiles (one ++ row :: other)) := by
  have unchanged : ∀ cut : List (List α), List.Forall₂ (fun tile longer => tile.1 = longer.1 ∧
      Lengthened continues row other tile.2 longer.2)
      (cut.filterMap kind.headed?) (cut.filterMap kind.headed?) :=
    fun cut => List.forall₂_same.mpr fun tile _ => ⟨rfl, .inl rfl⟩
  rw [Grammar.headedTiles, Grammar.headedTiles, absorbed.condition]
  cases one with
  | nil =>
    -- The row opens the first tile, and what goes on with it opened a tile not worth keeping.
    rw [List.nil_append, List.nil_append, tiles, List.filterMap_cons_none
      (by rw [Grammar.headed?_cons, absorbed.refused]; rfl)]
    cases other with
    | nil => exact .nil
    | cons next other =>
      by_cases h : continues next = true
      · rw [tiles, List.filterMap_cons_none
          (by rw [Grammar.headed?_cons, passed_over next rfl h]; rfl)]
        simp only [cutTiles, h, if_true]
        rw [cutTiles_position (1 + 1) 1]
        exact unchanged _
      · simp only [cutTiles, h]
        exact unchanged _
  | cons first one =>
    obtain ⟨opened, later⟩ := cutTiles_insert absorbed.absorbed 1 one other
    exact forall₂_filterMap_headed? (.cons ⟨rfl, opened.cons first⟩ later)

variable {g : Grammar α} {name : String} {read : α × Component α → Except ε β}
  (found : (g.parts.find? fun kind => name == kind.name) = some kind)
  (placeless : ∀ first part n, read (first, part.shift n) = read (first, part))

include found placeless

/-- A reading that does not mind the row in a tile reads the same with it. -/
theorem mapM_anchored_insert
    (passed_over : ∀ next ∈ other.head?, continues next = true → kind.keeps next = false)
    (neutral : ∀ first front back,
      (∀ next ∈ back.head?, next ∈ other.head? ∧ continues next = true) →
      read (first, kind.parseAt 0 (front ++ row :: back)) =
        read (first, kind.parseAt 0 (front ++ back)))
    (start : Nat) (one : List α) :
    ((g.parseAt start (one ++ row :: other)).anchored name).mapM read =
      ((g.parseAt start (one ++ other)).anchored name).mapM read := by
  rw [mapM_anchored found placeless, mapM_anchored found placeless]
  have grown := absorbed.forall₂_headedTiles passed_over one
  refine (mapM_congr_of_forall₂ (grown.imp ?_)).symm
  rintro ⟨first, tile⟩ ⟨same, longer⟩ ⟨same_first, lengthened⟩
  obtain rfl : first = same := same_first
  obtain same_tile | ⟨front, back, rfl, rfl, at_seam⟩ := lengthened
  · exact congrArg (fun rows => read (first, kind.parseAt 0 rows)) same_tile.symm
  · exact (neutral first front back at_seam).symm

/-- In front of a row that goes on with no tile, the row can only stand at the end of one. -/
theorem mapM_anchored_insert_of_opens (opens : ∀ next ∈ other.head?, continues next = false)
    (neutral : ∀ first rows, read (first, kind.parseAt 0 (rows ++ [row])) =
      read (first, kind.parseAt 0 rows))
    (start : Nat) (one : List α) :
    ((g.parseAt start (one ++ row :: other)).anchored name).mapM read =
      ((g.parseAt start (one ++ other)).anchored name).mapM read := by
  refine absorbed.mapM_anchored_insert found placeless ?_ (fun first front back at_seam => ?_)
    start one
  · intro next at_head goes_on
    rw [opens next at_head] at goes_on
    cases goes_on
  · cases back with
    | nil => rw [List.append_nil, neutral]
    | cons next back =>
      obtain ⟨at_head, goes_on⟩ := at_seam next rfl
      rw [opens next at_head] at goes_on
      cases goes_on

end IsAbsorbed

/-- A row that opens a tile of its own behind all others, not worth keeping, makes no part. -/
theorem anchored_concat {g kind : Grammar α} {name : String}
    (found : (g.parts.find? fun kind => name == kind.name) = some kind)
    (opens : ∀ position, kind.continues row position = false) (refused : kind.keeps row = false)
    (start : Nat) (rows : List α) :
    (g.parseAt start (rows ++ [row])).anchored name = (g.parseAt start rows).anchored name := by
  have none_found : (g.parseAt (start + rows.length) [row]).anchored name = [] := by
    rw [anchored_parseAt found]
    simp [tiles, cutTiles, placeTiles, Grammar.headed?_cons, refused]
  rw [anchored_append start found (by simpa using opens), none_found, List.append_nil]

end PaymentRules
