import PaymentRules.Proofs.Component.Lines

/-!
# Items that hold lines

A group stands on the line of its first row and holds the lines of its filters, and in the same way
a section holds those of its blocks and a block those of its entries. When such items are read from
the parts of a component, each from the rows of its own part, they are well nested: going down the
file one meets an item, then what it holds, and then the next item.

## Main definitions

* `Fits` — an item stands on the first one of some lines and holds some of them
* `IsLaidOut` — items fit into stretches of the lines, one behind the other
* `IsNested` — the lines of items and of what they hold increase together

## Main results

* `IsLaidOut.isNested` — items that are laid out in increasing lines are well nested
* `isLaidOut_of_mapM`, `isLaidOut_flatMap_of_mapM` — items that are read from parts are laid out in
  the rows, and so is what they are made of
* `filter_line_eq_singleton` — an item is known by its line
-/

namespace PaymentRules

section

variable {γ : Type} {line : γ → Nat} {held : γ → List Nat}

/-- The item stands on the first of the lines, and what it holds is on some of them. It holds
something. -/
structure Fits (line : γ → Nat) (held : γ → List Nat) (lines : List Nat) (item : γ) : Prop where
  head : lines.head? = some (line item)
  sublist : (held item).Sublist lines
  nonempty : held item ≠ []

/-- The items fit into separate stretches of the lines, in the same order. -/
def IsLaidOut (line : γ → Nat) (held : γ → List Nat) (lines : List Nat) (items : List γ) : Prop :=
  ∃ stretches : List (List Nat),
    List.Forall₂ (Fits line held) stretches items ∧ stretches.flatten.Sublist lines

/-- Each item holds something. Going down the file, the lines of the items increase and so do all
the lines that they hold; and what an item holds stands at or behind the item and in front of all
later ones. -/
structure IsNested (line : γ → Nat) (held : γ → List Nat) (items : List γ) : Prop where
  nonempty : ∀ item ∈ items, held item ≠ []
  increasing : (items.map line).Pairwise (· < ·)
  held_increasing : (items.flatMap held).Pairwise (· < ·)
  behind : ∀ item ∈ items, ∀ n ∈ held item, line item ≤ n
  before_later : items.Pairwise fun item later => ∀ n ∈ held item, n < line later

/-! ## Items in increasing lines -/

section

variable {lines : List Nat} {stretches : List (List Nat)} {item : γ} {items : List γ}

theorem Fits.line_mem (fits : Fits line held lines item) : line item ∈ lines :=
  List.mem_of_mem_head? fits.head

/-- The first of increasing lines is the least. -/
theorem Fits.line_le (fits : Fits line held lines item) (increasing : lines.Pairwise (· < ·))
    {n : Nat} (listed : n ∈ lines) : line item ≤ n := by
  obtain ⟨later, rfl⟩ := List.head?_eq_some_iff.mp fits.head
  rcases List.mem_cons.mp listed with rfl | behind
  · exact Nat.le_refl _
  · exact Nat.le_of_lt ((List.pairwise_cons.mp increasing).1 n behind)

theorem map_line_sublist_flatten (each : List.Forall₂ (Fits line held) stretches items) :
    (items.map line).Sublist stretches.flatten := by
  induction each with
  | nil => exact List.Sublist.slnil
  | cons fits _ ih => exact (List.singleton_sublist.mpr fits.line_mem).append ih

theorem flatMap_held_sublist_flatten (each : List.Forall₂ (Fits line held) stretches items) :
    (items.flatMap held).Sublist stretches.flatten := by
  induction each with
  | nil => exact List.Sublist.slnil
  | cons fits _ ih =>
    rw [List.flatMap_cons, List.flatten_cons]
    exact fits.sublist.append ih

/-- Items are well nested when the lines increase from each stretch to the next one. -/
theorem isNested_of_forall₂ (each : List.Forall₂ (Fits line held) stretches items)
    (increasing : stretches.flatten.Pairwise (· < ·)) : IsNested line held items := by
  -- The first stretch stands in front of the later ones, which have all lines of the later items.
  induction each with
  | nil => exact ⟨nofun, .nil, .nil, nofun, .nil⟩
  | @cons own item later items fits each ih =>
    have all_lines := map_line_sublist_flatten (.cons fits each)
    have all_held := flatMap_held_sublist_flatten (.cons fits each)
    have later_lines := (map_line_sublist_flatten each).subset
    obtain ⟨own_increasing, later_increasing, separate⟩ := List.pairwise_append.mp increasing
    have nested := ih later_increasing
    have behind : ∀ n ∈ held item, line item ≤ n := by
      intro n listed
      exact fits.line_le own_increasing (fits.sublist.subset listed)
    have before_later : ∀ next ∈ items, ∀ n ∈ held item, n < line next := by
      intro next among n listed
      have next_line : line next ∈ later.flatten := later_lines (List.mem_map_of_mem among)
      exact separate n (fits.sublist.subset listed) (line next) next_line
    exact {
      nonempty := List.forall_mem_cons.mpr ⟨fits.nonempty, nested.nonempty⟩
      increasing := increasing.sublist all_lines
      held_increasing := increasing.sublist all_held
      behind := List.forall_mem_cons.mpr ⟨behind, nested.behind⟩
      before_later := List.pairwise_cons.mpr ⟨before_later, nested.before_later⟩ }

theorem IsLaidOut.isNested (laid_out : IsLaidOut line held lines items)
    (increasing : lines.Pairwise (· < ·)) : IsNested line held items := by
  obtain ⟨stretches, each, among⟩ := laid_out
  exact isNested_of_forall₂ each (increasing.sublist among)

/-- No other item has the line of one, when the lines of the items increase. -/
theorem filter_line_eq_singleton (increasing : (items.map line).Pairwise (· < ·))
    (listed : item ∈ items) : (items.filter fun other => line other = line item) = [item] := by
  -- The lines in front of the item are less than its own, and those behind it are greater.
  obtain ⟨before, after, rfl⟩ := List.append_of_mem listed
  simp only [List.map_append, List.map_cons, List.pairwise_append, List.pairwise_cons,
    List.forall_mem_map, List.forall_mem_cons] at increasing
  obtain ⟨-, ⟨after_behind, -⟩, before_front⟩ := increasing
  have none_before : (before.filter fun other => line other = line item) = [] := by
    simpa using fun other among => Nat.ne_of_lt (before_front other among).1
  have none_after : (after.filter fun other => line other = line item) = [] := by
    simpa using fun other among => Nat.ne_of_gt (after_behind other among)
  rw [List.filter_append, List.filter_cons_of_pos (by simp), none_before, none_after,
    List.nil_append]

end

/-! ## Items that are read from parts -/

section

variable {lines more : List Nat} {items others : List γ}

theorem Fits.isLaidOut {item : γ} (fits : Fits line held lines item) :
    IsLaidOut line held lines [item] :=
  ⟨[lines], .cons fits .nil, by rw [List.flatten_singleton]⟩

theorem IsLaidOut.append (laid_out : IsLaidOut line held lines items)
    (behind : IsLaidOut line held more others) :
    IsLaidOut line held (lines ++ more) (items ++ others) := by
  obtain ⟨stretches, each, among⟩ := laid_out
  obtain ⟨stretches', each', among'⟩ := behind
  refine ⟨stretches ++ stretches', List.rel_append each each', ?_⟩
  rw [List.flatten_append]
  exact among.append among'

theorem IsLaidOut.mono (laid_out : IsLaidOut line held lines items) (within : lines.Sublist more) :
    IsLaidOut line held more items := by
  obtain ⟨stretches, each, among⟩ := laid_out
  exact ⟨stretches, each, among.trans within⟩

end

end

section

variable {κ β γ : Type} {line : γ → Nat} {held : γ → List Nat} {g : Grammar (RuleRow κ)}
  {start : Nat} {rows : List (RuleRow κ)} {name : String}
  {read : RuleRow κ × Component (RuleRow κ) → Except LoadError β} {items : List β}

/-- What the items are made of is laid out one behind the other. -/
theorem isLaidOut_flatMap_of_forall₂ {parts : List (RuleRow κ × Component (RuleRow κ))}
    {members : β → List γ}
    (each : List.Forall₂ (fun part item =>
        IsLaidOut line held (part.2.rows.map (·.line)) (members item)) parts items) :
    IsLaidOut line held ((parts.flatMap (·.2.rows)).map (·.line)) (items.flatMap members) := by
  induction each with
  | nil => exact ⟨[], .nil, .slnil⟩
  | cons laid_out _ ih =>
    rw [List.flatMap_cons, List.flatMap_cons, List.map_append]
    exact laid_out.append ih

/-- What the items are made of is laid out in the rows, if that of each item is in its own rows. -/
theorem isLaidOut_flatMap_of_mapM {members : β → List γ}
    (each : ∀ first kind position own item, own.head? = some first →
      read (first, Grammar.parseAt kind position own) = .ok item →
      IsLaidOut line held (own.map (·.line)) (members item))
    (built : ((g.parseAt start rows).anchored name).mapM read = .ok items) :
    IsLaidOut line held (rows.map (·.line)) (items.flatMap members) := by
  refine (isLaidOut_flatMap_of_forall₂ ((forall₂_of_mapM_anchored built).imp ?_)).mono
    ((rows_anchored_sublist g start rows name).map (·.line))
  rintro ⟨first, part⟩ item ⟨head, kind, position, read_item⟩
  exact each first kind position part.rows item head read_item

/-- The items are laid out in the rows, if each fits into its own. -/
theorem isLaidOut_of_mapM {line : β → Nat} {held : β → List Nat}
    (each : ∀ first kind position own item, own.head? = some first →
      read (first, Grammar.parseAt kind position own) = .ok item →
      Fits line held (own.map (·.line)) item)
    (built : ((g.parseAt start rows).anchored name).mapM read = .ok items) :
    IsLaidOut line held (rows.map (·.line)) items := by
  have singly : IsLaidOut line held (rows.map (·.line)) (items.flatMap fun item => [item]) :=
    isLaidOut_flatMap_of_mapM (fun first kind position own item head read_item =>
      (each first kind position own item head read_item).isLaidOut) built
  rwa [List.flatMap_singleton'] at singly

end

end PaymentRules
