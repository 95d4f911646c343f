/-!
# Lists in the order of their keys

An object whose members are held under text keys is kept as a list of pairs with ascending keys, so
that equal contents are equal lists. Keys ascend by their characters' code points.

## Main definitions

* `Keyed.insert` — puts a value under a key, in place of one that is there
* `Keyed.ofPairs` — the list of some pairs, of which the last one for each key counts
* `Keyed.Ascending` — the invariant; `ofPairs_eq_self` says that such a list is left alone
* `TextMap` — texts under text keys
-/

namespace PaymentRules

namespace Keyed

variable {α : Type}

/-- The list with a value under a key. -/
def insert (key : String) (value : α) : List (String × α) → List (String × α)
  | [] => [(key, value)]
  | (other, old) :: rest =>
    if key = other then (key, value) :: rest
    else if key < other then (key, value) :: (other, old) :: rest
    else (other, old) :: insert key value rest

/-- The keys ascend, so that none occurs twice. -/
def Ascending (pairs : List (String × α)) : Prop :=
  pairs.Pairwise fun a b => a.1 < b.1

/-- The list of some pairs in ascending order. The last pair for a key counts. -/
def ofPairs (pairs : List (String × α)) : List (String × α) :=
  pairs.foldl (fun kept pair => insert pair.1 pair.2 kept) []

theorem mem_insert {key : String} {value : α} {pairs : List (String × α)} {pair : String × α}
    (h : pair ∈ insert key value pairs) : pair = (key, value) ∨ pair ∈ pairs := by
  induction pairs with
  | nil => simpa [insert] using h
  | cons first rest ih =>
    obtain ⟨other, old⟩ := first
    unfold insert at h
    split at h
    · rcases List.mem_cons.1 h with h | h
      · exact .inl h
      · exact .inr (List.mem_cons_of_mem _ h)
    · split at h
      · rcases List.mem_cons.1 h with h | h
        · exact .inl h
        · exact .inr h
      · rcases List.mem_cons.1 h with h | h
        · exact .inr (h ▸ List.mem_cons_self)
        · exact (ih h).imp id (List.mem_cons_of_mem _)

theorem ascending_insert {key : String} {value : α} {pairs : List (String × α)}
    (h : Ascending pairs) : Ascending (insert key value pairs) := by
  induction pairs with
  | nil => simp [insert, Ascending]
  | cons first rest ih =>
    obtain ⟨other, old⟩ := first
    obtain ⟨above, rest_ascending⟩ := List.pairwise_cons.1 h
    unfold insert
    split
    · rename_i same
      exact List.pairwise_cons.2 ⟨fun pair mem => same ▸ above pair mem, rest_ascending⟩
    · split
      · rename_i lower
        refine List.pairwise_cons.2 ⟨fun pair mem => ?_, h⟩
        rcases List.mem_cons.1 mem with rfl | mem
        · exact lower
        · exact String.lt_trans lower (above pair mem)
      · rename_i distinct notLower
        refine List.pairwise_cons.2 ⟨fun pair mem => ?_, ih rest_ascending⟩
        rcases mem_insert mem with rfl | mem
        · exact Classical.byContradiction fun notHigher =>
            distinct (String.le_antisymm (String.not_lt.1 notHigher) (String.not_lt.1 notLower))
        · exact above pair mem

theorem ascending_foldl {pairs kept : List (String × α)} (h : Ascending kept) :
    Ascending (pairs.foldl (fun kept pair => insert pair.1 pair.2 kept) kept) := by
  induction pairs generalizing kept with
  | nil => exact h
  | cons pair pairs ih => exact ih (ascending_insert h)

theorem ascending_ofPairs (pairs : List (String × α)) : Ascending (ofPairs pairs) :=
  ascending_foldl List.Pairwise.nil

/-- A pair with a key above all others goes to the end. -/
theorem insert_of_above {key : String} {value : α} {pairs : List (String × α)}
    (h : ∀ pair ∈ pairs, pair.1 < key) : insert key value pairs = pairs ++ [(key, value)] := by
  induction pairs with
  | nil => rfl
  | cons first rest ih =>
    obtain ⟨other, old⟩ := first
    have above : other < key := h _ List.mem_cons_self
    have distinct : key ≠ other := fun e => String.lt_irrefl other (e ▸ above)
    have notLower : ¬ key < other := fun lower => String.lt_irrefl _ (String.lt_trans lower above)
    simp [insert, distinct, notLower, ih fun pair mem => h pair (List.mem_cons_of_mem _ mem)]

theorem foldl_insert_of_ascending {kept pairs : List (String × α)}
    (h : Ascending (kept ++ pairs)) :
    pairs.foldl (fun kept pair => insert pair.1 pair.2 kept) kept = kept ++ pairs := by
  induction pairs generalizing kept with
  | nil => simp
  | cons pair pairs ih =>
    have above : ∀ other ∈ kept, other.1 < pair.1 := fun other mem =>
      (List.pairwise_append.1 h).2.2 other mem pair List.mem_cons_self
    rw [List.foldl_cons, insert_of_above above, ih (by simpa using h)]
    simp

/-- A list that ascends already is left alone. -/
theorem ofPairs_eq_self {pairs : List (String × α)} (h : Ascending pairs) :
    ofPairs pairs = pairs := by
  have := foldl_insert_of_ascending (by simpa using h : Ascending ([] ++ pairs))
  simpa [ofPairs] using this

/-- Whatever holds of all pairs holds of those that are kept. -/
theorem forall_mem_ofPairs {p : String × α → Prop} {pairs : List (String × α)}
    (h : ∀ pair ∈ pairs, p pair) : ∀ pair ∈ ofPairs pairs, p pair := by
  suffices ∀ kept : List (String × α), (∀ pair ∈ kept, p pair) →
      ∀ pair ∈ pairs.foldl (fun kept pair => insert pair.1 pair.2 kept) kept, p pair from
    this [] (by simp)
  induction pairs with
  | nil => exact fun kept all => all
  | cons first pairs ih =>
    refine fun kept all => ih (fun pair mem => h pair (List.mem_cons_of_mem _ mem)) _ ?_
    intro pair mem
    rcases mem_insert mem with rfl | mem
    · exact h _ List.mem_cons_self
    · exact all pair mem

end Keyed

/-- Texts under text keys, with ascending keys. -/
structure TextMap where
  pairs : List (String × String)
  ascending : Keyed.Ascending pairs

namespace TextMap

@[ext] theorem ext {a b : TextMap} (h : a.pairs = b.pairs) : a = b := by
  cases a
  cases b
  simp_all

/-- The map of some pairs. The last pair for a key counts. -/
def ofPairs (pairs : List (String × String)) : TextMap :=
  ⟨Keyed.ofPairs pairs, Keyed.ascending_ofPairs pairs⟩

/-- The text under a key. -/
def get? (map : TextMap) (key : String) : Option String :=
  map.pairs.lookup key

/-- A map is the map of its own pairs. -/
theorem ofPairs_pairs (map : TextMap) : ofPairs map.pairs = map :=
  ext (Keyed.ofPairs_eq_self map.ascending)

end TextMap

end PaymentRules
