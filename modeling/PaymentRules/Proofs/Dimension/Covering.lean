import Mathlib.Algebra.Order.BigOperators.Group.List
import Mathlib.Algebra.Order.Group.Nat
import Mathlib.Logic.Function.Basic
import PaymentRules.Proofs.Dimension.Inclusion

/-!
# Covering is inclusion

The judgement from the lists of two dimensions is not only right but complete: where a dimension
does not cover another one there is a value that the other one accepts and it does not. A list that
is too short shows it by one of its members or of those of the other list, and where an exclusion
would have to be covered by a list, a value on neither of them shows it.

Rules constrain several properties at once. Every dimension accepts something, so that a difference
in one property can be seen in the rules as a whole.

## Main results

* `Dimension.covers_iff` — a dimension covers another one when it accepts whatever that one accepts
* `Dimension.covers_all_iff` — the same for dimensions side by side
* `Dimension.covering_is_inclusion` — covering as a preorder, and when it goes both ways
-/

namespace PaymentRules.Dimension

theorem length_fold (text : String) : (Text.fold text).length = text.length := by
  rw [Text.fold, String.length_ofList, List.length_map, String.length_toList]

/-- For every list there is a value that is not on it. -/
theorem exists_not_listed (values : List String) : ∃ value, listed values value = false := by
  -- A value that is longer than all members together has the letters of none of them.
  refine ⟨String.ofList (List.replicate ((values.map String.length).sum + 1) 'a'), ?_⟩
  refine Bool.eq_false_iff.mpr fun found => ?_
  obtain ⟨member, among, same⟩ := List.any_eq_true.mp found
  have same_length := congrArg String.length (Text.sameLetters_iff.mp same)
  have bound : member.length ≤ (values.map String.length).sum :=
    List.single_le_sum (fun _ _ => Nat.zero_le _) _ (List.mem_map_of_mem among)
  simp only [length_fold, String.length_ofList, List.length_replicate] at same_length
  omega

theorem listed_of_mem {values : List String} {value : String} (among : value ∈ values) :
    listed values value = true :=
  List.any_eq_true.mpr ⟨value, among, Text.sameLetters_refl value⟩

theorem listed_append (values more : List String) (value : String) :
    listed (values ++ more) value = (listed values value || listed more value) :=
  List.any_append

/-- No dimension rejects everything. -/
theorem exists_accepts (d : Dimension) : ∃ value : String, d.accepts (some value) = true := by
  cases d with
  | any => exact ⟨"", rfl⟩
  | oneOf values nonempty => exact ⟨values.head nonempty, listed_of_mem (List.head_mem nonempty)⟩
  | noneOf values nonempty =>
    obtain ⟨value, off⟩ := exists_not_listed values
    exact ⟨value, by simp [accepts, off]⟩

/-- A dimension that accepts every value that another one accepts covers it, already when only
values that are not missing are looked at. -/
theorem covers_of_accepts {self other : Dimension}
    (included : ∀ value : String, other.accepts (some value) = true →
      self.accepts (some value) = true) : self.covers other = true := by
  cases self with
  | any => rfl
  | oneOf mine mine_nonempty =>
    cases other with
    | any =>
      obtain ⟨value, off⟩ := exists_not_listed mine
      have on : listed mine value = true := included value rfl
      rw [off] at on
      cases on
    | oneOf theirs =>
      exact List.all_eq_true.mpr fun value among => included value (listed_of_mem among)
    | noneOf theirs =>
      obtain ⟨value, off⟩ := exists_not_listed (mine ++ theirs)
      rw [listed_append, Bool.or_eq_false_iff] at off
      have on : listed mine value = true := included value (by simp [accepts, off.2])
      rw [off.1] at on
      cases on
  | noneOf mine mine_nonempty =>
    cases other with
    | any =>
      have on := listed_of_mem (List.head_mem mine_nonempty)
      have off := included (mine.head mine_nonempty) rfl
      rw [accepts, on] at off
      cases off
    | oneOf theirs =>
      exact List.all_eq_true.mpr fun value among => included value (listed_of_mem among)
    | noneOf theirs =>
      refine List.all_eq_true.mpr fun value among => ?_
      -- An excluded value that the other dimension lets through would be accepted here, too.
      by_contra through
      have off := included value (by simpa [accepts] using through)
      rw [accepts, listed_of_mem among] at off
      cases off

/-- Whether a dimension covers another one decides whether it accepts whatever that one accepts. -/
theorem covers_iff {self other : Dimension} :
    self.covers other = true ↔
      ∀ value, other.accepts value = true → self.accepts value = true :=
  ⟨fun covered _ => accepts_of_covers covered, fun included => covers_of_accepts fun value =>
    included (some value)⟩

/-- Dimensions that stand side by side cover others, each the one in its place, when they accept all
values side by side that the others accept. -/
theorem covers_all_iff {n : Nat} (self other : Fin n → Dimension) :
    (∀ i, (self i).covers (other i) = true) ↔
      ∀ values : Fin n → String, (∀ i, (other i).accepts (some (values i)) = true) →
        ∀ i, (self i).accepts (some (values i)) = true := by
  constructor
  · exact fun covered values accepted i => accepts_of_covers (covered i) (accepted i)
  · intro included i
    choose base base_accepted using fun i => exists_accepts (other i)
    refine covers_of_accepts fun value accepted => ?_
    -- The value is tried in its place, among values that the other dimensions accept.
    have tried := included (Function.update base i value) (fun j => ?_) i
    · rwa [Function.update_self] at tried
    · by_cases here : j = i
      · subst here
        rwa [Function.update_self]
      · rw [Function.update_of_ne here]
        exact base_accepted j

/-- Every dimension is made from some list. -/
theorem exists_ofValues_eq (d : Dimension) : ∃ values allowed, ofValues values allowed = d := by
  cases d with
  | any => exact ⟨[], true, rfl⟩
  | oneOf values nonempty => exact ⟨values, true, dif_neg nonempty⟩
  | noneOf values nonempty => exact ⟨values, false, dif_neg nonempty⟩

/-- For all dimensions that there are, to cover is to accept whatever the other one accepts, a
missing value included. So every dimension covers itself, one that covers a second covers what the
second covers, and two dimensions cover each other exactly when they accept the same values. -/
theorem covering_is_inclusion :
    (∀ d : Dimension, ∃ values allowed, ofValues values allowed = d) ∧
    (∀ self other : Dimension, self.covers other = true ↔
      ∀ value, other.accepts value = true → self.accepts value = true) ∧
    (∀ d : Dimension, d.covers d = true) ∧
    (∀ one two three : Dimension, one.covers two = true → two.covers three = true →
      one.covers three = true) ∧
    ∀ one other : Dimension, one.covers other = true ∧ other.covers one = true ↔
      ∀ value, one.accepts value = other.accepts value := by
  refine ⟨exists_ofValues_eq, fun self other => covers_iff, ?_, ?_, ?_⟩
  · intro d
    rw [covers_iff]
    exact fun value accepted => accepted
  · intro one two three first second
    rw [covers_iff] at first second ⊢
    exact fun value accepted => first value (second value accepted)
  · intro one other
    rw [covers_iff, covers_iff]
    constructor
    · rintro ⟨covered, covers⟩ value
      rw [Bool.eq_iff_iff]
      exact ⟨covers value, covered value⟩
    · intro same
      exact ⟨fun value accepted => (same value).trans accepted,
        fun value accepted => (same value).symm.trans accepted⟩

end PaymentRules.Dimension
