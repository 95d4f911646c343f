import PaymentRules.RuleRow
import PaymentRules.Proofs.Dimension.Covering
import PaymentRules.Proofs.Except

/-!
# Dimensions without empty values

No dimension that is read from a sheet lists an empty value: blank pieces of a cell are left out, a
list ends at the first empty cell, and no constant stands for an empty value. To such a dimension a
missing value and an empty one are the same.

## Main definitions

* `Dimension.IsProper` — no empty value is listed

## Main results

* `Dimension.accepts_getD` — a missing value is accepted when an empty one is
* `RuleRow.isProper_of_dimension`, `RuleRow.isProper_of_columnList` — what is read is proper
-/

namespace PaymentRules

/-- The dimension lists no empty value. -/
def Dimension.IsProper : Dimension → Prop
  | .any => True
  | .oneOf values _ => "" ∉ values
  | .noneOf values _ => "" ∉ values

namespace Dimension

/-- Only an empty text has the letters of an empty one. -/
theorem listed_empty_iff {values : List String} : listed values "" = true ↔ "" ∈ values := by
  refine ⟨fun found => ?_, listed_of_mem⟩
  obtain ⟨member, among, same⟩ := List.any_eq_true.mp found
  -- Folding letters keeps the length.
  have same_length := congrArg String.length (Text.sameLetters_iff.mp same)
  rw [length_fold, length_fold, String.length_empty] at same_length
  rwa [String.length_eq_zero_iff.mp same_length] at among

/-- A missing value is as good as an empty one. -/
theorem accepts_getD {d : Dimension} (proper : d.IsProper) (value : Option String) :
    d.accepts (some (value.getD "")) = d.accepts value := by
  cases value with
  | some value => rfl
  | none =>
    cases d with
    | any => rfl
    | oneOf values _ => exact Bool.eq_false_iff.mpr (mt listed_empty_iff.mp proper)
    | noneOf values _ =>
      have unlisted : listed values "" = false :=
        Bool.eq_false_iff.mpr (mt listed_empty_iff.mp proper)
      simp [accepts, unlisted]

theorem isProper_ofValues {values : List String} (full : "" ∉ values) (allowed : Bool) :
    (ofValues values allowed).IsProper := by
  rw [ofValues]
  split
  · trivial
  · cases allowed <;> exact full

end Dimension

/-! ## Reading -/

/-- No constant stands for an empty value. -/
theorem Constant.ne_empty_of_lookup? {cls field value : String}
    (found : lookup? cls field = some value) : value ≠ "" := by
  have full : ∀ fields ∈ classes, ∀ field ∈ fields.2, field.2 ≠ "" := by decide +kernel
  obtain ⟨fields, in_class, at_field⟩ := Option.bind_eq_some_iff.mp found
  obtain ⟨_, _, all_classes, -⟩ := List.lookup_eq_some_iff.mp in_class
  obtain ⟨_, _, all_fields, -⟩ := List.lookup_eq_some_iff.mp at_field
  exact full (cls, fields) (by simp [all_classes]) (field, value) (by simp [all_fields])

/-- A cell with some text stands for a value with some text. -/
theorem Constant.ne_empty_of_resolve {cell value : String} {line : Nat} (full : cell ≠ "")
    (read : resolve cell line = .ok value) : value ≠ "" := by
  rw [resolve] at read
  split at read
  · exact Except.ok.inj read ▸ full
  · split at read
    · next found => exact Except.ok.inj read ▸ ne_empty_of_lookup? found
    · cases read

theorem Dimension.isProper_of_parse {cell : String} {line : Nat} {d : Dimension}
    (read : parse cell line = .ok d) : d.IsProper := by
  rw [parse] at read
  split at read
  · obtain rfl := Except.ok.inj read
    trivial
  · simp only at read
    split at read
    · cases read
    · next values values_read =>
      split at read
      · cases read
      · obtain rfl := Except.ok.inj read
        refine isProper_ofValues (fun listed => ?_) _
        -- Pieces without text are left out before any is resolved.
        obtain ⟨piece, among, resolved⟩ := Except.exists_of_mem_mapM values_read listed
        have full : piece ≠ "" := by simpa using (List.mem_filter.mp among).2
        exact Constant.ne_empty_of_resolve full resolved rfl

namespace RuleRow

variable {κ : Type} {column : κ}

theorem isProper_of_dimension {row : RuleRow κ} {d : Dimension}
    (read : row.dimension column = .ok d) : d.IsProper := by
  rw [dimension] at read
  split at read
  · cases read
  · exact Dimension.isProper_of_parse read

variable [RuleColumn κ]

/-- A list ends at the first empty cell, so that no value in it is empty. -/
theorem not_mem_of_columnList {rows : List (RuleRow κ)} {values : List String}
    (read : columnList column rows = .ok values) : "" ∉ values := by
  induction rows generalizing values with
  | nil =>
    obtain rfl := Except.ok.inj read
    exact List.not_mem_nil
  | cons row rows ih =>
    rw [columnList] at read
    split at read
    · split at read
      · cases read
      · obtain rfl := Except.ok.inj read
        exact List.not_mem_nil
    · next full =>
      simp only [Except.bind_eq_ok_iff, Except.pure_eq_ok, Except.ok.injEq] at read
      obtain ⟨value, resolved, later, later_read, rfl⟩ := read
      have own := Constant.ne_empty_of_resolve full resolved
      simpa [own.symm] using ih later_read

theorem isProper_of_columnList {rows : List (RuleRow κ)} {values : List String}
    (read : columnList column rows = .ok values) (allowed : Bool) :
    (Dimension.ofValues values allowed).IsProper :=
  Dimension.isProper_ofValues (not_mem_of_columnList read) allowed

end RuleRow

end PaymentRules
