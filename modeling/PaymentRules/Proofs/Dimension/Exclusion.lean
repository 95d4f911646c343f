import PaymentRules.Proofs.Dimension.Cell

/-!
# Excluding is the opposite of allowing

A `!` in front of a cell excludes the values that the cell allows. The two cells hold the same
values, although they are trimmed and parted separately, so that one is wrong when the other is. Of
two such constraints exactly one accepts a value, and the one that excludes accepts a missing value.

## Main results

* `Dimension.IsWritten.exclude` — a `!` in front of a cell excludes its values
* `Dimension.exclusion_is_complement` — how a cell and its exclusion are read
-/

namespace PaymentRules.Dimension

section

variable {cell text : String} {pieces values : List String}

/-- With a mark in front, the values that a cell allows are excluded. -/
theorem IsWritten.exclude (written : IsWritten cell text false pieces) :
    ∃ marked, IsWritten ("!" ++ cell) marked true pieces := by
  cases written with
  | allowed trims full unmarked lists =>
    obtain ⟨⟨front, back, front_blank, back_blank, cell_eq⟩, first, last⟩ := trims
    -- The blanks before the cell stay between the mark and the list. They are no value of it.
    have marked_eq : (String.ofList ('!' :: (front ++ text.toList))).toList =
        '!' :: (front ++ text.toList) := String.toList_ofList
    refine ⟨_, .excluded ⟨⟨[], back, by simp, back_blank, ?_⟩, ?_, ?_⟩ marked_eq
      (lists.append_left front_blank)⟩
    · rw [marked_eq, String.toList_append, cell_eq]
      simp
    · intro c begins
      rw [marked_eq] at begins
      obtain rfl := Option.some.inj begins
      decide
    · intro c ends
      apply last
      have some_text : text.toList ≠ [] := fun empty => full (String.toList_eq_nil_iff.mp empty)
      rw [marked_eq, List.getLast?_cons_of_ne_nil (by simp [full]),
        List.getLast?_append_of_ne_nil _ some_text] at ends
      exact ends

/-- Allowed and excluded values are read alike, with the same error or to the same values. -/
theorem parse_of_isWritten_both {marked : String} (written : IsWritten cell text false pieces)
    (excluded : IsWritten ("!" ++ cell) marked true pieces) (full : pieces ≠ []) (line : Nat) :
    (∃ failure, parse cell line = .error failure ∧ parse ("!" ++ cell) line = .error failure) ∨
    ∃ values, ∃ nonempty : values ≠ [], List.Forall₂ Constant.StandsFor pieces values ∧
      parse cell line = .ok (.oneOf values nonempty) ∧
      parse ("!" ++ cell) line = .ok (.noneOf values nonempty) := by
  have read := parse_of_isWritten written line
  have read_excluded := parse_of_isWritten excluded line
  cases resolved : pieces.mapM (Constant.resolve · line) with
  | error failure =>
    rw [resolved] at read read_excluded
    exact .inl ⟨failure, read, read_excluded⟩
  | ok values =>
    rw [resolved] at read read_excluded
    have stand := mapM_resolve_eq_ok_iff.mp resolved
    have nonempty : values ≠ [] := by
      rintro rfl
      cases stand
      exact full rfl
    refine .inr ⟨values, nonempty, stand, ?_, ?_⟩
    · simpa [ofValues, nonempty] using read
    · simpa [ofValues, nonempty] using read_excluded

end

/-- Let a cell be written without a mark of exclusion and with some value. With a mark in front it
is wrong when it is wrong without, for the same reason. Otherwise exactly one of the two constraints
accepts a value: the excluding one rejects those with the letters of some value of the cell. It
accepts a missing value, which the other one rejects. -/
theorem exclusion_is_complement {cell text : String} {pieces : List String}
    (written : IsWritten cell text false pieces) (full : pieces ≠ []) (line : Nat) :
    (∃ failure, parse cell line = .error failure ∧ parse ("!" ++ cell) line = .error failure) ∨
    ∃ values allowed excluded, List.Forall₂ Constant.StandsFor pieces values ∧
      parse cell line = .ok allowed ∧ parse ("!" ++ cell) line = .ok excluded ∧
      (∀ value : String, excluded.accepts (some value) = !allowed.accepts (some value)) ∧
      (∀ value : String, excluded.accepts (some value) = false ↔
        ∃ member ∈ values, Text.sameLetters member value = true) ∧
      excluded.accepts none = true ∧ allowed.accepts none = false := by
  obtain ⟨marked, written_excluded⟩ := written.exclude
  rcases parse_of_isWritten_both written written_excluded full line with
    wrong | ⟨values, nonempty, stand, read, read_excluded⟩
  · exact .inl wrong
  · refine .inr ⟨values, _, _, stand, read, read_excluded, fun value => rfl, ?_, rfl, rfl⟩
    intro value
    rw [accepts, Bool.not_eq_false', listed, List.any_eq_true]

/-- A constant and a value between blanks, allowed and excluded: another spelling of the constant's
value is on one side, a missing value on the other. -/
theorem exclusion_is_complement_of_partners :
    IsWritten " PartnerName.Xbox , cart" "PartnerName.Xbox , cart" false
      ["PartnerName.Xbox", "cart"] ∧
    ∃ allowed excluded, parse " PartnerName.Xbox , cart" 7 = .ok allowed ∧
      parse "! PartnerName.Xbox , cart" 7 = .ok excluded ∧
      excluded.accepts (some "XBOX") = false ∧ allowed.accepts (some "XBOX") = true ∧
      excluded.accepts none = true ∧ allowed.accepts none = false := by
  have written : IsWritten " PartnerName.Xbox , cart" "PartnerName.Xbox , cart" false
      ["PartnerName.Xbox", "cart"] :=
    .allowed (Text.trims_iff.mpr (by decide +kernel)) (by decide) (by decide +kernel)
      (lists_iff.mpr (by decide +kernel))
  have resolved : ["PartnerName.Xbox", "cart"].mapM (Constant.resolve · 7) =
      .ok ["xbox", "cart"] := by decide +kernel
  refine ⟨written, ?_⟩
  rcases exclusion_is_complement written (by simp) 7 with
    ⟨failure, wrong, -⟩ | ⟨values, allowed, excluded, stand, read, read_excluded, opposite, rejects,
      accepts_none, rejects_none⟩
  · rw [parse_of_isWritten written, resolved] at wrong
    cases wrong
  · obtain rfl : ["xbox", "cart"] = values :=
      Except.ok.inj (resolved.symm.trans (mapM_resolve_eq_ok_iff.mpr stand))
    have rejected : excluded.accepts (some "XBOX") = false :=
      (rejects "XBOX").mpr ⟨"xbox", List.mem_cons_self, by decide⟩
    have either := opposite "XBOX"
    rw [rejected] at either
    exact ⟨allowed, excluded, read, read_excluded, rejected, by simpa using either.symm,
      accepts_none, rejects_none⟩

end PaymentRules.Dimension
