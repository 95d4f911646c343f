import PaymentRules.Dimension

/-!
# Inclusion of dimensions

Whether a dimension covers another one is judged from their lists. The judgement is right about the
values that the two accept, a missing value included: lists compare members up to the case of A to
Z, so a value cannot be on a list under one spelling and off it under another.

## Main results

* `Dimension.accepts_of_covers` — what a dimension accepts is accepted by one that covers it
-/

namespace PaymentRules.Dimension

/-- A value is listed as soon as one with the same letters is. -/
theorem listed_congr {values : List String} {one other : String}
    (same : Text.sameLetters one other = true) : listed values one = listed values other := by
  rw [Text.sameLetters_iff] at same
  simp only [listed, Text.sameLetters, same]

/-- A value on a list is found on every list that lists all of its members. -/
theorem listed_trans {values more : List String} {value : String}
    (inclusion : values.all (listed more) = true) (found : listed values value = true) :
    listed more value = true := by
  obtain ⟨member, among, same⟩ := List.any_eq_true.mp found
  rw [← listed_congr same]
  exact List.all_eq_true.mp inclusion member among

/-- Two lists without a common member have no value in common. -/
theorem not_listed_of_disjoint {values others : List String} {value : String}
    (disjoint : (values.all fun member => !listed others member) = true)
    (found : listed values value = true) : listed others value = false := by
  obtain ⟨member, among, same⟩ := List.any_eq_true.mp found
  rw [← listed_congr same]
  have apart := List.all_eq_true.mp disjoint member among
  rwa [Bool.not_eq_true'] at apart

/-- What a dimension accepts is accepted by every dimension that covers it. -/
theorem accepts_of_covers {self other : Dimension} {value : Option String}
    (covered : self.covers other = true) (accepted : other.accepts value = true) :
    self.accepts value = true := by
  cases self with
  | any => rfl
  | oneOf mine =>
    cases other with
    | any => cases covered
    | noneOf => cases covered
    | oneOf theirs =>
      cases value with
      | none => cases accepted
      | some value => exact listed_trans covered accepted
  | noneOf mine =>
    cases value with
    | none => rfl
    | some value =>
      rw [accepts, Bool.not_eq_true']
      cases other with
      | any => cases covered
      | oneOf theirs => exact not_listed_of_disjoint covered accepted
      | noneOf theirs =>
        -- A member of the covering list that stood for the value would exclude it on both sides.
        rw [accepts, Bool.not_eq_true'] at accepted
        refine Bool.eq_false_iff.mpr fun found => ?_
        have excluded : listed theirs value = true := listed_trans covered found
        rw [accepted] at excluded
        cases excluded

end PaymentRules.Dimension
