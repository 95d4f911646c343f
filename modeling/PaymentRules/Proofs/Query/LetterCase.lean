import PaymentRules.Proofs.Dimension.Covering
import PaymentRules.Proofs.Dimension.Inclusion
import PaymentRules.Proofs.Query.Likeness
import PaymentRules.Proofs.Sheet.Joining

/-!
# Letter case

Dimensions compare up to the case of A to Z, an empty text has the letters of no other, and a rule
looks at nothing else in the values of a query. So queries that differ in the case of these letters
only are answered alike. An error of exhaustion tells the value as it was sent, and error codes are
looked up as they are written.

## Main definitions

* `Text.SameLetters` — both values are missing, or they have the same letters
* `ClientRules.Query.SameLetters`, `ErrorRules.Query.SameLetters` — value by value

## Main results

* `letter_case_is_ignored` — queries with the same letters have the same selection or the same cause
-/

namespace PaymentRules

/-- Both values are missing, or they are the same up to the case of the letters A to Z. -/
def Text.SameLetters : Option String → Option String → Prop :=
  Option.Rel fun one other => Text.sameLetters one other = true

/-- A text with the letters of an empty one is empty. -/
theorem Text.eq_empty_iff_of_sameLetters {one other : String}
    (same : Text.sameLetters one other = true) : one = "" ↔ other = "" := by
  have same_length := congrArg String.length (Text.sameLetters_iff.mp same)
  rw [Dimension.length_fold, Dimension.length_fold] at same_length
  rw [← String.length_eq_zero_iff, ← String.length_eq_zero_iff, same_length]

/-- No dimension whatever tells values with the same letters apart. -/
theorem Text.SameLetters.alike {one other : Option String} (same : Text.SameLetters one other) :
    Alike (fun _ => True) (fun one other => Text.sameLetters one other = true) one other := by
  cases same with
  | none => exact ⟨fun _ _ => rfl, Iff.rfl, Text.sameLetters_refl ""⟩
  | @some one other same =>
    refine ⟨fun d _ => ?_, Text.eq_empty_iff_of_sameLetters same, same⟩
    cases d with
    | any => rfl
    | oneOf values _ => exact Dimension.listed_congr same
    | noneOf values _ => exact congrArg (! ·) (Dimension.listed_congr same)

namespace ClientRules

/-- The queries have the same letters, value by value. -/
structure Query.SameLetters (one other : Query) : Prop where
  family : Text.sameLetters one.family other.family = true
  type : Text.SameLetters one.type other.type
  country : Text.SameLetters one.country other.country
  pendingOn : Text.SameLetters one.pendingOn other.pendingOn
  requestType : Text.SameLetters one.requestType other.requestType
  partner : Text.SameLetters one.partner other.partner

theorem Query.SameLetters.alike {one other : Query} (same : one.SameLetters other) :
    one.Alike (fun _ => True) (fun one other => Text.sameLetters one other = true) other where
  family := Text.SameLetters.alike (.some same.family)
  type := same.type.alike
  country := same.country.alike
  pendingOn := same.pendingOn.alike
  requestType := same.requestType.alike
  partner := same.partner.alike

end ClientRules

namespace ErrorRules

/-- The queries have the same letters, value by value, and the very same code. -/
structure Query.SameLetters (one other : Query) : Prop where
  family : Text.sameLetters one.family other.family = true
  type : Text.sameLetters one.type other.type = true
  country : Text.SameLetters one.country other.country
  partner : Text.SameLetters one.partner other.partner
  errorCode : one.errorCode = other.errorCode

theorem Query.SameLetters.alike {one other : Query} (same : one.SameLetters other) :
    one.Alike (fun _ => True) (fun one other => Text.sameLetters one other = true) other where
  family := Text.SameLetters.alike (.some same.family)
  type := Text.SameLetters.alike (.some same.type)
  country := same.country.alike
  partner := same.partner.alike
  errorCode := same.errorCode

/-- The word that stands for a missing type does not change with the letters of the type. -/
theorem sameLetters_typeOrEmpty {one other : Option String} (same : Text.SameLetters one other) :
    Text.sameLetters (typeOrEmpty one) (typeOrEmpty other) = true := by
  cases same with
  | none => exact Text.sameLetters_refl emptyType
  | @some one other same =>
    -- Types with the same letters are empty together, and then the same word stands for both.
    have both := Text.eq_empty_iff_of_sameLetters same
    by_cases empty : other = ""
    · obtain rfl := both.mpr empty
      rw [empty]
      exact Text.sameLetters_refl _
    · simpa [typeOrEmpty, Option.filter, empty, both] using same

end ErrorRules

/-- Whatever the rules are, queries with the same letters have the same selection with the same
numbers of candidates, or fail for the same cause, which names the values as they were sent. For a
failed payment it is enough that its type has the same letters before a missing one is named. -/
theorem letter_case_is_ignored :
    (∀ (rules : ClientRules) (one other : ClientRules.Query), one.SameLetters other →
      SameOutcome (fun one other => Text.sameLetters one other = true)
        (rules.resolve one) (rules.resolve other)) ∧
    (∀ (rules : ErrorRules) action (one other : ErrorRules.Query), one.SameLetters other →
      SameOutcome (fun one other => Text.sameLetters one other = true)
        (rules.resolve action one) (rules.resolve action other)) ∧
    (∀ family family' type type' country country' partner partner' errorCode,
      Text.sameLetters family family' = true → Text.SameLetters type type' →
      Text.SameLetters country country' → Text.SameLetters partner partner' →
        (ErrorRules.Query.of family type country partner errorCode).SameLetters
          (ErrorRules.Query.of family' type' country' partner' errorCode)) := by
  refine ⟨fun rules one other same => ?_, fun rules action one other same => ?_, ?_⟩
  · exact ClientRules.resolve_alike same.alike fun group _ =>
      ⟨trivial, trivial, trivial, fun filter _ => ⟨trivial, trivial, trivial⟩⟩
  · exact ErrorRules.resolve_alike same.alike fun part _ block _ =>
      ⟨trivial, trivial, trivial, trivial⟩
  · intro family family' type type' country country' partner partner' errorCode same_family
      same_type same_country same_partner
    exact ⟨same_family, ErrorRules.sameLetters_typeOrEmpty same_type, same_country, same_partner,
      rfl⟩

/-- Both filters of a group are for the wallet, and the block is for the card, in any letters. -/
theorem letter_case_is_ignored_of_rows :
    (∃ rules, ClientRules.ofSheet ⟨walletHeader, walletRows⟩ = .ok rules ∧
      (rules.resolve ⟨"ewallet", none, none, some "sms", none, some "xbox"⟩).map (·.survivors) =
        .ok 2 ∧
      SameOutcome (fun one other => Text.sameLetters one other = true)
        (rules.resolve ⟨"ewallet", none, none, some "sms", none, some "xbox"⟩)
        (rules.resolve ⟨"EWallet", none, none, some "SMS", none, some "Xbox"⟩)) ∧
    (∃ rules, ErrorRules.ofSheet ⟨declineHeader, declineRows⟩ = .ok rules ∧
      (rules.resolve .postModernPI (.of "credit_card" (some "visa") none none "InvalidCvv")).map
        (·.block.line) = .ok 2 ∧
      SameOutcome (fun one other => Text.sameLetters one other = true)
        (rules.resolve .postModernPI (.of "credit_card" (some "visa") none none "InvalidCvv"))
        (rules.resolve .postModernPI
          (.of "Credit_Card" (some "VISA") none none "InvalidCvv"))) := by
  obtain ⟨client, service, of_given⟩ := letter_case_is_ignored
  constructor
  · have read : (ClientRules.ofSheet ⟨walletHeader, walletRows⟩).map (fun rules =>
        (rules.resolve ⟨"ewallet", none, none, some "sms", none, some "xbox"⟩).map
          (·.survivors)) = .ok (.ok 2) := by decide +kernel
    obtain ⟨rules, built, answered⟩ := Except.map_eq_ok_iff.mp read
    refine ⟨rules, built, answered, client rules _ _ ?_⟩
    exact ⟨by decide, .none, .none, .some (by decide), .none, .some (by decide)⟩
  · have read : (ErrorRules.ofSheet ⟨declineHeader, declineRows⟩).map (fun rules =>
        (rules.resolve .postModernPI
          (.of "credit_card" (some "visa") none none "InvalidCvv")).map (·.block.line)) =
        .ok (.ok 2) := by decide +kernel
    obtain ⟨rules, built, answered⟩ := Except.map_eq_ok_iff.mp read
    refine ⟨rules, built, answered, service rules _ _ _ (of_given _ _ _ _ _ _ _ _ _ ?_ ?_ ?_ ?_)⟩
    · decide
    · exact .some (by decide)
    · exact .none
    · exact .none

end PaymentRules
