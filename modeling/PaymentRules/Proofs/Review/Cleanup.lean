import PaymentRules.Proofs.ClientRules.Cleanup
import PaymentRules.Proofs.ErrorRules.Cleanup
import PaymentRules.Proofs.Sheet.Names

/-!
# The review as a guide for cleaning up

Whoever deletes everything that the review reports changes no answer, in either family of rules. An
item may be reported because of one that is itself reported, and still both can go.

## Main results

* `resolve_unchanged_by_cleanup` — what is selected is not reported, and answers stay the same
-/

namespace PaymentRules

/-- In rules from a sheet whose rows have lines of their own, nothing that is selected is reported,
and when everything that is reported is deleted a query gets the same selection out of what is left,
or the same error. -/
theorem resolve_unchanged_by_cleanup (sheet : Sheet)
    (distinct : (sheet.rows.map (·.line)).Nodup) :
    (∀ rules, ClientRules.ofSheet sheet = .ok rules → ∀ query,
      (∀ selection, rules.resolve query = .ok selection →
        reports rules.review .shadowedRule selection.group.line = false ∧
          reports rules.review .shadowedFilter selection.filter.line = false) ∧
      ((rules.without rules.review).resolve query).map
          (fun selection => (selection.group, selection.filter)) =
        (rules.resolve query).map fun selection =>
          (selection.group.without rules.review, selection.filter)) ∧
    (∀ rules, ErrorRules.ofSheet sheet = .ok rules → ∀ action query,
      (∀ selection, rules.resolve action query = .ok selection →
        reports rules.review .duplicateRequestType selection.part.line = false ∧
          reports rules.review .shadowedRule selection.block.line = false) ∧
      ((rules.without rules.review).resolve action query).map
          (fun selection => (selection.part, selection.block, selection.entry)) =
        (rules.resolve action query).map fun selection =>
          (selection.part.without rules.review, selection.block, selection.entry)) := by
  constructor
  · intro rules built query
    refine ⟨fun selection selected => ?_, ?_⟩
    · exact ClientRules.not_reported_of_selected distinct built selected
    · exact ClientRules.resolve_without_review distinct built query
  · intro rules built action query
    refine ⟨fun selection selected => ?_, ?_⟩
    · exact ErrorRules.not_reported_of_selected distinct built selected
    · exact ErrorRules.resolve_without_review distinct built action query

/-- A group for all wallets, with a filter that is never selected, in front of a group that is never
selected either. -/
def walletSheet : Sheet where
  header := .ofDistinct ((Named.all : List ClientRules.Column).map Named.name) (by decide)
  rows := [
    ⟨2, ["Wallets", "ewallet", "", "", "", "", "", "", "", "", "Redirect", "RedirectUrl"]⟩,
    ⟨3, ["", "", "", "", "", "", "", "sms", "", "", "Redirect", "RedirectServiceLink"]⟩,
    ⟨5, ["Paypal", "ewallet", "paypal", "", "", "", "", "", "", "", "Redirect", "RedirectUrl"]⟩]

/-- A query that the later filter and the later group of `walletSheet` would accept, too. -/
def walletQuery : ClientRules.Query :=
  ⟨"EWallet", "paypal", none, "sms", none, none⟩

/-- A section with a block that is never asked, in front of another one for the same action. -/
def declineSheet : Sheet where
  header := .ofDistinct ((Named.all : List ErrorRules.Column).map Named.name) (by decide)
  rows := [
    ⟨2, ["PostModernPI", "credit_card", "", "", "", "", "Declined", "InvalidCvv"]⟩,
    ⟨4, ["", "credit_card", "visa", "", "", "", "Visa declined"]⟩,
    ⟨5, ["PostModernPI", "credit_card", "", "", "", "", "Declined again"]⟩]

/-- A query that the later block and the later section of `declineSheet` would accept, too. -/
def declineQuery : ErrorRules.Query :=
  ⟨"credit_card", "visa", none, none, "InvalidCvv"⟩

/-- Both sheets lose two items and keep their answers. -/
theorem resolve_unchanged_by_cleanup_of_sheets :
    (∃ rules selection, ClientRules.ofSheet walletSheet = .ok rules ∧
      rules.review.map (fun finding => (finding.kind, finding.line)) =
        [(.shadowedFilter, 3), (.shadowedRule, 5)] ∧
      rules.resolve walletQuery = .ok selection ∧
      reports rules.review .shadowedRule selection.group.line = false ∧
      ((rules.without rules.review).resolve walletQuery).map
          (fun selection => (selection.group, selection.filter)) =
        .ok (selection.group.without rules.review, selection.filter)) ∧
    (∃ rules selection, ErrorRules.ofSheet declineSheet = .ok rules ∧
      rules.review.map (fun finding => (finding.kind, finding.line)) =
        [(.shadowedRule, 4), (.duplicateRequestType, 5)] ∧
      rules.resolve .postModernPI declineQuery = .ok selection ∧
      reports rules.review .shadowedRule selection.block.line = false ∧
      ((rules.without rules.review).resolve .postModernPI declineQuery).map
          (fun selection => (selection.part, selection.block, selection.entry)) =
        .ok (selection.part.without rules.review, selection.block, selection.entry)) := by
  constructor
  · have read : (ClientRules.ofSheet walletSheet).map (fun rules =>
        (rules.review.map (fun finding => (finding.kind, finding.line)),
          (rules.resolve walletQuery).map (·.filter.line))) =
        .ok ([(.shadowedFilter, 3), (.shadowedRule, 5)], .ok 2) := by decide +kernel
    obtain ⟨rules, built, found⟩ := Except.map_eq_ok_iff.mp read
    obtain ⟨told, answered⟩ := Prod.mk.inj found
    obtain ⟨selection, selected, -⟩ := Except.map_eq_ok_iff.mp answered
    obtain ⟨unreported, same⟩ :=
      (resolve_unchanged_by_cleanup walletSheet (by decide)).1 rules built walletQuery
    rw [selected] at same
    exact ⟨rules, selection, built, told, selected, (unreported selection selected).1, same⟩
  · have read : (ErrorRules.ofSheet declineSheet).map (fun rules =>
        (rules.review.map (fun finding => (finding.kind, finding.line)),
          (rules.resolve .postModernPI declineQuery).map (·.block.line))) =
        .ok ([(.shadowedRule, 4), (.duplicateRequestType, 5)], .ok 2) := by decide +kernel
    obtain ⟨rules, built, found⟩ := Except.map_eq_ok_iff.mp read
    obtain ⟨told, answered⟩ := Prod.mk.inj found
    obtain ⟨selection, selected, -⟩ := Except.map_eq_ok_iff.mp answered
    obtain ⟨unreported, same⟩ := (resolve_unchanged_by_cleanup declineSheet (by decide)).2
      rules built .postModernPI declineQuery
    rw [selected] at same
    exact ⟨rules, selection, built, told, selected, (unreported selection selected).2, same⟩

end PaymentRules
