import PaymentRules.ClientRules.Basic
import PaymentRules.ErrorRules.Basic

/-!
# Reviewing rules

Rules that load may still contain items that no query ever selects, because an earlier item takes
everything that they would accept. The review finds them by comparing each item with those in front
of it, one by one.

## Main definitions

* `Finding` — an item that is never selected, and the earlier item that is the reason
* `withEarlier` — each item of a list with the first earlier one that makes it useless
* `ClientRules.review`, `ErrorRules.review` — the findings of a rule set, in file order
-/

namespace PaymentRules

/-- The reasons for which an item is never selected. -/
inductive Finding.Kind where
  | shadowedFilter
  | shadowedRule
  | duplicateRequestType
  deriving DecidableEq, Repr

instance Finding.Kind.named : Named Finding.Kind where
  all := [.shadowedFilter, .shadowedRule, .duplicateRequestType]
  name
    | .shadowedFilter => "ShadowedFilter"
    | .shadowedRule => "ShadowedRule"
    | .duplicateRequestType => "DuplicateRequestType"

/-- An item that is never selected. -/
structure Finding where
  family : String
  line : Nat
  kind : Finding.Kind
  message : String
  deriving DecidableEq, Repr

/-- The text of a finding. -/
def Finding.display (finding : Finding) : String :=
  finding.family ++ " line " ++ finding.line.repr ++ ": " ++ finding.message

section Earlier

variable {α : Type}

/-- Each item with the first one that stands before it, `before` included, and that replaces it. -/
def withEarlierFrom (replaces : α → α → Bool) (before : List α) : List α → List (α × Option α)
  | [] => []
  | item :: items =>
    (item, before.find? fun earlier => replaces earlier item) ::
      withEarlierFrom replaces (before ++ [item]) items

/-- Each item with the first earlier one that replaces it, if there is one. -/
def withEarlier (replaces : α → α → Bool) (items : List α) : List (α × Option α) :=
  withEarlierFrom replaces [] items

end Earlier

namespace ClientRules

/-- The finding for a group behind one that covers its payment methods. -/
def Group.finding (group earlier : Group) : Finding where
  family := "ClientAction"
  line := group.line
  kind := .shadowedRule
  message := "rule '" ++ group.name ++ "' is unreachable: rule '" ++ earlier.name ++ "' at line " ++
    earlier.line.repr ++ " matches every payment method it does"

/-- The finding for a filter of a group behind one that covers it. -/
def Filter.finding (group : Group) (filter earlier : Filter) : Finding where
  family := "ClientAction"
  line := filter.line
  kind := .shadowedFilter
  message := "filter in rule '" ++ group.name ++ "' is unreachable behind the filter at line " ++
    earlier.line.repr

/-- The findings within a group. -/
def Group.review (group : Group) : List Finding :=
  (withEarlier Filter.covers group.filters).filterMap fun (filter, earlier) =>
    earlier.map (filter.finding group)

/-- The findings of client-action rules: for each group its own, then those of its filters. -/
def review (rules : ClientRules) : List Finding :=
  (withEarlier (fun one other => one.methods.covers other.methods) rules.groups).flatMap
    fun (group, earlier) => (earlier.map group.finding).toList ++ group.review

end ClientRules

namespace ErrorRules

/-- The finding for a section behind one for the same resource action. -/
def Section.finding (part earlier : Section) : Finding where
  family := "ServiceError"
  line := part.line
  kind := .duplicateRequestType
  message := "resource action " ++ Named.name part.action ++ " is already declared at line " ++
    earlier.line.repr ++ "; this block is never used"

/-- The finding for a block of a section behind one that covers it. -/
def Block.finding (part : Section) (block earlier : Block) : Finding where
  family := "ServiceError"
  line := block.line
  kind := .shadowedRule
  message := Named.name part.action ++ " block (" ++ block.display ++
    ") is unreachable behind the block at line " ++ earlier.line.repr

/-- The findings within a section. -/
def Section.review (part : Section) : List Finding :=
  (withEarlier Block.covers part.blocks).filterMap fun (block, earlier) =>
    earlier.map (block.finding part)

/-- The findings of service-error rules: for each section its own, then those of its blocks. -/
def review (rules : ErrorRules) : List Finding :=
  (withEarlier (fun one other => one.action == other.action) rules.sections).flatMap
    fun (part, earlier) => (earlier.map part.finding).toList ++ part.review

end ErrorRules

end PaymentRules
