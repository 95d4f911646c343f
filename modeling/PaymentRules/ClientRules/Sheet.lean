import PaymentRules.ClientRules.Basic
import PaymentRules.Component.Grammar
import PaymentRules.RuleRow

/-!
# Client-action rules in a sheet

A group opens at a row with a `PaymentName` and goes on until the next one. Its rows carry two lists
side by side: down the family, type and country columns stand the payment methods, and each row with
a `ClientActionType` is a filter. Rows without anything in them separate groups.

## Main definitions

* `ClientRules.Column` — the columns of the family
* `ClientRules.grammar` — groups, and in them payment methods and filters
* `ClientRules.ofRows`, `ClientRules.ofSheet` — the rules, or the first error in file order
-/

namespace PaymentRules.ClientRules

/-- The columns of a client-action sheet. -/
inductive Column where
  | paymentName
  | family
  | type
  | country
  | unmatchedPendingOn
  | nullPendingOn
  | unmatchedRequestType
  | pendingOn
  | requestType
  | partner
  | actionType
  | context
  | descriptionType
  | staticRedirect
  | clearMembers
  deriving DecidableEq, Repr

instance : RuleColumn Column where
  all := [.paymentName, .family, .type, .country, .unmatchedPendingOn, .nullPendingOn,
    .unmatchedRequestType, .pendingOn, .requestType, .partner, .actionType, .context,
    .descriptionType, .staticRedirect, .clearMembers]
  name
    | .paymentName => "PaymentName"
    | .family => "PaymentMethodFamily"
    | .type => "PaymentMethodType"
    | .country => "Country"
    | .unmatchedPendingOn => "UnmatchedPendingOn"
    | .nullPendingOn => "NullPendingOn"
    | .unmatchedRequestType => "UnmatchedRequestType"
    | .pendingOn => "PendingOn"
    | .requestType => "RequestType"
    | .partner => "Partner"
    | .actionType => "ClientActionType"
    | .context => "Context"
    | .descriptionType => "PidlResourceDescriptionType"
    | .staticRedirect => "StaticRedirect"
    | .clearMembers => "ClearMembers"
  family := "ClientAction"

/-- Every column has a name of its own, so that a header can hold them all. -/
theorem nodup_columnNames : ((Named.all : List Column).map Named.name).Nodup := by
  decide

/-- A row of a client-action sheet. -/
abbrev SheetRow := RuleRow Column

/-- A payment method is a row with some text in the columns of payment methods. -/
def methodGrammar : Grammar SheetRow where
  name := "PaymentMethod"
  continues _ _ := false
  keeps row := Pattern.someFull.holds [row.cell .family, row.cell .type, row.cell .country]
  parts := []

/-- A filter is a row with an action type. -/
def filterGrammar : Grammar SheetRow where
  name := "ClientAction"
  continues _ _ := false
  keeps row := Pattern.allFull.holds [row.cell .actionType]
  parts := []

/-- A group takes in the rows without a name, and is made of more than empty rows. -/
def groupGrammar : Grammar SheetRow where
  name := "ClientActionRule"
  continues row _ := Pattern.allEmpty.holds [row.cell .paymentName]
  keeps row := !row.isBlank
  parts := [methodGrammar, filterGrammar]

/-- A sheet is a list of groups. -/
def grammar : Grammar SheetRow where
  name := "ClientActionRules"
  continues _ _ := false
  keeps _ := true
  parts := [groupGrammar]

/-- The filter in a row. -/
def Filter.ofRow (row : SheetRow) : Except LoadError Filter := do
  let kind ← row.word .actionType Named.ofName?
  let context ← row.word .context Named.ofName?
  let action ←
    match FilterAction.ofWords? kind context (row.flag .staticRedirect)
      (row.flag .clearMembers) with
    | some action => pure action
    | none => throw (row.flaw (.mismatchedAction kind context))
  return {
    line := row.line
    pendingOn := ← row.dimension .pendingOn
    requestType := ← row.dimension .requestType
    partner := ← row.dimension .partner
    action
    descriptionType := ← row.constant .descriptionType }

/-- The first of the components that does not stand directly behind the one before it. -/
def interruption? : List (SheetRow × Component SheetRow) → Option SheetRow
  | (_, one) :: (row, next) :: later =>
    if next.start = one.start + 1 then interruption? ((row, next) :: later) else some row
  | _ => none

/-- The payment methods of a group, whose rows stand one below the other from the first row of the
group on. Without any the group is for all payment methods. -/
def Methods.ofGroup (group : Component SheetRow) : Except LoadError Methods := do
  let methods := group.anchored methodGrammar.name
  match methods with
  | [] => return .all
  | (first, one) :: _ =>
    -- the lists are read from the top, so a method further down would be lost
    if one.start ≠ group.start then
      throw (first.flaw .methodsStartLate)
    match interruption? methods with
    | some row => throw (row.flaw .methodsInterrupted)
    | none =>
      let rows := methods.flatMap fun method => method.2.rows
      return {
        family := .ofValues (← RuleRow.columnList .family rows) true
        type := .ofValues (← RuleRow.columnList .type rows) true
        country := .ofValues (← RuleRow.columnList .country rows) true }

/-- The group in a component with this first row. -/
def Group.ofComponent (first : SheetRow) (component : Component SheetRow) :
    Except LoadError Group := do
  let name ←
    match first.optional .paymentName with
    | some name => pure name
    | none => throw (first.flaw .unnamedGroup)
  -- a flaw in a filter comes before one in the payment methods
  let filters ← (component.anchored filterGrammar.name).mapM fun filter => Filter.ofRow filter.1
  if filters.isEmpty then
    throw (first.flaw (.groupWithoutActions name))
  return {
    name
    line := first.line
    methods := ← Methods.ofGroup component
    rejectsNullPendingOn := first.flag .nullPendingOn
    unmatchedPendingOn := first.optional .unmatchedPendingOn
    unmatchedRequestType := first.optional .unmatchedRequestType
    filters }

/-- The rules in the rows of a sheet. -/
def ofRows (rows : List SheetRow) : Except LoadError ClientRules := do
  let root := grammar.parse rows ⟨0, rows.length⟩
  return ⟨← (root.anchored groupGrammar.name).mapM fun group => Group.ofComponent group.1 group.2⟩

/-- The rules in a sheet. -/
def ofSheet (sheet : Sheet) : Except LoadError ClientRules := do
  ofRows (← sheet.ruleRows Column)

end PaymentRules.ClientRules
