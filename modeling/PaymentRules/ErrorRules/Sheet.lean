import PaymentRules.Component.Grammar
import PaymentRules.ErrorRules.Basic
import PaymentRules.RuleRow

/-!
# Service-error rules in a sheet

A section opens at a row with a `ResourceAction`, a block in it at a row with a family, and an entry
in that at a row with a message; each goes on over the rows in which its own opening cell is empty.
The types, countries and partners of a block stand below one another over all of its rows, and so do
the codes of an entry.

## Main definitions

* `ErrorRules.Column` — the columns of the family
* `ErrorRules.grammar` — sections, blocks and entries
* `ErrorRules.ofRows`, `ErrorRules.ofSheet` — the rules, or the first error
-/

namespace PaymentRules.ErrorRules

/-- The columns of a service-error sheet. -/
inductive Column where
  | resourceAction
  | family
  | type
  | country
  | containedInPartner
  | partner
  | message
  | errorCode
  | detailsErrorCode
  | detailsMessage
  | detailsTarget
  | clientAction
  deriving DecidableEq, Repr

instance : RuleColumn Column where
  all := [.resourceAction, .family, .type, .country, .containedInPartner, .partner, .message,
    .errorCode, .detailsErrorCode, .detailsMessage, .detailsTarget, .clientAction]
  name
    | .resourceAction => "ResourceAction"
    | .family => "PaymentMethodFamily"
    | .type => "PaymentMethodType"
    | .country => "Country"
    | .containedInPartner => "ContainedIn_Partner"
    | .partner => "Partner"
    | .message => "Message"
    | .errorCode => "ErrorCode"
    | .detailsErrorCode => "DetailsErrorCode"
    | .detailsMessage => "DetailsMessage"
    | .detailsTarget => "DetailsTarget"
    | .clientAction => "ClientAction"
  family := "ServiceError"

/-- Every column has a name of its own, so that a header can hold them all. -/
theorem nodup_columnNames : ((Named.all : List Column).map Named.name).Nodup := by
  decide

/-- A row of a service-error sheet. -/
abbrev SheetRow := RuleRow Column

/-- An entry takes in the rows without a message. Its first row says something of an entry. -/
def entryGrammar : Grammar SheetRow where
  name := "ServiceError"
  continues row _ := Pattern.allEmpty.holds [row.cell .message]
  keeps row := Pattern.someFull.holds [row.cell .message, row.cell .errorCode,
    row.cell .detailsTarget]
  parts := []

/-- A block takes in the rows without a family. -/
def blockGrammar : Grammar SheetRow where
  name := "PaymentMethod"
  continues row _ := Pattern.allEmpty.holds [row.cell .family]
  keeps row := Pattern.allFull.holds [row.cell .family]
  parts := [entryGrammar]

/-- A section takes in the rows without a resource action. -/
def sectionGrammar : Grammar SheetRow where
  name := "RequestType"
  continues row _ := Pattern.allEmpty.holds [row.cell .resourceAction]
  keeps row := Pattern.allFull.holds [row.cell .resourceAction]
  parts := [blockGrammar]

/-- A sheet is a list of sections. -/
def grammar : Grammar SheetRow where
  name := "ServiceErrorRules"
  continues _ _ := false
  keeps _ := true
  parts := [sectionGrammar]

/-- The entry in a component with this first row. Its message is free text and names no constant. -/
def Entry.ofComponent (first : SheetRow) (component : Component SheetRow) :
    Except LoadError Entry := do
  let message ←
    match first.optional .message with
    | some message => pure message
    | none => throw (first.flaw .entryWithoutMessage)
  return {
    line := first.line
    message
    errorCodes := ← RuleRow.columnList .errorCode component.rows
    detailsErrorCode := ← first.constant .detailsErrorCode
    detailsMessage := first.optional .detailsMessage
    detailsTarget := first.optional .detailsTarget
    followUp := ← first.word .clientAction FollowUp.ofCell? }

/-- The table of the entries of a block that starts with this row. -/
def EntryTable.ofEntries (first : SheetRow) (entries : List Entry) :
    Except LoadError EntryTable :=
  if entries.isEmpty then .error (first.flaw .blockWithoutEntries)
  else
    match EntryTable.empty.pushAll entries with
    | .ok table => .ok table
    | .error second => .error (.shape (RuleColumn.family Column) second.line .secondGenericEntry)

/-- The block in a component with this first row. Partners are allowed unless the row says that they
are not contained. -/
def Block.ofComponent (first : SheetRow) (component : Component SheetRow) :
    Except LoadError Block := do
  let entries ← (component.anchored entryGrammar.name).mapM fun entry =>
    Entry.ofComponent entry.1 entry.2
  -- only the word FALSE turns the list of partners into an exclusion
  let allowed := !Text.sameLetters (first.cell .containedInPartner) "FALSE"
  return {
    line := first.line
    family := ← first.dimension .family
    types := .ofValues (← RuleRow.columnList .type component.rows) true
    countries := .ofValues (← RuleRow.columnList .country component.rows) true
    partners := .ofValues (← RuleRow.columnList .partner component.rows) allowed
    table := ← EntryTable.ofEntries first entries }

/-- The section in a component with this first row. -/
def Section.ofComponent (first : SheetRow) (component : Component SheetRow) :
    Except LoadError Section := do
  let blocks ← (component.anchored blockGrammar.name).mapM fun block =>
    Block.ofComponent block.1 block.2
  -- a flaw in a block comes before one in the first row of the section
  let action ← first.word .resourceAction Named.ofName?
  if blocks.isEmpty then
    throw (first.flaw (.actionWithoutMethods action))
  return { action, line := first.line, blocks }

/-- The rules in the rows of a sheet. -/
def ofRows (rows : List SheetRow) : Except LoadError ErrorRules := do
  let root := grammar.parse rows ⟨0, rows.length⟩
  return ⟨← (root.anchored sectionGrammar.name).mapM fun part => Section.ofComponent part.1 part.2⟩

/-- The rules in a sheet. -/
def ofSheet (sheet : Sheet) : Except LoadError ErrorRules := do
  ofRows (← sheet.ruleRows Column)

end PaymentRules.ErrorRules
