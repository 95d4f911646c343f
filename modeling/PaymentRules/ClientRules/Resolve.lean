import PaymentRules.ClientRules.Basic
import PaymentRules.Narrowing

/-!
# Resolving a client action

The first group whose payment methods include that of the query decides alone. Its filters are
narrowed by what the instrument is pending on, by the type of the request and by the partner, in
this order, and the first filter left is selected.

## Main definitions

* `ClientRules.Selection` — the selected filter and how it was found
* `ClientRules.resolve` — the selection for a query
-/

namespace PaymentRules.ClientRules

/-- A selected filter. `counts` are the numbers of candidates before the first pass and after each
pass. -/
structure Selection where
  groupIndex : Nat
  group : Group
  filter : Filter
  counts : List Nat
  survivors : Nat
  deriving DecidableEq, Repr

/-- Whether the order in the file had to decide between filters. -/
def Selection.isAmbiguous (selection : Selection) : Bool :=
  1 < selection.survivors

/-- The passes over the filters of a group. -/
def Group.passes (group : Group) (query : Query) : Pass Filter × Pass Filter × Pass Filter :=
  (⟨.pendingOn, query.pendingOn, group.unmatchedPendingOn, (·.pendingOn)⟩,
   ⟨.requestType, query.requestType, group.unmatchedRequestType, (·.requestType)⟩,
   ⟨.partner, query.partner, none, (·.partner)⟩)

/-- The filter of a group that is selected, the numbers of candidates, and the number left. -/
def Group.narrow (group : Group) (query : Query) :
    Except ResolveError (Filter × List Nat × Nat) := do
  -- refused before any pass is made, whatever the filters are
  if group.rejectsNullPendingOn && query.pendingOn.all (· == "") then
    throw .nullPendingOn
  let (pendingOn, requestType, partner) := group.passes query
  let one ← pendingOn.narrow group.filters
  let two ← requestType.narrow one.toList
  let three ← partner.narrow two.toList
  return (three.first, [group.filters.length, one.count, two.count, three.count], three.count)

/-- The first group for the payment method of a query, with its position. -/
def group? (rules : ClientRules) (query : Query) : Option (Group × Nat) :=
  rules.groups.zipIdx.find? fun group => group.1.methods.accepts query

/-- The filter that answers a query. -/
def resolve (rules : ClientRules) (query : Query) : Except ResolveError Selection := do
  match rules.group? query with
  | none => throw (.noMatchingGroup query.family (query.type.getD "") (query.country.getD ""))
  | some (group, groupIndex) =>
    let (filter, counts, survivors) ← group.narrow query
    return { groupIndex, group, filter, counts, survivors }

end PaymentRules.ClientRules
