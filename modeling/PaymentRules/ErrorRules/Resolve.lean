import PaymentRules.ErrorRules.Basic
import PaymentRules.Narrowing

/-!
# Resolving a service error

The first section for the resource action decides alone. Its blocks are narrowed by family, type,
country and partner, in this order, and the first block left is asked for the error code. It alone
is asked, even when it has no entry for the code and another block has.

## Main definitions

* `ErrorRules.Selection` — the selected entry and how it was found
* `ErrorRules.resolve` — the selection for a query
-/

namespace PaymentRules.ErrorRules

/-- A selected entry. `counts` are the numbers of candidates before the first pass and after each
pass. -/
structure Selection where
  part : Section
  block : Block
  entry : Entry
  counts : List Nat
  survivors : Nat
  deriving DecidableEq, Repr

/-- Whether the order in the file had to decide between blocks. -/
def Selection.isAmbiguous (selection : Selection) : Bool :=
  1 < selection.survivors

/-- The passes over the blocks of a section. -/
def passes (query : Query) : Pass Block × Pass Block × Pass Block × Pass Block :=
  (⟨.paymentMethodFamily, some query.family, none, (·.family)⟩,
   ⟨.paymentMethodType, some query.type, none, (·.types)⟩,
   ⟨.country, query.country, none, (·.countries)⟩,
   ⟨.partner, query.partner, none, (·.partners)⟩)

/-- The block of a section that is selected, the numbers of candidates, and the number left. -/
def Section.narrow (part : Section) (query : Query) :
    Except ResolveError (Block × List Nat × Nat) := do
  let (family, type, country, partner) := passes query
  let one ← family.narrow part.blocks
  let two ← type.narrow one.toList
  let three ← country.narrow two.toList
  let four ← partner.narrow three.toList
  return (four.first, [part.blocks.length, one.count, two.count, three.count, four.count],
    four.count)

/-- The first section for a resource action. -/
def section? (rules : ErrorRules) (action : ResourceAction) : Option Section :=
  rules.sections.find? fun part => part.action == action

/-- The entry that answers a query. -/
def resolve (rules : ErrorRules) (action : ResourceAction) (query : Query) :
    Except ResolveError Selection := do
  match rules.section? action with
  | none => throw (.noMatchingRequestType action)
  | some part =>
    let (block, counts, survivors) ← part.narrow query
    match block.table.lookup? query.errorCode with
    | none => throw (.noMatchingError query.errorCode)
    | some entry => return { part, block, entry, counts, survivors }

end PaymentRules.ErrorRules
