import PaymentRules.Dimension
import PaymentRules.ErrorRules.Kind

/-!
# Service-error rules

A failure of the instrument service is shown to the client as the rules say. The rules are sections,
one for a resource action. A section holds blocks, each for some payment methods and partners, and a
block holds entries, each for some error codes.

An entry without codes is the generic one of its block: it answers for every code that no other
entry lists. Of several entries that list a code the last one answers.

## Main definitions

* `ErrorRules.Entry`, `ErrorRules.EntryTable`, `ErrorRules.Block`, `ErrorRules.Section`,
  `ErrorRules`
* `EntryTable.lookup?` — the entry for a code
* `ErrorRules.Query` and `Block.accepts` — what is known about the failure, and whether a block is
  for it, all properties at once
-/

namespace PaymentRules

namespace ErrorRules

/-- What is known about the failure at hand. `type` is the word `empty` for a missing type. -/
structure Query where
  family : String
  type : String
  country : Option String
  partner : Option String
  errorCode : String
  deriving DecidableEq, Repr

/-- The type that stands for a missing or empty one, so that rules can name it. -/
def emptyType : String := "empty"

/-- The type to look for: the given one, unless it is missing or empty. -/
def typeOrEmpty (type : Option String) : String :=
  (type.filter (· ≠ "")).getD emptyType

/-- The query for a failure, with the payment type as it was given. -/
def Query.of (family : String) (type : Option String) (country partner : Option String)
    (errorCode : String) : Query :=
  ⟨family, typeOrEmpty type, country, partner, errorCode⟩

/-- The codes that an entry answers for, and what the client is shown. -/
structure Entry where
  line : Nat
  message : String
  errorCodes : List String
  detailsErrorCode : Option String
  detailsMessage : Option String
  detailsTarget : Option String
  followUp : FollowUp
  deriving DecidableEq, Repr

namespace Entry

/-- Whether the entry is for every code that is not listed elsewhere. -/
def isGeneric (entry : Entry) : Bool :=
  entry.errorCodes.isEmpty

/-- Whether the entry adds a detail to the response. -/
def hasDetail (entry : Entry) : Bool :=
  entry.detailsErrorCode.isSome || entry.detailsMessage.isSome || entry.detailsTarget.isSome

end Entry

/-- The entries of a block, with the position of the entry for each code, the latest first, and that
of the generic entry. -/
structure EntryTable where
  entries : List Entry
  byCode : List (String × Nat)
  generic : Option Nat
  deriving DecidableEq, Repr

namespace EntryTable

/-- No entries. -/
def empty : EntryTable :=
  ⟨[], [], none⟩

/-- The table with one more entry at its end. From now on the entry answers for its codes. -/
def push (table : EntryTable) (entry : Entry) : EntryTable where
  entries := table.entries ++ [entry]
  byCode := (entry.errorCodes.map fun code => (code, table.entries.length)) ++ table.byCode
  generic := if entry.isGeneric then some table.entries.length else table.generic

/-- Adds entries one by one. The second one without codes is refused, and returned. -/
def pushAll (table : EntryTable) : List Entry → Except Entry EntryTable
  | [] => .ok table
  | entry :: entries =>
    if entry.isGeneric && table.generic.isSome then .error entry
    else (table.push entry).pushAll entries

/-- The entry for a code: the latest that lists it, else the generic one. -/
def lookup? (table : EntryTable) (code : String) : Option Entry := do
  let index ← (table.byCode.lookup code).or table.generic
  table.entries[index]?

/-- The entry without codes. -/
def genericEntry? (table : EntryTable) : Option Entry := do
  let index ← table.generic
  table.entries[index]?

end EntryTable

/-- The entries for some payment methods and partners. -/
structure Block where
  line : Nat
  family : Dimension
  types : Dimension
  countries : Dimension
  partners : Dimension
  table : EntryTable
  deriving DecidableEq, Repr

namespace Block

/-- Whether the block is for the failure. -/
def accepts (block : Block) (query : Query) : Bool :=
  block.family.accepts (some query.family) && block.types.accepts (some query.type) &&
    block.countries.accepts query.country && block.partners.accepts query.partner

/-- Whether each dimension covers that of the other block. -/
def covers (block other : Block) : Bool :=
  block.family.covers other.family && block.types.covers other.types &&
    block.countries.covers other.countries && block.partners.covers other.partners

/-- The text of a block: its family, and what else it constrains. -/
def display (block : Block) : String :=
  let constraint (name : String) (dimension : Dimension) : String :=
    if dimension.isAny then "" else ", " ++ name ++ "[" ++ dimension.display ++ "]"
  "Family[" ++ block.family.display ++ "]" ++ constraint "Types" block.types ++
    constraint "Countries" block.countries ++ constraint "Partners" block.partners

end Block

/-- The blocks for one resource action. -/
structure Section where
  action : ResourceAction
  line : Nat
  blocks : List Block
  deriving DecidableEq, Repr

end ErrorRules

/-- The service-error rules of a file, in file order. -/
structure ErrorRules where
  sections : List ErrorRules.Section
  deriving DecidableEq, Repr

namespace ErrorRules

instance : Inhabited ErrorRules := ⟨⟨[]⟩⟩

/-- The number of blocks in all sections. -/
def blockCount (rules : ErrorRules) : Nat :=
  (rules.sections.flatMap (·.blocks)).length

end ErrorRules

end PaymentRules
