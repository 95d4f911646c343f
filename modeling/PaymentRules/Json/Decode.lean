import PaymentRules.Json.Basic
import PaymentRules.Keyed
import PaymentRules.Named

/-!
# Typed data in documents

Each type of data has one reading of a document, which either gives a value or fails; nothing is
converted. A record is an object, in which unknown members are passed over and no known one may
stand twice, or an array of its fields in their order, of which the last ones may be missing.
Whether a field may be missing is up to the field.

## Main definitions

* `Json.record?` — the fields of a record, each present or missing
* `Json.required`, `Json.optional`, `Json.orDefault` — readings of a field
* `Json.ofFields` — the record with some fields
* `Json.text?`, `Json.flag?`, `Json.list?`, `Json.textMap?`, `Json.word?` — readings of a value
-/

namespace PaymentRules.Json

/-- A text. -/
def text? : Json → Option String
  | .string value => some value
  | _ => none

/-- A truth value. -/
def flag? : Json → Option Bool
  | .bool value => some value
  | _ => none

/-- A list of values that are all read the same way. -/
def list? {α : Type} (read : Json → Option α) : Json → Option (List α)
  | .array items => items.mapM read
  | _ => none

/-- Texts under keys. A key that stands twice has its last text. -/
def textMap? : Json → Option TextMap
  | .object members => do
    let pairs ← members.mapM fun member => (member.1, ·) <$> member.2.text?
    return .ofPairs pairs
  | _ => none

/-- A member of a vocabulary: its word, or an object with nothing under its word. -/
def word? {α : Type} [Named α] : Json → Option α
  | .string word => Named.ofName? word
  | .object [(word, .null)] => Named.ofName? word
  | _ => none

/-- The fields of a record with these names, in this order. -/
def record? (names : List String) : Json → Option (List (Option Json))
  | .object members =>
    let known := (members.map Prod.fst).filter (names.contains ·)
    if known.Nodup then some (names.map fun name => members.lookup name) else none
  | .array items =>
    if items.length ≤ names.length then
      some (items.map some ++ List.replicate (names.length - items.length) none)
    else none
  | _ => none

/-- A record with the fields that are there. -/
def ofFields (fields : List (String × Option Json)) : Json :=
  .object (fields.filterMap fun field => field.2.map (field.1, ·))

/-- A value, or `null` when there is none. -/
def orNull {α : Type} (write : α → Json) (value : Option α) : Json :=
  (value.map write).getD .null

/-- A field that has to be there. -/
def required {α : Type} (read : Json → Option α) (field : Option Json) : Option α :=
  field.bind read

/-- A field that may be missing, or `null` instead. -/
def optional {α : Type} (read : Json → Option α) (field : Option Json) : Option (Option α) :=
  match field with
  | none => some none
  | some .null => some none
  | some value => some <$> read value

/-- A field that has a value when it is missing. -/
def orDefault {α : Type} (default : α) (read : Json → Option α) (field : Option Json) : Option α :=
  match field with
  | none => some default
  | some value => read value

/-- Whether every value in a document can be read. -/
def isReadable (json : Json) : Bool :=
  json.allScalars fun
    | .unreadable => false
    | _ => true

end PaymentRules.Json
