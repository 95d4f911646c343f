import PaymentRules.Json.Carried
import PaymentRules.Json.Decode

/-!
# The shape of documents

How deep a document is nested, and what it holds apart from containers. A document is exact when it
holds nothing that its text could lose: no double, no integer beyond 64 bits, nothing unreadable.

## Main definitions

* `Json.depth` — the nesting of arrays and objects
* `Json.isDoubleFree`, `Json.isExact` — conditions on the values in a document

## Main results

* `Json.isReadable_of_tidy` — a tidied document can be read
* `Json.isExact_of_tidy` — it is exact, unless there is a double in it
-/

namespace PaymentRules.Json

mutual

/-- How deep arrays and objects are nested. -/
def depth : Json → Nat
  | .array items => depthOfItems items + 1
  | .object members => depthOfMembers members + 1
  | _ => 0

/-- The depth of the deepest item. -/
def depthOfItems : List Json → Nat
  | [] => 0
  | item :: items => max item.depth (depthOfItems items)

/-- The depth of the deepest member. -/
def depthOfMembers : List (String × Json) → Nat
  | [] => 0
  | (_, value) :: members => max value.depth (depthOfMembers members)

end

/-- Whether there is no double in a document. -/
def isDoubleFree (json : Json) : Bool :=
  json.allScalars fun
    | .double _ => false
    | _ => true

/-- Whether a value that is no container is kept by its text. -/
def isExactScalar : Json → Bool
  | .integer value => holdsInteger value
  | .double _ | .unreadable => false
  | _ => true

/-- Whether a document holds nothing that its text could lose. -/
def isExact (json : Json) : Bool :=
  json.allScalars isExactScalar

theorem tidy_of_mem_tidyItems? {items tidied : List Json} (h : tidyItems? items = some tidied) :
    ∀ item ∈ tidied, item.tidy? = some item := by
  induction items generalizing tidied with
  | nil => simp_all [tidyItems?]
  | cons item items ih =>
    simp only [tidyItems?, Option.pure_def, Option.bind_eq_bind, Option.bind_eq_some_iff,
      Option.some.injEq] at h
    obtain ⟨first, hf, others, ho, rfl⟩ := h
    exact List.forall_mem_cons.2 ⟨tidy?_of_tidy? hf, ih ho⟩

theorem tidy_of_mem_array {items : List Json} (tidy : (array items).tidy? = some (.array items)) :
    ∀ item ∈ items, item.tidy? = some item := by
  simp only [tidy?, Option.pure_def, Option.bind_eq_bind, Option.bind_eq_some_iff,
    Option.some.injEq] at tidy
  obtain ⟨read, hread, same⟩ := tidy
  obtain rfl := Json.array.inj same
  exact tidy_of_mem_tidyItems? hread

theorem tidy_of_mem_object {members : List (String × Json)}
    (tidy : (object members).tidy? = some (.object members)) :
    ∀ member ∈ members, member.2.tidy? = some member.2 := by
  simp only [tidy?, Option.pure_def, Option.bind_eq_bind, Option.bind_eq_some_iff,
    Option.some.injEq] at tidy
  obtain ⟨read, hread, same⟩ := tidy
  rw [← Json.object.inj same]
  exact Keyed.forall_mem_ofPairs (tidy_of_mem_tidyMembers? hread)

/-- A tidied document meets a condition that every value in it meets which can be held. -/
theorem allScalars_of_tidy {given meets : Json → Bool} {json : Json}
    (tidy : json.tidy? = some json) (all : json.allScalars given)
    (held : ∀ value : Json, value.tidy? = some value → given value → meets value) :
    json.allScalars meets := by
  induction json using induct with
  | array items ih =>
    rw [allScalars_array] at all ⊢
    exact fun item mem => ih item mem (tidy_of_mem_array tidy item mem) (all item mem)
  | object members ih =>
    rw [allScalars_object] at all ⊢
    exact fun member mem => ih member mem (tidy_of_mem_object tidy member mem) (all member mem)
  | _ => exact held _ tidy all

/-- A condition that everything meets. -/
theorem allScalars_true (json : Json) : json.allScalars fun _ => true := by
  induction json using induct with
  | array items ih => exact allScalars_array.2 ih
  | object members ih => exact allScalars_object.2 ih
  | _ => rfl

theorem isReadable_of_tidy {json : Json} (tidy : json.tidy? = some json) : json.isReadable := by
  refine allScalars_of_tidy tidy (allScalars_true json) fun value tidy _ => ?_
  cases value with
  | unreadable => simp [tidy?] at tidy
  | _ => rfl

theorem isExact_of_tidy {json : Json} (tidy : json.tidy? = some json) (free : json.isDoubleFree) :
    json.isExact := by
  refine allScalars_of_tidy tidy free fun value tidy free => ?_
  cases value with
  | unreadable => simp [tidy?] at tidy
  | double value => exact free
  | integer value => simpa [tidy?, isExactScalar] using tidy
  | _ => rfl

/-- A condition on values that texts, truth values and `null` meet. -/
structure AdmitsPlain (meets : Json → Bool) : Prop where
  null : meets .null
  bool : ∀ value, meets (.bool value)
  string : ∀ value, meets (.string value)

theorem allScalars_ofFields {meets : Json → Bool} {fields : List (String × Option Json)} :
    (ofFields fields).allScalars meets ↔
      ∀ field ∈ fields, ∀ json ∈ field.2, json.allScalars meets := by
  rw [ofFields, allScalars_object, List.forall_mem_filterMap]
  refine forall₂_congr fun field _ => ?_
  cases field.2 <;> simp

namespace AdmitsPlain

variable {meets : Json → Bool} (admits : AdmitsPlain meets)

include admits

theorem allScalars_string (text : String) : (Json.string text).allScalars meets :=
  admits.string text

theorem allScalars_bool (flag : Bool) : (Json.bool flag).allScalars meets :=
  admits.bool flag

theorem allScalars_orNull {α : Type} {write : α → Json} {value : Option α}
    (given : ∀ present ∈ value, (write present).allScalars meets) :
    (orNull write value).allScalars meets := by
  cases value with
  | none => exact admits.null
  | some present => exact given present rfl

end AdmitsPlain

end PaymentRules.Json
