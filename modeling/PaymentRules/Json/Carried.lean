import PaymentRules.Json.Basic
import PaymentRules.Keyed

/-!
# Carried documents

Some parts of a document are carried along as they are. They are held in tidied form: every value
can be held, and the members of objects have ascending keys, a repeated key keeping its last value.
Tidying twice is tidying once, so what is held is unchanged when it is written and read again.

## Main definitions

* `Json.tidy?` — the tidied document, unless some value in it cannot be held
* `Carried` — a tidied document, with `Carried.ofJson?_value`: it is read as itself
* `Carried.text`, `Carried.object` — carried documents from their parts
-/

namespace PaymentRules

namespace Json

mutual

/-- The tidied form of a document. -/
def tidy? : Json → Option Json
  | .unreadable => none
  | .integer value => if holdsInteger value then some (.integer value) else none
  | .array items => do
    let items ← tidyItems? items
    return .array items
  | .object members => do
    let members ← tidyMembers? members
    return .object (Keyed.ofPairs members)
  | value => some value

/-- The tidied forms of items. -/
def tidyItems? : List Json → Option (List Json)
  | [] => some []
  | item :: items => do
    let item ← tidy? item
    let items ← tidyItems? items
    return item :: items

/-- The members with tidied values. -/
def tidyMembers? : List (String × Json) → Option (List (String × Json))
  | [] => some []
  | (key, value) :: members => do
    let value ← tidy? value
    let members ← tidyMembers? members
    return (key, value) :: members

end

/-- Members whose values are tidy are tidy. -/
theorem tidyMembers?_eq_self {members : List (String × Json)}
    (h : ∀ member ∈ members, member.2.tidy? = some member.2) :
    tidyMembers? members = some members := by
  induction members with
  | nil => rfl
  | cons member members ih =>
    have first := h member List.mem_cons_self
    have others := ih fun m mem => h m (List.mem_cons_of_mem _ mem)
    simp [tidyMembers?, first, others]

mutual

/-- A tidied document is tidy. -/
theorem tidy?_of_tidy? {json tidied : Json} (h : json.tidy? = some tidied) :
    tidied.tidy? = some tidied := by
  match json with
  | .unreadable => simp [tidy?] at h
  | .array items =>
    simp only [tidy?, Option.pure_def, Option.bind_eq_bind, Option.bind_eq_some_iff,
      Option.some.injEq] at h
    obtain ⟨tidiedItems, hi, rfl⟩ := h
    simp [tidy?, tidyItems?_of_tidyItems? hi]
  | .object members =>
    simp only [tidy?, Option.pure_def, Option.bind_eq_bind, Option.bind_eq_some_iff,
      Option.some.injEq] at h
    obtain ⟨tidiedMembers, hm, rfl⟩ := h
    have tidy := Keyed.forall_mem_ofPairs (tidy_of_mem_tidyMembers? hm)
    simp [tidy?, tidyMembers?_eq_self tidy, Keyed.ofPairs_eq_self (Keyed.ascending_ofPairs _)]
  | .integer value =>
    simp only [tidy?, Option.ite_none_right_eq_some, Option.some.injEq] at h
    obtain ⟨held, rfl⟩ := h
    simp [tidy?, held]
  | .null | .bool _ | .double _ | .string _ =>
    simp only [tidy?, Option.some.injEq] at h
    subst h
    rfl

/-- Tidied items are tidy. -/
theorem tidyItems?_of_tidyItems? {items tidied : List Json} (h : tidyItems? items = some tidied) :
    tidyItems? tidied = some tidied := by
  match items with
  | [] => simp_all [tidyItems?]
  | item :: items =>
    simp only [tidyItems?, Option.pure_def, Option.bind_eq_bind, Option.bind_eq_some_iff,
      Option.some.injEq] at h
    obtain ⟨first, hf, others, ho, rfl⟩ := h
    simp [tidyItems?, tidy?_of_tidy? hf, tidyItems?_of_tidyItems? ho]

/-- The values of tidied members are tidy. -/
theorem tidy_of_mem_tidyMembers? {members tidied : List (String × Json)}
    (h : tidyMembers? members = some tidied) :
    ∀ member ∈ tidied, member.2.tidy? = some member.2 := by
  match members with
  | [] => simp_all [tidyMembers?]
  | (key, value) :: members =>
    simp only [tidyMembers?, Option.pure_def, Option.bind_eq_bind, Option.bind_eq_some_iff,
      Option.some.injEq] at h
    obtain ⟨first, hf, others, ho, rfl⟩ := h
    intro member mem
    rcases List.mem_cons.1 mem with rfl | mem
    · exact tidy?_of_tidy? hf
    · exact tidy_of_mem_tidyMembers? ho member mem

end

end Json

/-- A document that is carried along, in tidied form. -/
structure Carried where
  value : Json
  tidy : value.tidy? = some value

namespace Carried

@[ext] theorem ext {a b : Carried} (h : a.value = b.value) : a = b := by
  cases a
  cases b
  simp_all

/-- The document in tidied form, if all of it can be read. -/
def ofJson? (json : Json) : Option Carried :=
  match h : json.tidy? with
  | some value => some ⟨value, Json.tidy?_of_tidy? h⟩
  | none => none

/-- What is held is read as itself. -/
theorem ofJson?_value (o : Carried) : ofJson? o.value = some o := by
  unfold ofJson?
  split
  · rename_i value h
    rw [o.tidy] at h
    simp only [Option.some.injEq]
    exact ext (Option.some.inj h).symm
  · rename_i h
    rw [o.tidy] at h
    cases h

/-- A text, carried along. -/
def text (value : String) : Carried :=
  ⟨.string value, rfl⟩

/-- An object of carried values. The last value for a key counts. -/
def object (fields : List (String × Carried)) : Carried where
  value := .object (Keyed.ofPairs (fields.map fun field => (field.1, field.2.value)))
  tidy := by
    have tidy : ∀ member ∈ Keyed.ofPairs (fields.map fun field => (field.1, field.2.value)),
        member.2.tidy? = some member.2 := Keyed.forall_mem_ofPairs fun member mem => by
      obtain ⟨field, _, rfl⟩ := List.mem_map.1 mem
      exact field.2.tidy
    simp [Json.tidy?, Json.tidyMembers?_eq_self tidy,
      Keyed.ofPairs_eq_self (Keyed.ascending_ofPairs _)]

end Carried

end PaymentRules
