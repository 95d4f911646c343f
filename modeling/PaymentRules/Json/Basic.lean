import PaymentRules.Decimal.Double

/-!
# JSON documents

A document is a tree of values. Objects keep their members as they were written, a repeated key
included. A value that is well formed but cannot be held is `unreadable`: text with half of a
surrogate pair, a number beyond the range of doubles, or a container nested too deep. Such a value
does no harm where a reader passes over it.

## Main definitions

* `Json` — documents, with `Json.induct`: induction from the contents of a container to it
* `Json.allScalars` — a condition on every value that is no container
-/

namespace PaymentRules

/-- A JSON document. -/
inductive Json where
  | null
  | bool (value : Bool)
  | integer (value : Int)
  | double (value : Double)
  | string (value : String)
  | array (items : List Json)
  | object (members : List (String × Json))
  | unreadable

namespace Json

instance : Inhabited Json := ⟨.null⟩

/-- The deepest nesting of arrays and objects that is held. -/
def maxDepth : Nat := 127

/-- Whether an integer is held as one: it fits 64 bits, signed or unsigned. -/
def holdsInteger (value : Int) : Bool :=
  -0x8000000000000000 ≤ value && value ≤ 0xFFFFFFFFFFFFFFFF

/-- What goes from the contents of every container to the container holds of all documents. -/
@[elab_as_elim]
theorem induct {motive : Json → Prop} (null : motive .null) (bool : ∀ value, motive (.bool value))
    (integer : ∀ value, motive (.integer value)) (double : ∀ value, motive (.double value))
    (string : ∀ value, motive (.string value))
    (array : ∀ items, (∀ item ∈ items, motive item) → motive (.array items))
    (object : ∀ members, (∀ member ∈ members, motive member.2) → motive (.object members))
    (unreadable : motive .unreadable) (json : Json) : motive json :=
  @Json.rec motive (fun items => ∀ item ∈ items, motive item)
    (fun members => ∀ member ∈ members, motive member.2) (fun member => motive member.2)
    null bool integer double string array object unreadable
    (List.forall_mem_nil _) (fun _ _ first others => List.forall_mem_cons.2 ⟨first, others⟩)
    (List.forall_mem_nil _) (fun _ _ first others => List.forall_mem_cons.2 ⟨first, others⟩)
    (fun _ _ value => value) json

mutual

/-- Whether every value in a document that is no container meets a condition. -/
def allScalars (meets : Json → Bool) : Json → Bool
  | .array items => allInItems meets items
  | .object members => allInMembers meets members
  | value => meets value

/-- Whether every value in some items that is no container meets a condition. -/
def allInItems (meets : Json → Bool) : List Json → Bool
  | [] => true
  | item :: items => item.allScalars meets && allInItems meets items

/-- Whether every value in some members that is no container meets a condition. -/
def allInMembers (meets : Json → Bool) : List (String × Json) → Bool
  | [] => true
  | (_, value) :: members => value.allScalars meets && allInMembers meets members

end

section Scalars

variable {meets : Json → Bool}

theorem allInItems_iff {items : List Json} :
    allInItems meets items ↔ ∀ item ∈ items, item.allScalars meets := by
  induction items with
  | nil => simp [allInItems]
  | cons item items ih => simp [allInItems, ih]

theorem allInMembers_iff {members : List (String × Json)} :
    allInMembers meets members ↔ ∀ member ∈ members, member.2.allScalars meets := by
  induction members with
  | nil => simp [allInMembers]
  | cons member members ih => simp [allInMembers, ih]

@[simp] theorem allScalars_array {items : List Json} :
    (array items).allScalars meets ↔ ∀ item ∈ items, item.allScalars meets := by
  rw [allScalars, allInItems_iff]

@[simp] theorem allScalars_object {members : List (String × Json)} :
    (object members).allScalars meets ↔ ∀ member ∈ members, member.2.allScalars meets := by
  rw [allScalars, allInMembers_iff]

end Scalars

end Json

end PaymentRules
