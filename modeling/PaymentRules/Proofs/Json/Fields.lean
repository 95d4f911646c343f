import PaymentRules.Json.Decode
import Mathlib.Data.List.Nodup

/-!
# Records and their fields

A record that was written with some fields has these fields when it is read, each one under its
name, and the ones that were left out are missing. What a field then gives back depends on how its
value was written: as itself, not at all when there is none, or as `null` when there is none.

## Main results

* `Json.record?_ofFields`, `Json.record?_object` — the fields of a record that was written
* `Json.optional_map`, `Json.optional_orNull` — a field that need not have a value
* `Json.list?_array`, `Json.textMap?_object` — lists and maps
-/

namespace PaymentRules

/-- Values that are each read back from what they are written to are so together. -/
theorem mapM_map_eq_some {α β : Type} {read : β → Option α} {write : α → β} {values : List α}
    (undoes : ∀ value ∈ values, read (write value) = some value) :
    (values.map write).mapM read = some values := by
  induction values with
  | nil => rfl
  | cons value values ih =>
    have first := undoes value List.mem_cons_self
    have others := ih fun other mem => undoes other (List.mem_cons_of_mem _ mem)
    simp [first, others]

namespace Json

section Record

variable {fields : List (String × Option Json)}

/-- The members that a record is written with. -/
def membersOf (fields : List (String × Option Json)) : List (String × Json) :=
  fields.filterMap fun field => field.2.map (field.1, ·)

theorem ofFields_eq (fields : List (String × Option Json)) :
    ofFields fields = .object (membersOf fields) :=
  rfl

theorem membersOf_cons_some (name : String) (value : Json)
    (fields : List (String × Option Json)) :
    membersOf ((name, some value) :: fields) = (name, value) :: membersOf fields :=
  rfl

/-- The names of the members are names of fields, in the same order. -/
theorem names_membersOf_sublist (fields : List (String × Option Json)) :
    ((membersOf fields).map Prod.fst).Sublist (fields.map Prod.fst) := by
  induction fields with
  | nil => exact .slnil
  | cons field fields ih =>
    obtain ⟨name, value⟩ := field
    cases value with
    | none => exact ih.cons name
    | some value => exact ih.cons_cons name

theorem lookup_membersOf_of_not_mem {name : String} (absent : name ∉ fields.map Prod.fst) :
    (membersOf fields).lookup name = none := by
  rw [List.lookup_eq_none_iff]
  intro member mem
  have named := (names_membersOf_sublist fields).subset (List.mem_map_of_mem mem)
  exact bne_iff_ne.2 fun same => absent (same ▸ named)

/-- What is found under the name of a field is the field. -/
theorem lookup_membersOf (nodup : (fields.map Prod.fst).Nodup) {name : String}
    {value : Option Json} (mem : (name, value) ∈ fields) :
    (membersOf fields).lookup name = value := by
  induction fields with
  | nil => cases mem
  | cons first fields ih =>
    obtain ⟨absent, distinct⟩ := List.nodup_cons.1 nodup
    rcases List.mem_cons.1 mem with rfl | later
    · have missing : (membersOf fields).lookup name = none := lookup_membersOf_of_not_mem absent
      cases value with
      | none => exact missing
      | some value => rw [membersOf_cons_some, List.lookup_cons_self]
    · have other : (name == first.1) = false :=
        beq_false_of_ne fun same => absent (same ▸ List.mem_map_of_mem later)
      obtain ⟨_, _ | value⟩ := first
      · exact ih distinct later
      · rw [membersOf_cons_some, List.lookup_cons, other, ih distinct later]

/-- A record that was written with some fields has these fields. -/
theorem record?_ofFields {names : List String} (named : fields.map Prod.fst = names)
    (nodup : names.Nodup) : record? names (ofFields fields) = some (fields.map Prod.snd) := by
  subst named
  have once : (((membersOf fields).map Prod.fst).filter
      ((fields.map Prod.fst).contains ·)).Nodup :=
    (nodup.sublist (names_membersOf_sublist fields)).filter _
  rw [ofFields_eq, record?, if_pos once, List.map_map]
  exact congrArg some (List.map_congr_left fun field mem => lookup_membersOf nodup mem)

/-- A record in which every field has a value. -/
theorem record?_object {names : List String} {members : List (String × Json)}
    (named : members.map Prod.fst = names) (nodup : names.Nodup) :
    record? names (.object members) = some (members.map fun member => some member.2) := by
  have written : ofFields (members.map fun member => (member.1, some member.2)) =
      .object members := by
    simp [ofFields, List.filterMap_map]
  have same : (members.map fun member => (member.1, some member.2)).map Prod.fst = names := by
    rw [← named, List.map_map]
    rfl
  rw [← written, record?_ofFields same nodup, List.map_map]
  rfl

end Record

section Field

variable {α : Type} {read : Json → Option α} {write : α → Json}

@[simp] theorem required_some (read : Json → Option α) (json : Json) :
    required read (some json) = read json :=
  rfl

@[simp] theorem orDefault_none (read : Json → Option α) (default : α) :
    orDefault default read none = some default :=
  rfl

@[simp] theorem orDefault_some (read : Json → Option α) (default : α) (json : Json) :
    orDefault default read (some json) = read json :=
  rfl

/-- A value that is there is read as it is in any other field, as long as it is not `null`. -/
theorem optional_some {json : Json} (isNone : read .null = none) {value : α}
    (reads : read json = some value) : optional read (some json) = some (some value) := by
  cases json <;> simp_all [optional]

/-- A field that is left out when it has no value. -/
theorem optional_map (isNone : read .null = none) {value : Option α}
    (undoes : ∀ given ∈ value, read (write given) = some given) :
    optional read (value.map write) = some value := by
  cases value with
  | none => rfl
  | some given => exact optional_some isNone (undoes given rfl)

/-- A field that is `null` when it has no value. -/
theorem optional_orNull (isNone : read .null = none) {value : Option α}
    (undoes : ∀ given ∈ value, read (write given) = some given) :
    optional read (some (orNull write value)) = some value := by
  cases value with
  | none => rfl
  | some given => exact optional_some isNone (undoes given rfl)

theorem list?_array {values : List α}
    (undoes : ∀ value ∈ values, read (write value) = some value) :
    list? read (.array (values.map write)) = some values :=
  mapM_map_eq_some undoes

@[simp] theorem text?_string (text : String) : text? (.string text) = some text :=
  rfl

@[simp] theorem flag?_bool (flag : Bool) : flag? (.bool flag) = some flag :=
  rfl

@[simp] theorem optional_map_string (text : Option String) :
    optional text? (text.map .string) = some text :=
  optional_map rfl fun _ _ => rfl

@[simp] theorem optional_orNull_string (text : Option String) :
    optional text? (some (orNull .string text)) = some text :=
  optional_orNull rfl fun _ _ => rfl

/-- A map is read back, since its keys ascend already. -/
theorem textMap?_object (map : TextMap) :
    textMap? (.object (map.pairs.map fun pair => (pair.1, .string pair.2))) = some map := by
  have pairs : (map.pairs.map fun pair => (pair.1, Json.string pair.2)).mapM
      (fun member => (member.1, ·) <$> member.2.text?) = some map.pairs :=
    mapM_map_eq_some fun _ _ => rfl
  rw [textMap?, pairs]
  exact congrArg some map.ofPairs_pairs

end Field

end Json

end PaymentRules
