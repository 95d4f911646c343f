import Mathlib.Data.List.Basic
import PaymentRules.Constant
import PaymentRules.Proofs.Text.Parting

/-!
# What a cell stands for

The named constants are a table, and a cell either names an entry of it, names none although it is
written like a name, or stands for itself. The table has one entry for each name, and no name of a
class or a field has a point in it, so a cell names at most one entry.

## Main definitions

* `Constant.IsKnown` — a name in the table, and its value
* `Constant.StandsFor`, `Constant.IsUnknown` — the value of a cell, and a name without one

## Main results

* `Constant.resolve_eq_ok_iff`, `Constant.resolve_eq_error_iff_isUnknown` — how a cell is resolved
-/

namespace PaymentRules.Constant

/-- The name is that of a field of a class in the table, with this value. -/
def IsKnown (name value : String) : Prop :=
  ∃ cls ∈ classes, ∃ field ∈ cls.2, name.toList = cls.1.toList ++ '.' :: field.1.toList ∧
    value = field.2

/-- A cell with exactly one point stands for the constant of that name, any other for itself. -/
def StandsFor (cell value : String) : Prop :=
  if cell.toList.count '.' = 1 then IsKnown cell value else value = cell

/-- The cell is written like a name, and there is no constant of that name. -/
def IsUnknown (cell : String) : Prop :=
  cell.toList.count '.' = 1 ∧ ∀ value, ¬ IsKnown cell value

/-! ## The table -/

/-- In a list with a single entry for each key, what is found under a key is what stands there. -/
theorem lookup_eq_some_iff_mem {β : Type} {entries : List (String × β)}
    (distinct : (entries.map Prod.fst).Nodup) {key : String} {value : β} :
    entries.lookup key = some value ↔ (key, value) ∈ entries := by
  induction entries with
  | nil => simp
  | cons entry entries ih =>
    obtain ⟨other, old⟩ := entry
    rw [List.map_cons, List.nodup_cons] at distinct
    by_cases same : key = other
    · subst same
      have absent : ∀ value, (key, value) ∉ entries := fun value among =>
        distinct.1 (List.mem_map.mpr ⟨_, among, rfl⟩)
      simp [absent, eq_comm]
    · have differs : (key == other) = false := by simpa using same
      simp [List.lookup_cons, differs, ih distinct.2, same]

theorem nodup_classNames : (classes.map Prod.fst).Nodup := by
  decide +kernel

theorem nodup_fieldNames : ∀ cls ∈ classes, (cls.2.map Prod.fst).Nodup := by
  decide +kernel

/-- No name of a class or a field has a point in it. -/
theorem not_mem_names : ∀ cls ∈ classes, '.' ∉ cls.1.toList ∧
    ∀ field ∈ cls.2, '.' ∉ field.1.toList := by
  decide +kernel

theorem lookup?_eq_some_iff {cls field value : String} :
    lookup? cls field = some value ↔
      ∃ fields, (cls, fields) ∈ classes ∧ (field, value) ∈ fields := by
  refine Option.bind_eq_some_iff.trans ?_
  refine exists_congr fun fields => ?_
  rw [lookup_eq_some_iff_mem nodup_classNames]
  exact and_congr_right fun in_table => lookup_eq_some_iff_mem (nodup_fieldNames _ in_table)

/-! ## Names -/

section

variable {cell cls field : String}

/-- A cell refers to a class and a field when they stand on the two sides of its only point. -/
theorem reference?_eq_some_iff :
    reference? cell = some (cls, field) ↔
      cell.toList = cls.toList ++ '.' :: field.toList ∧ '.' ∉ cls.toList ∧ '.' ∉ field.toList := by
  calc
    reference? cell = some (cls, field) ↔ Text.splitAt '.' cell = [cls, field] := by
      rw [reference?]
      split
      · next pieces_eq => simp [pieces_eq]
      · next other => exact iff_of_false nofun (other cls field)
    _ ↔ Text.Parted '.' cell.toList [cls.toList, field.toList] := Text.splitAt_eq_iff
    _ ↔ _ := Text.parted_pair_iff

theorem reference?_eq_none_iff : reference? cell = none ↔ cell.toList.count '.' ≠ 1 := by
  have pieces_length := Text.length_splitAt '.' cell
  rw [reference?]
  split
  · next pieces_eq =>
    rw [pieces_eq] at pieces_length
    have one_point : cell.toList.count '.' = 1 := by simpa using pieces_length.symm
    exact iff_of_false nofun (not_not_intro one_point)
  · next other =>
    refine iff_of_true rfl fun one_point => ?_
    rw [one_point] at pieces_length
    obtain ⟨cls, field, pair⟩ := List.length_eq_two.mp pieces_length
    exact other cls field pair

theorem count_of_reference? {name : String × String} (refers : reference? cell = some name) :
    cell.toList.count '.' = 1 := by
  by_contra points
  rw [reference?_eq_none_iff.mpr points] at refers
  cases refers

/-- The name that a cell is written like is known when the table has its class and field. -/
theorem isKnown_iff_of_reference? {value : String} (refers : reference? cell = some (cls, field)) :
    IsKnown cell value ↔ lookup? cls field = some value := by
  rw [lookup?_eq_some_iff]
  constructor
  · rintro ⟨⟨cls', fields⟩, in_table, ⟨field', _⟩, in_class, cell_eq, rfl⟩
    -- No name in the table has a point, so the cell has its point where the name has it.
    obtain ⟨cls_free, fields_free⟩ := not_mem_names _ in_table
    have refers' := reference?_eq_some_iff.mpr ⟨cell_eq, cls_free, fields_free _ in_class⟩
    rw [refers, Option.some.injEq, Prod.mk.injEq] at refers'
    obtain ⟨rfl, rfl⟩ := refers'
    exact ⟨fields, in_table, in_class⟩
  · rintro ⟨fields, in_table, in_class⟩
    exact ⟨_, in_table, _, in_class, (reference?_eq_some_iff.mp refers).1, rfl⟩

end

/-! ## Resolving -/

section

variable {cell : String} {line : Nat}

/-- A cell is resolved to what it stands for. -/
theorem resolve_eq_ok_iff {value : String} :
    resolve cell line = .ok value ↔ StandsFor cell value := by
  rw [resolve, StandsFor]
  cases refers : reference? cell with
  | none =>
    rw [if_neg (reference?_eq_none_iff.mp refers)]
    simp [eq_comm]
  | some name =>
    obtain ⟨cls, field⟩ := name
    rw [if_pos (count_of_reference? refers), isKnown_iff_of_reference? refers]
    cases found : lookup? cls field <;> simp [found]

/-- A cell is refused when it is a name that is not known. -/
theorem resolve_eq_error_iff_isUnknown {failure : LoadError} :
    resolve cell line = .error failure ↔
      failure = .unknownConstant cell line ∧ IsUnknown cell := by
  rw [resolve_eq_error_iff, IsUnknown]
  refine and_congr_right fun _ => ?_
  constructor
  · rintro ⟨⟨cls, field⟩, refers, missing⟩
    refine ⟨count_of_reference? refers, fun value known => ?_⟩
    rw [isKnown_iff_of_reference? refers, missing] at known
    cases known
  · rintro ⟨one_point, unknown⟩
    cases refers : reference? cell with
    | none => exact absurd one_point (reference?_eq_none_iff.mp refers)
    | some name =>
      refine ⟨name, rfl, Option.eq_none_iff_forall_ne_some.mpr fun value found => ?_⟩
      exact unknown value ((isKnown_iff_of_reference? refers).mpr found)

/-- What is not unknown can be resolved. -/
theorem not_isUnknown_iff : ¬ IsUnknown cell ↔ ∃ value, resolve cell line = .ok value := by
  cases read : resolve cell line with
  | ok value =>
    refine iff_of_true (fun unknown => ?_) ⟨value, rfl⟩
    have refused : resolve cell line = .error (.unknownConstant cell line) :=
      resolve_eq_error_iff_isUnknown.mpr ⟨rfl, unknown⟩
    rw [read] at refused
    cases refused
  | error failure =>
    have unknown := (resolve_eq_error_iff_isUnknown.mp read).2
    exact iff_of_false (not_not_intro unknown) nofun

end

end PaymentRules.Constant
