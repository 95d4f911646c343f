import Mathlib.Data.List.Nodup
import Mathlib.Order.Bounds.Basic
import PaymentRules.Sheet.Header

/-!
# Names and positions of columns

A cell is found by the name of its column, and an error shows a column by the name that stands at
its position. So the two ways have to undo each other. The map of a header is filled while its names
are read, one by one, and each name is put into it with the position at which it comes to stand. As
no name is taken twice, the map and the names undo each other after every step. A list of names in
which one stands twice is refused, and the refusal shows the leftmost name that stands further left
as well.

## Main definitions

* `ColumnMap.IsInverse` — the map has each name at its position
* `Header.IsRepeat` — a position whose name stands further left as well
* `Header.ofDistinct` — the header with distinct names

## Main results

* `ColumnMap.IsInverse.push`, `ColumnMap.IsInverse.pushAll` — one more name, and all of them
* `ColumnMap.IsInverse.pushAll_eq_error_iff` — the name that is refused has distinct names before it
* `Header.names_and_positions_correspond` — when names are a header, and what is refused otherwise
-/

namespace PaymentRules

/-- A list with one more member at its end. -/
theorem getElem?_concat_eq_some_iff {α : Type} {members : List α} {member other : α} {i : Nat} :
    (members ++ [member])[i]? = some other ↔
      members[i]? = some other ∨ i = members.length ∧ member = other := by
  rw [List.getElem?_append]
  split
  · next inside => exact (or_iff_left fun last => by omega).symm
  · next outside =>
    rw [List.getElem?_eq_none (Nat.le_of_not_lt outside), List.getElem?_singleton]
    split
    · next first => simp [show i = members.length by omega]
    · next later => simp [show i ≠ members.length by omega]

/-! ## The map beside the names -/

namespace ColumnMap

/-- The map has every name at the position at which it stands, and has nothing else. -/
def IsInverse (columns : ColumnMap) : Prop :=
  ∀ name position, columns.indexOf? name = some position ↔ columns.names[position]? = some name

variable {columns result : ColumnMap} {name : String} {names : List String} {failure : LoadError}

theorem isInverse_empty : empty.IsInverse := by
  simp [IsInverse, empty, indexOf?]

theorem indexOf?_push (columns : ColumnMap) (name other : String) (index : Nat) :
    (columns.push name index).indexOf? other =
      if other = name then some index else columns.indexOf? other := by
  rw [indexOf?, push, List.lookup_cons]
  by_cases same : other = name
  · rw [if_pos same, beq_iff_eq.mpr same]
  · rw [if_neg same, beq_eq_false_iff_ne.mpr same, indexOf?]

namespace IsInverse

variable (inverse : columns.IsInverse)

include inverse

theorem isSome_indexOf?_iff : (columns.indexOf? name).isSome ↔ name ∈ columns.names := by
  rw [Option.isSome_iff_exists, List.mem_iff_getElem?]
  exact exists_congr fun position => inverse name position

theorem indexOf?_eq_none_iff : columns.indexOf? name = none ↔ name ∉ columns.names := by
  rw [← inverse.isSome_indexOf?_iff, Option.not_isSome_iff_eq_none]

/-- No name stands twice, since the map has only one position for it. -/
theorem nodup : columns.names.Nodup := by
  rw [List.nodup_iff_getElem?_ne_getElem?]
  intro earlier position further_left inside same
  have stands := List.getElem?_eq_getElem inside
  have found := (inverse _ position).mpr stands
  rw [(inverse _ earlier).mpr (same.trans stands), Option.some.injEq] at found
  exact further_left.ne found

/-- A new name is put into the map with the position at which it comes to stand. -/
theorem push (fresh : name ∉ columns.names) :
    (columns.push name columns.names.length).IsInverse := by
  intro other position
  rw [indexOf?_push, ColumnMap.push, getElem?_concat_eq_some_iff]
  split
  · next same =>
    subst same
    -- The map forgets nothing, since the name was in it at no position before.
    have not_before : columns.names[position]? ≠ some other :=
      fun stands => fresh (List.mem_of_getElem? stands)
    rw [or_iff_right not_before, and_iff_left rfl, Option.some.injEq, eq_comm]
  · next differs =>
    rw [inverse other position, or_iff_left fun last => differs last.2.symm]

/-- What is done with the next name, which stands behind those that were read. -/
theorem pushAll_cons (name : String) (names : List String) :
    columns.pushAll columns.names.length (name :: names) =
      if name ∈ columns.names then .error (.duplicateColumn name)
      else
        let longer := columns.push name columns.names.length
        longer.pushAll longer.names.length names := by
  have next_index : (columns.push name columns.names.length).names.length =
      columns.names.length + 1 := List.length_append
  simp only [ColumnMap.pushAll, inverse.isSome_indexOf?_iff, next_index]

/-- All names that are taken are in the map at their positions. -/
theorem pushAll (added : columns.pushAll columns.names.length names = .ok result) :
    result.IsInverse := by
  -- Every step keeps the map inverse, and also that the next position is the number of names.
  induction names generalizing columns with
  | nil => exact Except.ok.inj added ▸ inverse
  | cons name names ih =>
    rw [inverse.pushAll_cons] at added
    split at added
    · cases added
    · next fresh => exact ih (inverse.push fresh) added

/-- The name that is refused stands further left as well, and the names before it are distinct. -/
theorem pushAll_eq_error_iff :
    columns.pushAll columns.names.length names = .error failure ↔
      ∃ before name after, names = before ++ name :: after ∧ (columns.names ++ before).Nodup ∧
        name ∈ columns.names ++ before ∧ failure = .duplicateColumn name := by
  -- The names that were read count as names before the refused one, so that they vary.
  induction names generalizing columns with
  | nil => simp [ColumnMap.pushAll]
  | cons first names ih =>
    rw [inverse.pushAll_cons]
    split
    · next known =>
      constructor
      · rintro ⟨⟩
        exact ⟨[], first, names, rfl, by simpa using inverse.nodup, by simpa using known, rfl⟩
      · rintro ⟨_ | ⟨_, before⟩, name, after, split_eq, distinct, -, rfl⟩
        · rw [(List.cons.inj split_eq).1]
        · obtain ⟨rfl, -⟩ := List.cons.inj split_eq
          exact absurd rfl ((List.nodup_append.mp distinct).2.2 _ known _ List.mem_cons_self)
    · next fresh =>
      rw [ih (inverse.push fresh), ColumnMap.push]
      constructor
      · rintro ⟨before, name, after, rfl, distinct, among, refusal⟩
        exact ⟨first :: before, name, after, rfl, by simpa using distinct, by simpa using among,
          refusal⟩
      · rintro ⟨_ | ⟨_, before⟩, name, after, split_eq, distinct, among, refusal⟩
        · obtain ⟨rfl, -⟩ := List.cons.inj split_eq
          exact absurd (by simpa using among) fresh
        · obtain ⟨rfl, rfl⟩ := List.cons.inj split_eq
          exact ⟨before, name, after, rfl, by simpa using distinct, by simpa using among, refusal⟩

end IsInverse

end ColumnMap

namespace Header

/-- The name at a position stands at an earlier position as well. -/
def IsRepeat (names : List String) (position : Nat) : Prop :=
  ∃ earlier < position, position < names.length ∧ names[earlier]? = names[position]?

/-! ## The leftmost repeat -/

section

variable {names before after : List String} {name : String} {position : Nat}

theorem nodup_iff_not_isRepeat : names.Nodup ↔ ∀ position, ¬ IsRepeat names position := by
  rw [List.nodup_iff_getElem?_ne_getElem?]
  constructor
  · rintro distinct position ⟨earlier, further_left, inside, same⟩
    exact distinct earlier position further_left inside same
  · intro no_repeat earlier position further_left inside same
    exact no_repeat position ⟨earlier, further_left, inside, same⟩

theorem exists_append_of_getElem? (stands : names[position]? = some name) :
    ∃ before after, names = before ++ name :: after ∧ position = before.length := by
  obtain ⟨inside, rfl⟩ := List.getElem?_eq_some_iff.mp stands
  refine ⟨names.take position, names.drop (position + 1), ?_, ?_⟩
  · rw [List.getElem_cons_drop, List.take_append_drop]
  · rw [List.length_take, Nat.min_eq_left inside.le]

/-- Whether a name is a repeat is told by the names up to it. -/
theorem isRepeat_append_iff (inside : position < before.length) :
    IsRepeat (before ++ after) position ↔ IsRepeat before position := by
  refine exists_congr fun earlier => and_congr_right fun further_left => ?_
  rw [List.getElem?_append_left inside, List.getElem?_append_left (further_left.trans inside)]
  exact and_congr_left fun _ => iff_of_true (inside.trans_le (by simp)) inside

theorem isRepeat_length_iff :
    IsRepeat (before ++ name :: after) before.length ↔ name ∈ before := by
  have here : (before ++ name :: after)[before.length]? = some name := by simp
  rw [IsRepeat, List.mem_iff_getElem?, here]
  refine exists_congr fun earlier => ?_
  constructor
  · rintro ⟨further_left, -, same⟩
    rwa [List.getElem?_append_left further_left] at same
  · intro same
    have further_left := (List.getElem?_eq_some_iff.mp same).1
    exact ⟨further_left, by simp, by rwa [List.getElem?_append_left further_left]⟩

/-- The leftmost repeat is a name among the names before it, which are distinct. -/
theorem isLeast_isRepeat_iff :
    IsLeast {position | IsRepeat names position} position ∧ names[position]? = some name ↔
      ∃ before after, names = before ++ name :: after ∧ position = before.length ∧
        before.Nodup ∧ name ∈ before := by
  constructor
  · rintro ⟨⟨repeated, leftmost⟩, stands⟩
    obtain ⟨before, after, rfl, rfl⟩ := exists_append_of_getElem? stands
    refine ⟨before, after, rfl, rfl, ?_, isRepeat_length_iff.mp repeated⟩
    -- A repeat among the names before it would stand further left.
    refine nodup_iff_not_isRepeat.mpr fun other repeats => ?_
    obtain ⟨_, -, within, -⟩ := id repeats
    exact within.not_ge (leftmost ((isRepeat_append_iff within).mpr repeats))
  · rintro ⟨before, after, rfl, rfl, distinct, among⟩
    refine ⟨⟨isRepeat_length_iff.mpr among, fun other repeats => ?_⟩, by simp⟩
    -- The names before it are distinct, so that none of them is a repeat.
    by_contra further_left
    exact nodup_iff_not_isRepeat.mp distinct other
      ((isRepeat_append_iff (Nat.lt_of_not_ge further_left)).mp repeats)

end

/-! ## Headers -/

section

variable {names : List String} {header : Header} {family name : String} {position : Nat}
  {failure : LoadError}

theorem isInverse (header : Header) : header.IsInverse :=
  ColumnMap.isInverse_empty.pushAll header.read

theorem nodup (header : Header) : header.names.Nodup :=
  header.isInverse.nodup

/-- Names are a header as they are, and one only. -/
theorem ofNames_eq_ok_iff : ofNames names = .ok header ↔ header.names = names := by
  rw [ofNames]
  split
  · next refused =>
    refine iff_of_false nofun ?_
    rintro rfl
    rw [header.read] at refused
    cases refused
  · next columns read =>
    constructor
    · rintro ⟨⟩
      exact ColumnMap.names_of_pushAll read
    · rintro rfl
      obtain ⟨own, own_read⟩ := header
      obtain rfl := Except.ok.inj (read.symm.trans own_read)
      rfl

/-- The name that is refused is among the names before it, which are distinct. -/
theorem ofNames_eq_error_iff :
    ofNames names = .error failure ↔
      ∃ before name after, names = before ++ name :: after ∧ before.Nodup ∧ name ∈ before ∧
        failure = .duplicateColumn name := by
  have refused : ofNames names = .error failure ↔
      ColumnMap.empty.pushAll 0 names = .error failure := by
    rw [ofNames]
    split
    · next refused => rw [refused, Except.error.injEq, Except.error.injEq]
    · next read => exact iff_of_false nofun (by rw [read]; nofun)
  exact refused.trans ColumnMap.isInverse_empty.pushAll_eq_error_iff

theorem exists_ofNames_iff : (∃ header, ofNames names = .ok header) ↔ names.Nodup := by
  constructor
  · rintro ⟨header, named⟩
    exact ofNames_eq_ok_iff.mp named ▸ header.nodup
  · intro distinct
    cases read : ofNames names with
    | ok header => exact ⟨header, rfl⟩
    | error failure =>
      obtain ⟨before, name, after, rfl, -, among, -⟩ := ofNames_eq_error_iff.mp read
      exact absurd rfl ((List.nodup_append.mp distinct).2.2 _ among _ List.mem_cons_self)

/-- The header with distinct names. -/
def ofDistinct (names : List String) (distinct : names.Nodup) : Header :=
  (ofNames names).toOption.get <| by
    obtain ⟨header, named⟩ := exists_ofNames_iff.mpr distinct
    rw [named]
    rfl

theorem ofNames_of_nodup (distinct : names.Nodup) :
    ofNames names = .ok (ofDistinct names distinct) := by
  obtain ⟨header, named⟩ := exists_ofNames_iff.mpr distinct
  simp only [ofDistinct, named, Except.toOption, Option.get_some]

@[simp] theorem names_ofDistinct (distinct : names.Nodup) :
    (ofDistinct names distinct).names = names :=
  ofNames_eq_ok_iff.mp (ofNames_of_nodup distinct)

/-- A name is found at the position at which it stands. -/
theorem indexOf?_eq_some_iff :
    header.indexOf? name = some position ↔ header.names[position]? = some name :=
  header.isInverse name position

theorem indexOf?_eq_none_iff : header.indexOf? name = none ↔ name ∉ header.names :=
  header.isInverse.indexOf?_eq_none_iff

/-- The name that is shown for the position of a name is this name. -/
theorem nameAt_of_getElem? (stands : header.names[position]? = some name) :
    header.nameAt position = name := by
  rw [nameAt, stands, Option.getD_some]

theorem require_eq_ok_iff :
    header.require family name = .ok position ↔ header.indexOf? name = some position := by
  rw [require]
  cases header.indexOf? name <;> simp

theorem require_eq_error_iff :
    header.require family name = .error failure ↔
      failure = .missingColumn family name ∧ header.indexOf? name = none := by
  rw [require]
  cases header.indexOf? name <;> simp [eq_comm]

end

/-- Names are a header exactly when they are distinct. The header then has these names in their
order and finds each of them at its position and at no other, and where a column of another name is
required it is missing. Names that are no header are refused for the leftmost one that stands
further left as well. -/
theorem names_and_positions_correspond (names : List String) :
    ((∃ header, ofNames names = .ok header) ↔ names.Nodup) ∧
    (∀ header, ofNames names = .ok header →
      header.names = names ∧
      (∀ name position, header.indexOf? name = some position ↔ names[position]? = some name) ∧
      ∀ family name,
        (∀ position, header.require family name = .ok position ↔ names[position]? = some name) ∧
        ∀ failure, header.require family name = .error failure ↔
          failure = .missingColumn family name ∧ name ∉ names) ∧
    ∀ failure, ofNames names = .error failure ↔
      ∃ position name, IsLeast {position | IsRepeat names position} position ∧
        names[position]? = some name ∧ failure = .duplicateColumn name := by
  refine ⟨?_, ?_, fun failure => ?_⟩
  · exact exists_ofNames_iff
  · intro header named
    obtain rfl := ofNames_eq_ok_iff.mp named
    refine ⟨rfl, fun name position => indexOf?_eq_some_iff, fun family name =>
      ⟨fun position => require_eq_ok_iff.trans indexOf?_eq_some_iff, fun failure => ?_⟩⟩
    rw [require_eq_error_iff, indexOf?_eq_none_iff]
  · rw [ofNames_eq_error_iff]
    constructor
    · rintro ⟨before, name, after, split_eq, distinct, among, refusal⟩
      obtain ⟨least, stands⟩ := isLeast_isRepeat_iff.mpr
        ⟨before, after, split_eq, rfl, distinct, among⟩
      exact ⟨before.length, name, least, stands, refusal⟩
    · rintro ⟨position, name, least, stands, refusal⟩
      obtain ⟨before, after, split_eq, -, distinct, among⟩ :=
        isLeast_isRepeat_iff.mp ⟨least, stands⟩
      exact ⟨before, name, after, split_eq, distinct, among, refusal⟩

/-- Of two repeats the one further left is refused, although its name first stands behind the other
one. -/
example : ofNames ["Country", "Partner", "Message", "Partner", "Country"] =
    .error (.duplicateColumn "Partner") := by
  rfl

end Header

end PaymentRules
