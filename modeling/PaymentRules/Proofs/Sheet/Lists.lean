import PaymentRules.RuleRow
import PaymentRules.Proofs.Constant
import PaymentRules.Proofs.Except

/-!
# Lists down a column

The values of a list stand one below the other, from the first row on. Then the rows with some text
in the column are the topmost ones, and each of them has a value. A list that is not read has a row
that is wrong: it names no constant, or it has some text below a row without any. The topmost row
that is wrong is the error.

## Main definitions

* `StandOnTop` — the members of a list that pass a test are the first ones
* `RuleRow.filled` — the rows with some text in a column
* `RuleRow.Offends` — a row that is wrong below the rows above it

## Main results

* `RuleRow.columnList_eq_ok_iff`, `RuleRow.columnList_eq_error_iff` — when a list is read, and what
  is wrong with one that is not
-/

namespace PaymentRules

section

variable {α : Type} {test other : α → Bool} {first : α} {members : List α}

/-- The members that pass the test are the first ones, however many. -/
def StandOnTop (test : α → Bool) (members : List α) : Prop :=
  ∃ n : Nat, ∀ (i : Nat) (member : α), members[i]? = some member → (test member = true ↔ i < n)

theorem standOnTop_nil : StandOnTop test [] :=
  ⟨0, nofun⟩

/-- Below a member that does not pass, no other does. -/
theorem standOnTop_cons_of_not (fails : test first = false) :
    StandOnTop test (first :: members) ↔ ∀ member ∈ members, test member = false := by
  constructor
  · rintro ⟨n, passes⟩ member listed
    have nobody : ¬ 0 < n := fun some_pass => by
      rw [(passes 0 first rfl).mpr some_pass] at fails
      cases fails
    obtain ⟨i, at_i⟩ := List.getElem?_of_mem listed
    refine Bool.eq_false_iff.mpr fun pass => nobody ?_
    exact Nat.zero_lt_of_lt ((passes (i + 1) member at_i).mp pass)
  · intro none_pass
    refine ⟨0, fun i member at_i => ?_⟩
    have not_pass : test member = false := by
      rcases List.mem_cons.mp (List.mem_of_getElem? at_i) with rfl | later
      · exact fails
      · exact none_pass member later
    simp [not_pass]

/-- Below a member that passes, the others stand as they do without it. -/
theorem standOnTop_cons_of_pass (passes : test first = true) :
    StandOnTop test (first :: members) ↔ StandOnTop test members := by
  constructor
  · rintro ⟨n, each⟩
    have opens : 0 < n := (each 0 first rfl).mp passes
    refine ⟨n - 1, fun i member at_i => ?_⟩
    rw [each (i + 1) member at_i]
    omega
  · rintro ⟨n, each⟩
    refine ⟨n + 1, fun i member at_i => ?_⟩
    cases i with
    | zero =>
      obtain rfl := Option.some.inj at_i
      simp [passes]
    | succ i =>
      rw [each i member at_i]
      omega

/-- Of two tests, what passes one or the other is on top when what passes either is. -/
theorem StandOnTop.or (top : StandOnTop test members) (top' : StandOnTop other members) :
    StandOnTop (fun member => test member || other member) members := by
  obtain ⟨n, each⟩ := top
  obtain ⟨m, each'⟩ := top'
  refine ⟨max n m, fun i member at_i => ?_⟩
  rw [Bool.or_eq_true, each i member at_i, each' i member at_i]
  omega

/-- When a wider test is passed on top, what passes the narrower one may be looked for there. -/
theorem StandOnTop.filter_iff (top : StandOnTop other members)
    (narrower : ∀ member, test member = true → other member = true) :
    StandOnTop test (members.filter other) ↔ StandOnTop test members := by
  induction members with
  | nil => rfl
  | cons first members ih =>
    cases wide : other first with
    | true =>
      rw [List.filter_cons_of_pos wide]
      have later := (standOnTop_cons_of_pass wide).mp top
      cases passes : test first with
      | true => rw [standOnTop_cons_of_pass passes, standOnTop_cons_of_pass passes, ih later]
      | false =>
        rw [standOnTop_cons_of_not passes, standOnTop_cons_of_not passes]
        refine ⟨fun none_pass member listed => Bool.eq_false_iff.mpr fun pass => ?_, fun none_pass
          member listed => none_pass member (List.mem_of_mem_filter listed)⟩
        have kept := List.mem_filter.mpr ⟨listed, narrower member pass⟩
        rw [none_pass member kept] at pass
        cases pass
    | false =>
      -- Nobody passes the wider test, and so nobody passes the narrower one.
      have none_wide : ∀ member ∈ first :: members, other member = false :=
        List.forall_mem_cons.mpr ⟨wide, (standOnTop_cons_of_not wide).mp top⟩
      have none_kept : (first :: members).filter other = [] :=
        List.filter_eq_nil_iff.mpr fun member listed => by simp [none_wide member listed]
      rw [none_kept]
      refine iff_of_true standOnTop_nil ⟨0, fun i member at_i => ?_⟩
      refine iff_of_false (fun pass => ?_) (Nat.not_lt_zero i)
      have wide := narrower member pass
      rw [none_wide member (List.mem_of_getElem? at_i)] at wide
      cases wide

end

namespace RuleRow

variable {κ : Type} {column : κ} {row : RuleRow κ} {rows above : List (RuleRow κ)}
  {values : List String} {failure : LoadError}

/-- Whether the row has some text in a column. -/
def isFilled (column : κ) (row : RuleRow κ) : Bool :=
  row.cell column != ""

theorem isFilled_iff : row.isFilled column = true ↔ row.cell column ≠ "" :=
  bne_iff_ne

theorem isFilled_eq_false_iff : row.isFilled column = false ↔ row.cell column = "" := by
  rw [isFilled, bne_eq_false_iff_eq]

/-- The rows with some text in a column. -/
def filled (column : κ) (rows : List (RuleRow κ)) : List (RuleRow κ) :=
  rows.filter (isFilled column)

/-- The rows stand for the values of a list, each by what is written in the column. -/
def Stand (column : κ) (rows : List (RuleRow κ)) (values : List String) : Prop :=
  List.Forall₂ (fun row value => Constant.StandsFor (row.cell column) value) rows values

theorem exists_stand_iff :
    (∃ values, Stand column rows values) ↔
      ∀ row ∈ rows, ∃ value, Constant.StandsFor (row.cell column) value := by
  induction rows with
  | nil => exact iff_of_true ⟨[], .nil⟩ nofun
  | cons row rows ih =>
    rw [List.forall_mem_cons, ← ih]
    constructor
    · rintro ⟨values, stand⟩
      obtain ⟨value, later, stands, stand, -⟩ := List.forall₂_cons_left_iff.mp stand
      exact ⟨⟨value, stands⟩, later, stand⟩
    · rintro ⟨⟨value, stands⟩, later, stand⟩
      exact ⟨value :: later, .cons stands stand⟩

variable [RuleColumn κ]

/-- What is wrong with a row of a list, given the rows above it. As long as the list goes on a name
has to be known, and below a row without any text the list has ended. -/
inductive Offends (column : κ) (above : List (RuleRow κ)) (row : RuleRow κ) : LoadError → Prop
  | unknown (goes_on : ∀ earlier ∈ above, earlier.cell column ≠ "")
      (unknown : Constant.IsUnknown (row.cell column)) :
      Offends column above row (.unknownConstant (row.cell column) row.line)
  | detached (ended : ∃ earlier ∈ above, earlier.cell column = "")
      (filled : row.cell column ≠ "") :
      Offends column above row
        (row.flaw (.detachedValue (row.cell column) (row.columnName column)))

/-- A list is read when its rows with some text are on top and stand for the values. -/
theorem columnList_eq_ok_iff :
    columnList column rows = .ok values ↔
      StandOnTop (isFilled column) rows ∧ Stand column (filled column rows) values := by
  induction rows generalizing values with
  | nil =>
    rw [columnList, Except.ok.injEq, filled, List.filter_nil, Stand, List.forall₂_nil_left_iff]
    exact ⟨fun same => ⟨standOnTop_nil, same.symm⟩, fun same => same.2.symm⟩
  | cons row rows ih =>
    rw [columnList, filled]
    split
    · next empty =>
      have unfilled : row.isFilled column = false := isFilled_eq_false_iff.mpr empty
      rw [standOnTop_cons_of_not unfilled, List.filter_cons_of_neg (by simp [unfilled])]
      split
      · next later found =>
        -- Some text below the end of the list.
        refine iff_of_false nofun fun ⟨none_below, _⟩ => ?_
        have full := List.find?_some found
        rw [isFilled_eq_false_iff.mp (none_below later (List.mem_of_find?_eq_some found))] at full
        simp at full
      · next missing =>
        have none_below : ∀ later ∈ rows, later.isFilled column = false := by
          simpa [isFilled] using missing
        have nothing : rows.filter (isFilled column) = [] :=
          List.filter_eq_nil_iff.mpr fun later listed => by simp [none_below later listed]
        rw [nothing, Stand, List.forall₂_nil_left_iff, Except.ok.injEq]
        exact ⟨fun same => ⟨none_below, same.symm⟩, fun same => same.2.symm⟩
    · next full =>
      have passes : row.isFilled column = true := isFilled_iff.mpr full
      rw [standOnTop_cons_of_pass passes, List.filter_cons_of_pos passes, Stand,
        List.forall₂_cons_left_iff]
      simp only [Except.bind_eq_ok_iff, Except.pure_eq_ok, Except.ok.injEq,
        Constant.resolve_eq_ok_iff, ih]
      constructor
      · rintro ⟨value, stands, later, ⟨top, stand⟩, rfl⟩
        exact ⟨top, value, later, stands, stand, rfl⟩
      · rintro ⟨top, value, later, stands, stand, rfl⟩
        exact ⟨value, stands, later, ⟨top, stand⟩, rfl⟩

/-- Whether a list is read at all. -/
theorem exists_columnList_iff :
    (∃ values, columnList column rows = .ok values) ↔
      StandOnTop (isFilled column) rows ∧
        ∀ row ∈ filled column rows, ∃ value, Constant.StandsFor (row.cell column) value := by
  simp only [columnList_eq_ok_iff, exists_and_left, exists_stand_iff]

theorem offends_nil_iff :
    Offends column [] row failure ↔
      Constant.resolve (row.cell column) row.line = .error failure := by
  rw [Constant.resolve_eq_error_iff_isUnknown]
  constructor
  · rintro (⟨-, unknown⟩ | ⟨⟨earlier, impossible, -⟩, -⟩)
    · exact ⟨rfl, unknown⟩
    · cases impossible
  · rintro ⟨rfl, unknown⟩
    exact .unknown nofun unknown

/-- A row of a list makes no difference to what is wrong below it. -/
theorem offends_cons_iff {first : RuleRow κ} (full : first.cell column ≠ "") :
    Offends column (first :: above) row failure ↔ Offends column above row failure := by
  constructor
  · rintro (⟨goes_on, unknown⟩ | ⟨⟨earlier, listed, empty⟩, filled⟩)
    · exact .unknown (fun earlier listed => goes_on earlier (List.mem_cons_of_mem _ listed)) unknown
    · rcases List.mem_cons.mp listed with rfl | later
      · exact absurd empty full
      · exact .detached ⟨earlier, later, empty⟩ filled
  · rintro (⟨goes_on, unknown⟩ | ⟨⟨earlier, listed, empty⟩, filled⟩)
    · exact .unknown (List.forall_mem_cons.mpr ⟨full, goes_on⟩) unknown
    · exact .detached ⟨earlier, List.mem_cons_of_mem _ listed, empty⟩ filled

/-- Below the end of a list the first row with some text is wrong. -/
theorem offends_cons_iff_of_empty {first : RuleRow κ} (empty : first.cell column = "") :
    Offends column (first :: above) row failure ↔
      row.cell column ≠ "" ∧
        failure = row.flaw (.detachedValue (row.cell column) (row.columnName column)) := by
  constructor
  · rintro (⟨goes_on, -⟩ | ⟨-, filled⟩)
    · exact absurd empty (goes_on first List.mem_cons_self)
    · exact ⟨filled, rfl⟩
  · rintro ⟨filled, rfl⟩
    exact .detached ⟨first, List.mem_cons_self, empty⟩ filled

/-- A list that is not read has a row that is wrong, and would be read down to there. -/
theorem exists_offends_of_columnList (failed : columnList column rows = .error failure) :
    ∃ above row below, rows = above ++ row :: below ∧
      (∃ values, columnList column above = .ok values) ∧ Offends column above row failure := by
  induction rows with
  | nil => cases failed
  | cons first rows ih =>
    rw [columnList] at failed
    split at failed
    · next empty =>
      split at failed
      · next later found =>
        obtain ⟨filled, above, below, rfl, unfilled⟩ := List.find?_eq_some_iff_append.mp found
        obtain rfl := Except.error.inj failed
        refine ⟨first :: above, later, below, rfl, ⟨[], ?_⟩, ?_⟩
        · have nobody : above.find? (fun row => row.cell column ≠ "") = none :=
            List.find?_eq_none.mpr fun row listed => by simpa using unfilled row listed
          simp only [columnList, if_pos empty, nobody]
        · exact (offends_cons_iff_of_empty empty).mpr ⟨by simpa using filled, rfl⟩
      · cases failed
    · next full =>
      rw [Except.bind_eq_error_iff] at failed
      rcases failed with refused | ⟨value, resolved, failed⟩
      · exact ⟨[], first, rows, rfl, ⟨[], rfl⟩, offends_nil_iff.mpr refused⟩
      · rw [Except.bind_eq_error_iff] at failed
        obtain failed | ⟨_, -, impossible⟩ := failed
        · obtain ⟨above, row, below, rfl, ⟨values, read⟩, offends⟩ := ih failed
          refine ⟨first :: above, row, below, rfl, ⟨value :: values, ?_⟩,
            (offends_cons_iff full).mpr offends⟩
          rw [columnList, if_neg full, resolved, Except.ok_bind, read]
          rfl
        · cases impossible

/-- A row that is wrong is the error, when the rows above it would be read. -/
theorem columnList_of_offends {below : List (RuleRow κ)}
    (read : columnList column above = .ok values) (offends : Offends column above row failure) :
    columnList column (above ++ row :: below) = .error failure := by
  induction above generalizing values with
  | nil =>
    have refused := offends_nil_iff.mp offends
    have full : row.cell column ≠ "" := fun empty => by
      rw [empty] at refused
      cases refused
    rw [List.nil_append, columnList, if_neg full, refused]
    rfl
  | cons first above ih =>
    rw [List.cons_append]
    by_cases empty : first.cell column = ""
    · obtain ⟨filled, rfl⟩ := (offends_cons_iff_of_empty empty).mp offends
      -- No row above has some text, so this one is the first that is found.
      have unfilled := (standOnTop_cons_of_not (isFilled_eq_false_iff.mpr empty)).mp
        (columnList_eq_ok_iff.mp read).1
      have found : (above ++ row :: below).find? (fun row => row.cell column ≠ "") = some row :=
        List.find?_eq_some_iff_append.mpr
          ⟨by simpa using filled, above, below, rfl, fun earlier listed => by
            simpa using isFilled_eq_false_iff.mp (unfilled earlier listed)⟩
      simp only [columnList, if_pos empty, found]
    · rw [columnList, if_neg empty] at read ⊢
      simp only [Except.bind_eq_ok_iff] at read
      obtain ⟨value, resolved, later, read, -⟩ := read
      rw [resolved, Except.ok_bind, ih read ((offends_cons_iff empty).mp offends)]
      rfl

/-- A list is not read when some row is wrong and those above it would be read. -/
theorem columnList_eq_error_iff :
    columnList column rows = .error failure ↔
      ∃ above row below, rows = above ++ row :: below ∧
        (∃ values, columnList column above = .ok values) ∧ Offends column above row failure := by
  constructor
  · exact exists_offends_of_columnList
  · rintro ⟨above, row, below, rfl, ⟨values, read⟩, offends⟩
    exact columnList_of_offends read offends

/-- A list that is read is read down to any of its rows. -/
theorem exists_columnList_of_append {below : List (RuleRow κ)}
    (read : ∃ values, columnList column (above ++ below) = .ok values) :
    ∃ values, columnList column above = .ok values := by
  rw [exists_columnList_iff] at read ⊢
  obtain ⟨⟨n, each⟩, stands⟩ := read
  refine ⟨⟨n, fun i row at_i => each i row ?_⟩, fun row listed => stands row ?_⟩
  · rwa [List.getElem?_append_left (List.getElem?_eq_some_iff.mp at_i).1]
  · rw [filled, List.filter_append]
    exact List.mem_append_left _ listed

/-- A list is read when no row is wrong for what stands above it. -/
theorem exists_columnList_iff_not_offends :
    (∃ values, columnList column rows = .ok values) ↔
      ∀ above row below failure, rows = above ++ row :: below →
        ¬ Offends column above row failure := by
  constructor
  · rintro ⟨values, read⟩ above row below failure rfl offends
    obtain ⟨_, read_above⟩ := exists_columnList_of_append ⟨values, read⟩
    rw [columnList_of_offends read_above offends] at read
    cases read
  · intro nobody
    cases read : columnList column rows with
    | ok values => exact ⟨values, rfl⟩
    | error failure =>
      obtain ⟨above, row, below, split_eq, -, offends⟩ := exists_offends_of_columnList read
      exact absurd offends (nobody above row below failure split_eq)

end RuleRow

end PaymentRules
