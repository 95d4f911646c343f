import PaymentRules.ClientRules.Sheet
import PaymentRules.Proofs.Component.Headed
import PaymentRules.Proofs.Component.Walk
import PaymentRules.Proofs.Sheet.Lists
import PaymentRules.Proofs.Sheet.Names

/-!
# The payment methods of a group

The families, types and countries of a group are three lists side by side, each of its own length,
and filters may stand in the same rows. The rows with some text in any of the three columns have to
stand one below the other from the first row of the group on, and the three lists are read down
them. That comes to one condition for each column by itself: its rows with some text are the topmost
ones of the group. Then no value of the group is left out, however many rows the group has.

## Main definitions

* `Dimension.Allows` — a dimension of the values that stand in a column

## Main results

* `Methods.ofGroup_eq_ok_iff` — three lists down all rows of the group
* `methods_are_complete` — when the payment methods of a group are read, and what they are
-/

namespace PaymentRules

/-- The dimension allows the values that stand in a column of the rows, in their order, or is
unconstrained because there are none. -/
def Dimension.Allows {κ : Type} (column : κ) (rows : List (RuleRow κ)) : Dimension → Prop
  | .any => RuleRow.filled column rows = []
  | .oneOf values _ => RuleRow.Stand column (RuleRow.filled column rows) values
  | .noneOf _ _ => False

theorem Dimension.allows_ofValues {κ : Type} {column : κ} {rows : List (RuleRow κ)}
    {values : List String} (stand : RuleRow.Stand column (RuleRow.filled column rows) values) :
    (ofValues values true).Allows column rows := by
  by_cases nothing : values = []
  · subst nothing
    exact List.forall₂_nil_right_iff.mp stand
  · rw [ofValues, dif_neg nothing, if_pos rfl]
    exact stand

namespace ClientRules

/-! ## The rows of the payment methods -/

section

variable (start : Nat) (rows : List SheetRow)

/-- The payment methods of a group with these rows. -/
abbrev methodsFrom : List (SheetRow × Component SheetRow) :=
  (groupGrammar.parseAt start rows).anchored methodGrammar.name

theorem methodsFrom_nil : methodsFrom start [] = [] := rfl

/-- The payment methods are the rows with some text, each at its own position. -/
theorem methodsFrom_cons (row : SheetRow) :
    methodsFrom start (row :: rows) =
      if methodGrammar.keeps row then
        (row, methodGrammar.parseAt start [row]) :: methodsFrom (start + 1) rows
      else methodsFrom (start + 1) rows :=
  anchored_cons_of_single (fun _ _ => rfl) (show _ = some methodGrammar from rfl) start row rows

theorem rows_methodsFrom :
    (methodsFrom start rows).flatMap (·.2.rows) = rows.filter methodGrammar.keeps := by
  induction rows generalizing start with
  | nil => rfl
  | cons row rows ih =>
    rw [methodsFrom_cons]
    cases kept : methodGrammar.keeps row <;> simp [kept, ih]

theorem methodsFrom_eq_nil_iff :
    methodsFrom start rows = [] ↔ ∀ row ∈ rows, methodGrammar.keeps row = false := by
  induction rows generalizing start with
  | nil => simp [methodsFrom_nil]
  | cons row rows ih =>
    rw [methodsFrom_cons, List.forall_mem_cons]
    cases kept : methodGrammar.keeps row <;> simp [ih]

theorem start_le_of_mem_methodsFrom {method : SheetRow × Component SheetRow}
    (listed : method ∈ methodsFrom start rows) : start ≤ method.2.start := by
  induction rows generalizing start with
  | nil => cases listed
  | cons row rows ih =>
    rw [methodsFrom_cons] at listed
    split at listed
    · rcases List.mem_cons.mp listed with rfl | later
      · rw [start_parseAt]
      · exact (Nat.le_succ start).trans (ih (start + 1) later)
    · exact (Nat.le_succ start).trans (ih (start + 1) listed)

/-- Nothing comes between the components when each starts one position behind the one before. -/
theorem interruption?_cons_eq_none_iff {one : SheetRow × Component SheetRow}
    {later : List (SheetRow × Component SheetRow)} :
    interruption? (one :: later) = none ↔
      (∀ next ∈ later.head?, next.2.start = one.2.start + 1) ∧ interruption? later = none := by
  cases later with
  | nil => simp [interruption?]
  | cons next later =>
    rw [interruption?]
    split
    · next behind => simp [behind]
    · next apart => simp [apart]

/-- The payment methods stand without a gap from the first row on when the rows with some text are
the topmost ones. -/
theorem standOnTop_iff_methodsFrom :
    StandOnTop methodGrammar.keeps rows ↔
      (∀ one ∈ (methodsFrom start rows).head?, one.2.start = start) ∧
        interruption? (methodsFrom start rows) = none := by
  induction rows generalizing start with
  | nil => exact iff_of_true standOnTop_nil ⟨nofun, rfl⟩
  | cons row rows ih =>
    rw [methodsFrom_cons]
    cases kept : methodGrammar.keeps row with
    | true =>
      rw [standOnTop_cons_of_pass kept, ih (start + 1), if_pos rfl,
        interruption?_cons_eq_none_iff]
      simp
    | false =>
      -- The methods stand below this row, so they would start late if there were any.
      rw [standOnTop_cons_of_not kept, ← methodsFrom_eq_nil_iff (start + 1),
        if_neg Bool.false_ne_true]
      constructor
      · intro nothing
        rw [nothing]
        exact ⟨nofun, rfl⟩
      · rintro ⟨on_time, -⟩
        refine List.head?_eq_none_iff.mp (Option.eq_none_iff_forall_ne_some.mpr fun one first => ?_)
        have late := start_le_of_mem_methodsFrom (start + 1) rows (List.mem_of_mem_head? first)
        rw [on_time one first] at late
        omega

end

/-! ## The lists of a group -/

/-- The columns of the payment methods. -/
def methodColumns : List Column :=
  [.family, .type, .country]

section

variable {start : Nat} {rows : List SheetRow} {methods : Methods} {failure : LoadError}

/-- A payment method is a row with some text in one of the three columns. -/
theorem keeps_methodGrammar (row : SheetRow) :
    methodGrammar.keeps row =
      (row.isFilled .family || (row.isFilled .type || row.isFilled .country)) := by
  simp [methodGrammar, Pattern.holds, RuleRow.isFilled, bne]

theorem keeps_of_isFilled {column : Column} (among : column ∈ methodColumns) {row : SheetRow}
    (filled : row.isFilled column = true) : methodGrammar.keeps row = true := by
  rw [keeps_methodGrammar, Bool.or_eq_true, Bool.or_eq_true]
  rcases List.mem_cons.mp among with rfl | among
  · exact .inl filled
  · rcases List.mem_pair.mp among with rfl | rfl
    · exact .inr (.inl filled)
    · exact .inr (.inr filled)

/-- Down the rows of the payment methods the same is read as down all rows of the group. -/
theorem columnList_filter_keeps (top : StandOnTop methodGrammar.keeps rows) {column : Column}
    (among : column ∈ methodColumns) {values : List String} :
    RuleRow.columnList column (rows.filter methodGrammar.keeps) = .ok values ↔
      RuleRow.columnList column rows = .ok values := by
  have narrower : ∀ row : SheetRow, row.isFilled column = true → methodGrammar.keeps row = true :=
    fun _ => keeps_of_isFilled among
  have same : RuleRow.filled column (rows.filter methodGrammar.keeps) =
      RuleRow.filled column rows := by
    rw [RuleRow.filled, List.filter_filter]
    refine List.filter_congr fun row _ => ?_
    cases filled : row.isFilled column with
    | true => rw [narrower row filled, Bool.and_self]
    | false => rw [Bool.false_and]
  rw [RuleRow.columnList_eq_ok_iff, RuleRow.columnList_eq_ok_iff, top.filter_iff narrower, same]

/-- Three lists side by side, each down the same rows. -/
def Methods.ofLists (rows : List SheetRow) : Except LoadError Methods := do
  return {
    family := .ofValues (← RuleRow.columnList .family rows) true
    type := .ofValues (← RuleRow.columnList .type rows) true
    country := .ofValues (← RuleRow.columnList .country rows) true }

theorem Methods.ofLists_eq_ok_iff :
    Methods.ofLists rows = .ok methods ↔
      ∃ families types countries, RuleRow.columnList .family rows = .ok families ∧
        RuleRow.columnList .type rows = .ok types ∧
        RuleRow.columnList .country rows = .ok countries ∧
        methods = ⟨.ofValues families true, .ofValues types true, .ofValues countries true⟩ := by
  simp only [ofLists, Except.bind_eq_ok_iff, Except.pure_eq_ok, Except.ok.injEq]
  constructor
  · rintro ⟨families, family, types, type, countries, country, rfl⟩
    exact ⟨families, types, countries, family, type, country, rfl⟩
  · rintro ⟨families, types, countries, family, type, country, rfl⟩
    exact ⟨families, family, types, type, countries, country, rfl⟩

theorem Methods.exists_columnList_of_ofLists (failed : Methods.ofLists rows = .error failure) :
    ∃ column, RuleRow.columnList column rows = .error failure := by
  simp only [ofLists, Except.bind_eq_error_iff] at failed
  rcases failed with family | ⟨_, -, type | ⟨_, -, country | ⟨_, -, impossible⟩⟩⟩
  · exact ⟨.family, family⟩
  · exact ⟨.type, type⟩
  · exact ⟨.country, country⟩
  · cases impossible

/-- Payment methods that stand on top are three lists. -/
theorem Methods.ofGroup_of_top (top : StandOnTop methodGrammar.keeps rows) :
    Methods.ofGroup (groupGrammar.parseAt start rows) =
      Methods.ofLists (rows.filter methodGrammar.keeps) := by
  obtain ⟨on_time, unbroken⟩ := (standOnTop_iff_methodsFrom start rows).mp top
  rw [← rows_methodsFrom start rows, Methods.ofGroup]
  cases found : methodsFrom start rows with
  | nil =>
    simp only [found]
    rfl
  | cons one later =>
    rw [found] at on_time unbroken
    have at_start : one.2.start = (groupGrammar.parseAt start rows).start := by
      rw [start_parseAt, on_time one rfl]
    simp only [found, unbroken, at_start, ne_eq, not_true_eq_false, if_false]
    rfl

/-- Payment methods that do not stand on top have a flaw. -/
theorem Methods.ofGroup_of_not_top (start : Nat)
    (scattered : ¬ StandOnTop methodGrammar.keeps rows) :
    ∃ row : SheetRow, ∃ flaw,
      Methods.ofGroup (groupGrammar.parseAt start rows) = .error (row.flaw flaw) := by
  rw [standOnTop_iff_methodsFrom start rows] at scattered
  rw [Methods.ofGroup]
  cases found : methodsFrom start rows with
  | nil =>
    rw [found] at scattered
    exact absurd ⟨nofun, rfl⟩ scattered
  | cons one later =>
    rw [found] at scattered
    simp only [found, start_parseAt]
    by_cases on_time : one.2.start = start
    · cases broken : interruption? (one :: later) with
      | none => exact absurd ⟨fun _ first => Option.some.inj first ▸ on_time, broken⟩ scattered
      | some row =>
        rw [if_neg (not_not_intro on_time)]
        exact ⟨row, .methodsInterrupted, rfl⟩
    · rw [if_pos on_time]
      exact ⟨one.1, .methodsStartLate, rfl⟩

/-- Lists that are read stand on top, and so do the rows with some text in one of them. -/
theorem standOnTop_of_ofLists (read : Methods.ofLists rows = .ok methods) :
    StandOnTop methodGrammar.keeps rows := by
  obtain ⟨families, types, countries, family, type, country, -⟩ :=
    Methods.ofLists_eq_ok_iff.mp read
  have tops := ((RuleRow.columnList_eq_ok_iff.mp family).1).or
    (((RuleRow.columnList_eq_ok_iff.mp type).1).or (RuleRow.columnList_eq_ok_iff.mp country).1)
  rwa [← funext keeps_methodGrammar] at tops

/-- The payment methods of a group are three lists, each down all rows of the group. -/
theorem Methods.ofGroup_eq_ok_iff :
    Methods.ofGroup (groupGrammar.parseAt start rows) = .ok methods ↔
      Methods.ofLists rows = .ok methods := by
  by_cases top : StandOnTop methodGrammar.keeps rows
  · have family : Column.family ∈ methodColumns := by decide
    have type : Column.type ∈ methodColumns := by decide
    have country : Column.country ∈ methodColumns := by decide
    rw [ofGroup_of_top top, ofLists_eq_ok_iff, ofLists_eq_ok_iff]
    simp only [columnList_filter_keeps top family, columnList_filter_keeps top type,
      columnList_filter_keeps top country]
  · obtain ⟨row, flaw, refused⟩ := ofGroup_of_not_top start top
    rw [refused]
    exact iff_of_false nofun fun read => top (standOnTop_of_ofLists read)

/-- Payment methods that are not read are scattered, or one of their lists is not read. -/
theorem Methods.of_ofGroup_eq_error
    (failed : Methods.ofGroup (groupGrammar.parseAt start rows) = .error failure) :
    (∃ line flaw, failure = .shape (RuleColumn.family Column) line flaw) ∨
      ∃ name line, failure = .unknownConstant name line := by
  by_cases top : StandOnTop methodGrammar.keeps rows
  · rw [ofGroup_of_top top] at failed
    obtain ⟨column, failed⟩ := exists_columnList_of_ofLists failed
    obtain ⟨above, row, below, -, -, offends⟩ := RuleRow.exists_offends_of_columnList failed
    cases offends with
    | unknown => exact .inr ⟨_, _, rfl⟩
    | detached => exact .inl ⟨_, _, rfl⟩
  · obtain ⟨row, flaw, refused⟩ := ofGroup_of_not_top start top
    rw [refused] at failed
    exact .inl ⟨row.line, flaw, (Except.error.inj failed).symm⟩

end

/-! ## Completeness -/

/-- The payment methods of a group of a sheet are read exactly when, in each of the three columns,
the rows of the group with some text are the topmost ones and each of their cells stands for a
value. The families, types and countries are then the values of all cells of the group with some
text, in their order, and unconstrained where there are none. Otherwise the shape is wrong or a
constant is not known. -/
theorem methods_are_complete {rows : List SheetRow} {group : Component SheetRow}
    (listed : group ∈ (grammar.parse rows ⟨0, rows.length⟩).part groupGrammar.name) :
    ((∃ methods, Methods.ofGroup group = .ok methods) ↔
      ∀ column ∈ methodColumns, StandOnTop (RuleRow.isFilled column) group.rows ∧
        ∀ row ∈ RuleRow.filled column group.rows,
          ∃ value, Constant.StandsFor (row.cell column) value) ∧
    (∀ methods, Methods.ofGroup group = .ok methods →
      methods.family.Allows .family group.rows ∧ methods.type.Allows .type group.rows ∧
        methods.country.Allows .country group.rows) ∧
    ∀ failure, Methods.ofGroup group = .error failure →
      (∃ line flaw, failure = .shape "ClientAction" line flaw) ∨
        ∃ name line, failure = .unknownConstant name line := by
  have own : ∃ start, group = groupGrammar.parseAt start group.rows := by
    rw [parse_whole, part_parseAt] at listed
    obtain ⟨tile, -, rfl⟩ := List.mem_map.mp listed
    exact ⟨tile.1, by rw [rows_parseAt]⟩
  obtain ⟨start, own⟩ := own
  generalize group.rows = inner at own ⊢
  subst own
  refine ⟨?_, fun methods read => ?_, fun failure => Methods.of_ofGroup_eq_error⟩
  · simp only [Methods.ofGroup_eq_ok_iff, Methods.ofLists_eq_ok_iff,
      ← RuleRow.exists_columnList_iff]
    constructor
    · rintro ⟨methods, families, types, countries, family, type, country, -⟩ column among
      rcases List.mem_cons.mp among with rfl | among
      · exact ⟨families, family⟩
      · rcases List.mem_pair.mp among with rfl | rfl
        · exact ⟨types, type⟩
        · exact ⟨countries, country⟩
    · intro read
      obtain ⟨families, family⟩ := read .family (by decide)
      obtain ⟨types, type⟩ := read .type (by decide)
      obtain ⟨countries, country⟩ := read .country (by decide)
      exact ⟨_, families, types, countries, family, type, country, rfl⟩
  · obtain ⟨families, types, countries, family, type, country, rfl⟩ :=
      Methods.ofLists_eq_ok_iff.mp (Methods.ofGroup_eq_ok_iff.mp read)
    exact ⟨Dimension.allows_ofValues (RuleRow.columnList_eq_ok_iff.mp family).2,
      Dimension.allows_ofValues (RuleRow.columnList_eq_ok_iff.mp type).2,
      Dimension.allows_ofValues (RuleRow.columnList_eq_ok_iff.mp country).2⟩

/-- A group with three types, two families and one country, and with a filter below all of them.
Then a group that has a type below the end of its list. -/
def methodSheet : Sheet where
  header := .ofDistinct ((Named.all : List Column).map Named.name) nodup_columnNames
  rows := [
    ⟨2, ["Cards", "credit_card", "PaymentMethodType.CreditCardVisa", "us"]⟩,
    ⟨3, ["", "debit_card", "mc", "", "", "", "", "sms", "", "", "Redirect", "RedirectUrl"]⟩,
    ⟨4, ["", "", "amex"]⟩,
    ⟨5, ["", "", "", "", "", "", "", "", "", "", "Redirect", "RedirectServiceLink"]⟩,
    ⟨6, ["Wallets", "ewallet", "", "", "", "", "", "", "", "", "Redirect", "RedirectUrl"]⟩,
    ⟨7, ["", "ewallet", "upi"]⟩]

/-- The types of the first group are read down all of its rows, and those of the second are
refused. -/
theorem methods_are_complete_of_methodSheet :
    ∃ rows one other methods failure, methodSheet.ruleRows Column = .ok rows ∧
      (grammar.parse rows ⟨0, rows.length⟩).part groupGrammar.name = [one, other] ∧
      Methods.ofGroup one = .ok methods ∧ one.rows.length = 4 ∧
      methods.type.display = "visa,mc,amex" ∧ methods.type.Allows .type one.rows ∧
      Methods.ofGroup other = .error failure ∧
      ∃ line flaw, failure = .shape "ClientAction" line flaw := by
  obtain ⟨rows, read⟩ : ∃ rows, methodSheet.ruleRows Column = .ok rows := ⟨_, rfl⟩
  have groups : (((grammar.parse rows ⟨0, rows.length⟩).part groupGrammar.name).map fun group =>
      (group.rows.length, (Methods.ofGroup group).map (·.type.display))) =
        [(4, .ok "visa,mc,amex"),
          (2, .error (.shape "ClientAction" 7 (.detachedValue "upi" "PaymentMethodType")))] := by
    obtain rfl := Except.ok.inj read
    decide +kernel
  obtain ⟨one, later, found, first, groups⟩ := List.map_eq_cons_iff.mp groups
  obtain ⟨other, rest, rfl, second, groups⟩ := List.map_eq_cons_iff.mp groups
  obtain rfl := List.map_eq_nil_iff.mp groups
  rw [Prod.mk.injEq] at first second
  obtain ⟨methods, built, display⟩ := Except.map_eq_ok_iff.mp first.2
  obtain ⟨failure, failed⟩ : ∃ failure, Methods.ofGroup other = .error failure := by
    cases refused : Methods.ofGroup other with
    | ok methods =>
      rw [refused] at second
      cases second.2
    | error failure => exact ⟨failure, rfl⟩
  have listed : ∀ group ∈ [one, other],
      group ∈ (grammar.parse rows ⟨0, rows.length⟩).part groupGrammar.name :=
    fun _ among => found ▸ among
  have shape := (methods_are_complete (listed other (by simp))).2.2 failure failed
  refine ⟨rows, one, other, methods, failure, read, found, built, first.1, display,
    ((methods_are_complete (listed one (by simp))).2.1 methods built).2.1, failed,
    shape.resolve_right ?_⟩
  rintro ⟨name, line, rfl⟩
  rw [failed] at second
  cases second.2

end ClientRules

end PaymentRules
