import PaymentRules.Proofs.Dimension.Cell
import PaymentRules.Proofs.ErrorRules.Codes
import PaymentRules.Proofs.Sheet.Layout
import PaymentRules.Proofs.Sheet.Lists

/-!
# Errors and their causes

A sheet that is refused has to be corrected by hand, so its error has to lead to the cell that is
wrong. Errors are raised from the first row of a component, from a row of a list or from a component
further inside, and the column of one is put in later. Each of them tells the line of a row, and
what it says about the row is what stands there.

For each step of reading a component it is told in which rows it may fail. Steps behind one another
fail where one of them does, and what fails in a part fails in the rows that the part is cut from.

## Main definitions

* `Dimension.Mentions` — a name that is written in a cell
* `RuleRow.IsCause`, `Sheet.HasCause` — what an error says is true of a row, of a sheet
* `FailsIn` — a step that fails only for what is in some rows

## Main results

* `FailsIn.bind`, `failsIn_mapM_anchored` — steps behind one another, and the parts of a component
* `errors_point_at_causes` — what an error says is true of the sheet that is refused
-/

namespace PaymentRules

/-- The name is all that a cell has, or one of the values that are written in it. -/
def Dimension.Mentions (cell name : String) : Prop :=
  name = cell ∨ ∃ text excluded pieces, IsWritten cell text excluded pieces ∧ name ∈ pieces

variable {κ : Type} [RuleColumn κ] {β γ : Type}

/-- What an error says is true of the row, and its line is that of the row. -/
inductive RuleRow.IsCause (row : RuleRow κ) : LoadError → Prop
  | shape (flaw : ShapeFlaw) : row.IsCause (row.flaw flaw)
  | invalid (column : κ) {value : String}
      (written : Text.trim (row.cell column) = Text.trim value) :
      row.IsCause (.invalidValue (row.columnName column) value row.line)
  | unknown (column : κ) {name : String}
      (mentioned : Dimension.Mentions (row.cell column) name)
      (unknown : Constant.IsUnknown name) :
      row.IsCause (.unknownConstant name row.line)

/-- What an error says is true of the sheet, or of one of its rows, whose line it tells. -/
inductive Sheet.HasCause (κ : Type) [RuleColumn κ] (sheet : Sheet) : LoadError → Prop
  /-- The header lacks the column and has every one that is required before it. -/
  | missing {before after : List String} {column : String}
      (required : (Named.all : List κ).map Named.name = before ++ column :: after)
      (present : ∀ earlier ∈ before, earlier ∈ sheet.header.names)
      (absent : column ∉ sheet.header.names) :
      HasCause κ sheet (.missingColumn (RuleColumn.family κ) column)
  | shape {row : Row} (listed : row ∈ sheet.rows) (flaw : ShapeFlaw) :
      HasCause κ sheet (.shape (RuleColumn.family κ) row.line flaw)
  | invalid {row : Row} {i : Nat} {column value : String} (listed : row ∈ sheet.rows)
      (stands : sheet.header.names[i]? = some column)
      (written : Text.trim (row.cell i) = Text.trim value) :
      HasCause κ sheet (.invalidValue column value row.line)
  | unknown {row : Row} {i : Nat} {column name : String} (listed : row ∈ sheet.rows)
      (stands : sheet.header.names[i]? = some column)
      (mentioned : Dimension.Mentions (row.cell i) name)
      (unknown : Constant.IsUnknown name) :
      HasCause κ sheet (.unknownConstant name row.line)

/-! ## Cells -/

theorem Text.trim_trim (s : String) : trim (trim s) = trim s := by
  have trims := trims_trimChars s.toList
  rw [← String.toList_inj, toList_trim, toList_trim, trimChars_eq_self trims.first trims.last]

/-- A cell that is not read mentions an unknown name, or is wrong as it is. -/
theorem Dimension.of_parse_eq_error {cell : String} {line : Nat} {failure : LoadError}
    (failed : parse cell line = .error failure) :
    failure = .invalidValue "" (Text.trim cell) line ∨
      ∃ name, Mentions cell name ∧ Constant.IsUnknown name ∧
        failure = .unknownConstant name line := by
  by_cases blank : Text.Trims cell.toList []
  · rw [parse_of_blank blank] at failed
    cases failed
  · obtain ⟨text, excluded, pieces, written⟩ := exists_isWritten blank
    rw [parse_of_isWritten written line] at failed
    split at failed
    · next refused =>
      obtain ⟨before, piece, after, rfl, -, unknown, rfl⟩ := mapM_resolve_eq_error_iff.mp refused
      obtain rfl := Except.error.inj failed
      exact .inr ⟨piece, .inr ⟨text, excluded, _, written, by simp⟩, unknown, rfl⟩
    · split at failed
      · obtain rfl := Except.error.inj failed
        rw [written.trim_eq]
        exact .inl rfl
      · cases failed

/-! ## Steps -/

/-- Whatever the step fails with, one of the rows is its cause. -/
def FailsIn (rows : List (RuleRow κ)) (step : Except LoadError β) : Prop :=
  ∀ failure, step = .error failure → ∃ row ∈ rows, row.IsCause failure

section

variable {rows own : List (RuleRow κ)} {row : RuleRow κ} {step : Except LoadError β}
  {next : β → Except LoadError γ}

theorem failsIn_ok (rows : List (RuleRow κ)) (b : β) : FailsIn rows (.ok b) :=
  nofun

/-- Steps behind one another fail where one of them does. -/
theorem FailsIn.bind (fails : FailsIn rows step)
    (later : ∀ b, step = .ok b → FailsIn rows (next b)) : FailsIn rows (step >>= next) := by
  intro failure failed
  rcases Except.bind_eq_error_iff.mp failed with here | ⟨b, read, behind⟩
  · exact fails failure here
  · exact later b read failure behind

theorem FailsIn.ite {p : Prop} [Decidable p] {other : Except LoadError β}
    (fails : p → FailsIn rows step) (fails' : ¬ p → FailsIn rows other) :
    FailsIn rows (if p then step else other) := by
  split
  · next true => exact fails true
  · next false => exact fails' false

theorem FailsIn.mono (fails : FailsIn own step) (subset : own ⊆ rows) : FailsIn rows step := by
  intro failure failed
  obtain ⟨row, listed, cause⟩ := fails failure failed
  exact ⟨row, subset listed, cause⟩

/-- A list of values fails in the row that is wrong. -/
theorem failsIn_columnList (column : κ) (rows : List (RuleRow κ)) :
    FailsIn rows (RuleRow.columnList column rows) := by
  intro failure failed
  obtain ⟨above, row, below, rfl, -, offends⟩ := RuleRow.exists_offends_of_columnList failed
  refine ⟨row, by simp, ?_⟩
  cases offends with
  | unknown _ unknown => exact .unknown column (.inl rfl) unknown
  | detached => exact .shape _

section

variable (listed : row ∈ rows)

include listed

theorem failsIn_flaw (flaw : ShapeFlaw) : FailsIn rows (throw (row.flaw flaw) : Except _ β) := by
  rintro _ ⟨⟩
  exact ⟨row, listed, .shape flaw⟩

/-- Nothing is done behind a flaw. -/
theorem failsIn_flaw_bind (flaw : ShapeFlaw) (next : β → Except LoadError γ) :
    FailsIn rows ((throw (row.flaw flaw) : Except _ β) >>= next) :=
  (failsIn_flaw listed flaw).bind fun _ impossible => by cases impossible

theorem failsIn_word (column : κ) (read : String → Option β) :
    FailsIn rows (row.word column read) := by
  intro failure failed
  rw [RuleRow.word] at failed
  split at failed
  · cases failed
  · obtain rfl := Except.error.inj failed
    exact ⟨row, listed, .invalid column rfl⟩

theorem failsIn_constant (column : κ) : FailsIn rows (row.constant column) := by
  intro failure failed
  rw [RuleRow.constant, RuleRow.optional] at failed
  split at failed
  · cases failed
  · next cell full =>
    split at full
    · cases full
    · obtain rfl := Option.some.inj full
      rw [map_eq_pure_bind, Except.bind_eq_error_iff] at failed
      obtain refused | ⟨_, -, impossible⟩ := failed
      · obtain ⟨rfl, unknown⟩ := Constant.resolve_eq_error_iff_isUnknown.mp refused
        exact ⟨row, listed, .unknown column (.inl rfl) unknown⟩
      · cases impossible

/-- The column of the error is put in when a dimension is read. -/
theorem failsIn_dimension (column : κ) : FailsIn rows (row.dimension column) := by
  intro failure failed
  refine ⟨row, listed, ?_⟩
  rw [RuleRow.dimension] at failed
  split at failed
  · next value line refused =>
    obtain rfl := Except.error.inj failed
    obtain same | ⟨name, -, -, other⟩ := Dimension.of_parse_eq_error refused
    · obtain ⟨-, rfl, rfl⟩ := LoadError.invalidValue.inj same
      exact .invalid column (Text.trim_trim _).symm
    · cases other
  · next whole =>
    obtain rfl | ⟨name, mentioned, unknown, rfl⟩ := Dimension.of_parse_eq_error failed
    · exact absurd failed (whole _ _ _)
    · exact .unknown column mentioned unknown

end

/-- What fails in a part of a component fails in the rows of the component. -/
theorem failsIn_mapM_anchored {g : Grammar (RuleRow κ)} {start : Nat} {name : String}
    {read : RuleRow κ × Component (RuleRow κ) → Except LoadError β}
    (each : ∀ first kind position own, own.head? = some first →
      FailsIn own (read (first, Grammar.parseAt kind position own))) :
    FailsIn rows (((g.parseAt start rows).anchored name).mapM read) := by
  intro failure failed
  obtain ⟨before, ⟨first, part⟩, after, split_eq, -, failed⟩ :=
    Except.mapM_eq_error_iff.mp failed
  have listed : (first, part) ∈ (g.parseAt start rows).anchored name := by simp [split_eq]
  obtain ⟨head, kind, position, parsed⟩ := exists_eq_parseAt_of_mem_anchored listed
  -- The part is read from rows of its own, which are among those of the component.
  obtain ⟨row, among, cause⟩ :=
    each first kind position part.rows head failure (parsed ▸ failed)
  have selected := (rows_anchored_sublist g start rows name).subset
  exact ⟨row, selected (List.mem_flatMap.mpr ⟨_, listed, among⟩), cause⟩

end

/-! ## Client-action rules -/

namespace ClientRules

variable {rows : List SheetRow} {first : SheetRow} {start : Nat}

theorem Filter.failsIn_ofRow {row : SheetRow} (listed : row ∈ rows) :
    FailsIn rows (Filter.ofRow row) := by
  rw [Filter.ofRow]
  refine (failsIn_word listed .actionType _).bind fun kind _ => ?_
  refine (failsIn_word listed .context _).bind fun context _ => ?_
  split
  · refine (failsIn_ok rows _).bind fun action _ => ?_
    refine (failsIn_dimension listed .pendingOn).bind fun pendingOn _ => ?_
    refine (failsIn_dimension listed .requestType).bind fun requestType _ => ?_
    refine (failsIn_dimension listed .partner).bind fun partner _ => ?_
    exact (failsIn_constant listed .descriptionType).bind fun description _ => failsIn_ok rows _
  · exact failsIn_flaw_bind listed _ _

/-- The row that interrupts payment methods is the first one of some of them. -/
theorem exists_mem_of_interruption? {methods : List (SheetRow × Component SheetRow)}
    {row : SheetRow} (broken : interruption? methods = some row) :
    ∃ method, (row, method) ∈ methods := by
  induction methods with
  | nil => cases broken
  | cons one later ih =>
    cases later with
    | nil => cases broken
    | cons next later =>
      rw [interruption?] at broken
      split at broken
      · obtain ⟨method, listed⟩ := ih broken
        exact ⟨method, List.mem_cons_of_mem _ listed⟩
      · obtain rfl := Option.some.inj broken
        exact ⟨next.2, by simp⟩

theorem Methods.failsIn_ofGroup (kind : Grammar SheetRow) (start : Nat) (rows : List SheetRow) :
    FailsIn rows (Methods.ofGroup (kind.parseAt start rows)) := by
  have selected := (rows_anchored_sublist kind start rows methodGrammar.name).subset
  have anchor_listed : ∀ first method,
      (first, method) ∈ (kind.parseAt start rows).anchored methodGrammar.name → first ∈ rows := by
    intro first method listed
    have head := (exists_eq_parseAt_of_mem_anchored listed).1
    exact selected (List.mem_flatMap.mpr ⟨_, listed, List.mem_of_mem_head? head⟩)
  rw [Methods.ofGroup]
  split
  · exact failsIn_ok rows _
  · next first one later found =>
    rw [found] at anchor_listed
    refine FailsIn.ite (fun late => ?_) fun on_time => ?_
    · exact failsIn_flaw_bind (anchor_listed first one (by simp)) _ _
    · split
      · next row broken =>
        obtain ⟨method, listed⟩ := exists_mem_of_interruption? broken
        rw [found] at listed
        exact failsIn_flaw (anchor_listed row method listed) _
      · have list_fails : ∀ column, FailsIn rows (RuleRow.columnList column
            (((kind.parseAt start rows).anchored methodGrammar.name).flatMap (·.2.rows))) :=
          fun column => (failsIn_columnList column _).mono selected
        refine (list_fails .family).bind fun families _ => ?_
        refine (list_fails .type).bind fun types _ => ?_
        exact (list_fails .country).bind fun countries _ => failsIn_ok rows _

theorem Group.failsIn_ofComponent (kind : Grammar SheetRow) (opens : rows.head? = some first) :
    FailsIn rows (Group.ofComponent first (kind.parseAt start rows)) := by
  have listed : first ∈ rows := List.mem_of_mem_head? opens
  have filters_fail : FailsIn rows (((kind.parseAt start rows).anchored
      filterGrammar.name).mapM fun filter => Filter.ofRow filter.1) :=
    failsIn_mapM_anchored fun first kind position own head =>
      Filter.failsIn_ofRow (List.mem_of_mem_head? head)
  rw [Group.ofComponent]
  split
  · refine (failsIn_ok rows _).bind fun name _ => filters_fail.bind fun filters _ => ?_
    refine FailsIn.ite (fun empty => ?_) fun nonempty => ?_
    · exact failsIn_flaw_bind listed _ _
    · exact (Methods.failsIn_ofGroup kind start rows).bind fun methods _ => failsIn_ok rows _
  · exact failsIn_flaw_bind listed _ _

theorem failsIn_ofRows (rows : List SheetRow) : FailsIn rows (ofRows rows) := by
  rw [ofRows, parse_whole]
  exact (failsIn_mapM_anchored fun _ kind _ _ => Group.failsIn_ofComponent kind).bind
    fun _ _ => failsIn_ok rows _

end ClientRules

/-! ## Service-error rules -/

namespace ErrorRules

variable {rows : List SheetRow} {first : SheetRow} {start : Nat}

theorem Entry.failsIn_ofComponent (kind : Grammar SheetRow) (opens : rows.head? = some first) :
    FailsIn rows (Entry.ofComponent first (kind.parseAt start rows)) := by
  have listed : first ∈ rows := List.mem_of_mem_head? opens
  rw [Entry.ofComponent, rows_parseAt]
  split
  · refine (failsIn_ok rows _).bind fun message _ => ?_
    refine (failsIn_columnList .errorCode rows).bind fun codes _ => ?_
    refine (failsIn_constant listed .detailsErrorCode).bind fun detail _ => ?_
    exact (failsIn_word listed .clientAction _).bind fun followUp _ => failsIn_ok rows _
  · exact failsIn_flaw_bind listed _ _

/-- A second entry without codes is refused by the line of its own row. -/
theorem EntryTable.failsIn_ofEntries {kind : Grammar SheetRow} {entries : List Entry}
    (listed : first ∈ rows)
    (entries_read : (((kind.parseAt start rows).anchored entryGrammar.name).mapM fun entry =>
      Entry.ofComponent entry.1 entry.2) = .ok entries) :
    FailsIn rows (EntryTable.ofEntries first entries) := by
  intro failure failed
  rcases EntryTable.ofEntries_eq_error_iff.mp failed with ⟨-, rfl⟩ | ⟨second, found, rfl⟩
  · exact ⟨first, listed, .shape _⟩
  · have among : second ∈ entries := List.mem_of_mem_filter (List.mem_of_getElem? found)
    obtain ⟨⟨row, part⟩, anchored, own⟩ := Except.exists_of_mem_mapM entries_read among
    have head := (exists_eq_parseAt_of_mem_anchored anchored).1
    have row_listed : row ∈ rows := (rows_anchored_sublist kind start rows _).subset
      (List.mem_flatMap.mpr ⟨_, anchored, List.mem_of_mem_head? head⟩)
    refine ⟨row, row_listed, ?_⟩
    rw [(Entry.of_ofComponent own).2.2.1]
    exact .shape _

theorem Block.failsIn_ofComponent (kind : Grammar SheetRow) (opens : rows.head? = some first) :
    FailsIn rows (Block.ofComponent first (kind.parseAt start rows)) := by
  have listed : first ∈ rows := List.mem_of_mem_head? opens
  have entries_fail : FailsIn rows (((kind.parseAt start rows).anchored
      entryGrammar.name).mapM fun entry => Entry.ofComponent entry.1 entry.2) :=
    failsIn_mapM_anchored fun _ kind _ _ => Entry.failsIn_ofComponent kind
  rw [Block.ofComponent, rows_parseAt]
  refine entries_fail.bind fun entries entries_read => ?_
  refine (failsIn_dimension listed .family).bind fun family _ => ?_
  refine (failsIn_columnList .type rows).bind fun types _ => ?_
  refine (failsIn_columnList .country rows).bind fun countries _ => ?_
  refine (failsIn_columnList .partner rows).bind fun partners _ => ?_
  exact (EntryTable.failsIn_ofEntries listed entries_read).bind fun table _ => failsIn_ok rows _

theorem Section.failsIn_ofComponent (kind : Grammar SheetRow) (opens : rows.head? = some first) :
    FailsIn rows (Section.ofComponent first (kind.parseAt start rows)) := by
  have listed : first ∈ rows := List.mem_of_mem_head? opens
  have blocks_fail : FailsIn rows (((kind.parseAt start rows).anchored
      blockGrammar.name).mapM fun block => Block.ofComponent block.1 block.2) :=
    failsIn_mapM_anchored fun _ kind _ _ => Block.failsIn_ofComponent kind
  rw [Section.ofComponent]
  refine blocks_fail.bind fun blocks _ => ?_
  refine (failsIn_word listed .resourceAction _).bind fun action _ => ?_
  refine FailsIn.ite (fun empty => ?_) fun nonempty => ?_
  · exact failsIn_flaw_bind listed _ _
  · exact failsIn_ok rows _

theorem failsIn_ofRows (rows : List SheetRow) : FailsIn rows (ofRows rows) := by
  rw [ofRows, parse_whole]
  exact (failsIn_mapM_anchored fun _ kind _ _ => Section.failsIn_ofComponent kind).bind
    fun _ _ => failsIn_ok rows _

end ErrorRules

/-! ## Sheets -/

section

variable {sheet : Sheet} {failure : LoadError}

/-- Rows cannot be seen by a family when the header lacks one of its columns. -/
theorem Sheet.hasCause_of_ruleRows (failed : sheet.ruleRows κ = .error failure) :
    HasCause κ sheet failure := by
  rw [ruleRows, Except.bind_eq_error_iff] at failed
  obtain failed | ⟨_, -, impossible⟩ := failed
  · obtain ⟨before, column, after, all_eq, present, missing⟩ := Except.forM_eq_error_iff.mp failed
    simp only [Header.discard_require] at present missing
    split at missing
    · cases missing
    · next absent =>
      obtain rfl := Except.error.inj missing
      have required : (Named.all : List κ).map Named.name =
          before.map Named.name ++ Named.name column :: after.map Named.name := by
        rw [all_eq, List.map_append, List.map_cons]
      refine .missing required (fun earlier listed => ?_) absent
      obtain ⟨column, among, rfl⟩ := List.mem_map.mp listed
      by_contra not_there
      have done := present column among
      rw [if_neg not_there] at done
      cases done
  · cases impossible

/-- A family that sees the rows of a sheet finds each of its columns. -/
theorem Sheet.exists_getElem?_of_ruleRows {rows : List (RuleRow κ)}
    (read : sheet.ruleRows κ = .ok rows) {column : κ} (among : column ∈ (Named.all : List κ)) :
    ∃ i : Nat, sheet.header.names[i]? = some (Named.name column) := by
  rw [ruleRows, Except.bind_eq_ok_iff] at read
  obtain ⟨⟨⟩, required, -⟩ := read
  have present := Except.forM_eq_ok_iff.mp required column among
  rw [Header.discard_require] at present
  split at present
  · next listed => exact List.getElem?_of_mem listed
  · cases present

/-- What an error says of a row as the family sees it, it says of the row. -/
theorem Sheet.hasCause_of_isCause (complete : ∀ column : κ, column ∈ (Named.all : List κ))
    {rows : List (RuleRow κ)} (read : sheet.ruleRows κ = .ok rows) {row : RuleRow κ}
    (listed : row ∈ rows) (cause : row.IsCause failure) : HasCause κ sheet failure := by
  have stands (column : κ) := exists_getElem?_of_ruleRows read (complete column)
  rw [eq_map_of_ruleRows read] at listed
  obtain ⟨stored, among, rfl⟩ := List.mem_map.mp listed
  cases cause with
  | shape flaw => exact .shape among flaw
  | invalid column written =>
    obtain ⟨i, at_column⟩ := stands column
    rw [cell_ruleRow_of_getElem? at_column] at written
    rw [columnName_ruleRow_of_getElem? at_column]
    exact .invalid among at_column written
  | unknown column mentioned unknown =>
    obtain ⟨i, at_column⟩ := stands column
    rw [cell_ruleRow_of_getElem? at_column] at mentioned
    exact .unknown among at_column mentioned unknown

/-- What is read from the rows fails for what the sheet has. -/
theorem Sheet.hasCause_of_failsIn (complete : ∀ column : κ, column ∈ (Named.all : List κ))
    {read : List (RuleRow κ) → Except LoadError β} (fails : ∀ rows, FailsIn rows (read rows))
    (failed : (sheet.ruleRows κ >>= read) = .error failure) : HasCause κ sheet failure := by
  rcases Except.bind_eq_error_iff.mp failed with unseen | ⟨rows, seen, failed⟩
  · exact hasCause_of_ruleRows unseen
  · obtain ⟨row, listed, cause⟩ := fails rows failure failed
    exact hasCause_of_isCause complete seen listed cause

end

/-- A sheet is refused, as client-action rules or as service-error rules, for a column that its
header lacks, the first one in the order of the family, or for what stands in one of its rows. A
misshapen row is told by its line, a value that is not understood by the line, the column and the
text of its cell, and an unknown constant by the line and its name, which stands in a cell there
alone or in a list. -/
theorem errors_point_at_causes (sheet : Sheet) (failure : LoadError) :
    (ClientRules.ofSheet sheet = .error failure →
      sheet.HasCause ClientRules.Column failure) ∧
    (ErrorRules.ofSheet sheet = .error failure →
      sheet.HasCause ErrorRules.Column failure) := by
  constructor
  · refine Sheet.hasCause_of_failsIn (fun column => ?_) ClientRules.failsIn_ofRows
    cases column <;> decide
  · refine Sheet.hasCause_of_failsIn (fun column => ?_) ErrorRules.failsIn_ofRows
    cases column <;> decide

/-- A group with an unknown partner among those that its second filter excludes. -/
def misnamedSheet : Sheet where
  header := walletHeader
  rows := [
    ⟨2, ["Wallets", "ewallet", "", "", "", "", "", "", "", "", "Redirect", "RedirectUrl"]⟩,
    ⟨5, ["", "", "", "", "", "", "", "sms", "", " ! xbox, PartnerName.XBox ,azure", "Redirect",
      "RedirectUrl"]⟩]

/-- A section in which the second entry asks for a client action in a word that is not known. -/
def misspeltSheet : Sheet where
  header := declineHeader
  rows := [
    ⟨2, ["PostModernPI", "credit_card", "", "", "", "", "Declined", "InvalidCvv"]⟩,
    ⟨3, ["", "", "", "", "", "", "Expired", "ExpiredCard", "", "", "", "jumpback"]⟩]

/-- A sheet of client-action rules with the first two columns only. -/
def narrowSheet : Sheet where
  header := .ofDistinct ["PaymentMethodFamily", "PaymentName"] (by decide)
  rows := []

/-- Each of the sheets has what its error says. -/
theorem errors_point_at_causes_of_sheets :
    misnamedSheet.HasCause ClientRules.Column (.unknownConstant "PartnerName.XBox" 5) ∧
      misspeltSheet.HasCause ErrorRules.Column (.invalidValue "ClientAction" "jumpback" 3) ∧
      narrowSheet.HasCause ClientRules.Column
        (.missingColumn "ClientAction" "PaymentMethodType") :=
  ⟨(errors_point_at_causes misnamedSheet _).1 (by decide +kernel),
    (errors_point_at_causes misspeltSheet _).2 (by decide +kernel),
    (errors_point_at_causes narrowSheet _).1 (by decide +kernel)⟩

end PaymentRules
