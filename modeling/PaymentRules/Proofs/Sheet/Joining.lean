import PaymentRules.ClientRules.Sheet
import PaymentRules.ErrorRules.Sheet
import PaymentRules.Proofs.Component.Joining
import PaymentRules.Proofs.Component.Walk
import PaymentRules.Proofs.Sheet.Names

/-!
# Sheets that continue a sheet

Rules can be added at the end of a file without a look at what stands above them. When the rows that
are added open with a group, or a section, of their own, the longer file holds the rules of both
parts, and when one of the parts is refused the longer file is refused for the same reason.

## Main results

* `rules_compose` — the rules of a sheet with more rows below it, in either family
-/

namespace PaymentRules

/-! ## Components are read alike wherever they stand -/

namespace ClientRules

variable (n : Nat)

theorem interruption?_shift (methods : List (SheetRow × Component SheetRow)) :
    interruption? (methods.map fun method => (method.1, method.2.shift n)) =
      interruption? methods := by
  induction methods with
  | nil => rfl
  | cons one later ih =>
    cases later with
    | nil => rfl
    | cons next later =>
      -- Only the distance between one method and the next is looked at.
      rw [List.map_cons, List.map_cons] at *
      simp only [interruption?, Component.start_shift, ih, Nat.add_right_comm _ n 1,
        Nat.add_right_cancel_iff]

theorem Methods.ofGroup_shift (group : Component SheetRow) :
    Methods.ofGroup (group.shift n) = Methods.ofGroup group := by
  rw [Methods.ofGroup, Methods.ofGroup, Component.anchored_shift]
  cases group.anchored methodGrammar.name with
  | nil => rfl
  | cons method later =>
    have same := interruption?_shift n (method :: later)
    rw [List.map_cons] at *
    simp only [Component.start_shift, Component.rows_shift, ne_eq, Nat.add_right_cancel_iff, same,
      List.flatMap_cons, List.flatMap_map]

theorem Group.ofComponent_shift (first : SheetRow) (group : Component SheetRow) :
    Group.ofComponent first (group.shift n) = Group.ofComponent first group := by
  simp only [Group.ofComponent, Methods.ofGroup_shift, Component.anchored_shift, List.mapM_map,
    Function.comp_def]

end ClientRules

namespace ErrorRules

variable (n : Nat) (first : SheetRow)

theorem Entry.ofComponent_shift (entry : Component SheetRow) :
    Entry.ofComponent first (entry.shift n) = Entry.ofComponent first entry := by
  rw [Entry.ofComponent, Entry.ofComponent, Component.rows_shift]

theorem Block.ofComponent_shift (block : Component SheetRow) :
    Block.ofComponent first (block.shift n) = Block.ofComponent first block := by
  simp only [Block.ofComponent, Component.rows_shift, Component.anchored_shift, List.mapM_map,
    Function.comp_def, Entry.ofComponent_shift]

theorem Section.ofComponent_shift (part : Component SheetRow) :
    Section.ofComponent first (part.shift n) = Section.ofComponent first part := by
  simp only [Section.ofComponent, Component.anchored_shift, List.mapM_map, Function.comp_def,
    Block.ofComponent_shift]

end ErrorRules

/-! ## Rows that open with a group of their own -/

/-- Whether a family can read the rows of a sheet at all is told by the header alone. -/
theorem ruleRows_cases (κ : Type) [RuleColumn κ] (header : Header) :
    (∃ e, ∀ rows, (Sheet.mk header rows).ruleRows κ = .error e) ∨
      ∀ rows, (Sheet.mk header rows).ruleRows κ = .ok (rows.map (Sheet.ruleRow header)) := by
  simp only [Sheet.ruleRows]
  cases (Named.all : List κ).forM fun column =>
      discard (header.require (RuleColumn.family κ) (Named.name column)) with
  | error e => exact .inl ⟨e, fun _ => rfl⟩
  | ok _ => exact .inr fun _ => rfl

namespace ClientRules

/-- Rows behind others, of which the first one has a name, are groups behind groups. -/
theorem ofRows_append {one other : List SheetRow}
    (opens : ∀ row ∈ other.head?, row.cell .paymentName ≠ "") :
    ofRows (one ++ other) = (do
      let rules ← ofRows one
      let more ← ofRows other
      return ⟨rules.groups ++ more.groups⟩) := by
  have named : ∀ row ∈ other.head?, ∀ position, groupGrammar.continues row position = false := by
    intro row first position
    simp [groupGrammar, Pattern.holds, opens row first]
  have found : (grammar.parts.find? fun kind => groupGrammar.name == kind.name) =
      some groupGrammar := rfl
  simp only [ofRows, parse_whole]
  rw [mapM_anchored_append 0 found named fun first part n => Group.ofComponent_shift n first part]
  simp only [bind_assoc, pure_bind]

theorem ofSheet_append {header : Header} {earlier later : List Row}
    (opens : ∀ row ∈ later.head?,
      (Sheet.ruleRow header row : SheetRow).cell .paymentName ≠ "") :
    ofSheet ⟨header, earlier ++ later⟩ =
      match ofSheet ⟨header, earlier⟩, ofSheet ⟨header, later⟩ with
      | .error e, _ => .error e
      | .ok _, .error e => .error e
      | .ok rules, .ok more => .ok ⟨rules.groups ++ more.groups⟩ := by
  simp only [ofSheet]
  obtain ⟨e, refused⟩ | read := ruleRows_cases Column header
  · simp only [refused]
    rfl
  · have named : ∀ row ∈ (later.map (Sheet.ruleRow header) : List SheetRow).head?,
        row.cell .paymentName ≠ "" := by
      simpa [List.head?_map] using opens
    simp only [read, Except.ok_bind, List.map_append, ofRows_append named]
    cases ofRows (earlier.map (Sheet.ruleRow header)) <;>
      cases ofRows (later.map (Sheet.ruleRow header)) <;> rfl

end ClientRules

namespace ErrorRules

/-- Rows behind others, of which the first one has a resource action, are sections behind
sections. -/
theorem ofRows_append {one other : List SheetRow}
    (opens : ∀ row ∈ other.head?, row.cell .resourceAction ≠ "") :
    ofRows (one ++ other) = (do
      let rules ← ofRows one
      let more ← ofRows other
      return ⟨rules.sections ++ more.sections⟩) := by
  have acting : ∀ row ∈ other.head?, ∀ position, sectionGrammar.continues row position = false := by
    intro row first position
    simp [sectionGrammar, Pattern.holds, opens row first]
  have found : (grammar.parts.find? fun kind => sectionGrammar.name == kind.name) =
      some sectionGrammar := rfl
  simp only [ofRows, parse_whole]
  rw [mapM_anchored_append 0 found acting
    fun first part n => Section.ofComponent_shift n first part]
  simp only [bind_assoc, pure_bind]

theorem ofSheet_append {header : Header} {earlier later : List Row}
    (opens : ∀ row ∈ later.head?,
      (Sheet.ruleRow header row : SheetRow).cell .resourceAction ≠ "") :
    ofSheet ⟨header, earlier ++ later⟩ =
      match ofSheet ⟨header, earlier⟩, ofSheet ⟨header, later⟩ with
      | .error e, _ => .error e
      | .ok _, .error e => .error e
      | .ok rules, .ok more => .ok ⟨rules.sections ++ more.sections⟩ := by
  simp only [ofSheet]
  obtain ⟨e, refused⟩ | read := ruleRows_cases Column header
  · simp only [refused]
    rfl
  · have acting : ∀ row ∈ (later.map (Sheet.ruleRow header) : List SheetRow).head?,
        row.cell .resourceAction ≠ "" := by
      simpa [List.head?_map] using opens
    simp only [read, Except.ok_bind, List.map_append, ofRows_append acting]
    cases ofRows (earlier.map (Sheet.ruleRow header)) <;>
      cases ofRows (later.map (Sheet.ruleRow header)) <;> rfl

end ErrorRules

/-- Rows are put below those of a sheet, and the first of them, if there is any, opens with a name,
or with a resource action. The sheet is then read as its two parts are: the rules of the upper part
come first and so does its error. -/
theorem rules_compose (header : Header) (earlier later : List Row) :
    ((∀ row ∈ later.head?,
        (Sheet.ruleRow header row : ClientRules.SheetRow).cell .paymentName ≠ "") →
      ClientRules.ofSheet ⟨header, earlier ++ later⟩ =
        match ClientRules.ofSheet ⟨header, earlier⟩, ClientRules.ofSheet ⟨header, later⟩ with
        | .error e, _ => .error e
        | .ok _, .error e => .error e
        | .ok rules, .ok more => .ok ⟨rules.groups ++ more.groups⟩) ∧
    ((∀ row ∈ later.head?,
        (Sheet.ruleRow header row : ErrorRules.SheetRow).cell .resourceAction ≠ "") →
      ErrorRules.ofSheet ⟨header, earlier ++ later⟩ =
        match ErrorRules.ofSheet ⟨header, earlier⟩, ErrorRules.ofSheet ⟨header, later⟩ with
        | .error e, _ => .error e
        | .ok _, .error e => .error e
        | .ok rules, .ok more => .ok ⟨rules.sections ++ more.sections⟩) :=
  ⟨ClientRules.ofSheet_append, ErrorRules.ofSheet_append⟩

/-- A group with two filters and, behind it, a row without anything in it. -/
def walletRows : List Row := [
  ⟨2, ["Wallets", "ewallet", "", "", "", "", "", "", "", "", "Redirect", "RedirectUrl"]⟩,
  ⟨3, ["", "", "", "", "", "", "", "sms", "", "", "Redirect", "RedirectServiceLink"]⟩,
  ⟨4, []⟩]

/-- A group that takes in the row below its first one. -/
def cardRows : List Row := [
  ⟨6, ["Cards", "credit_card", "visa", "", "", "", "", "", "", "", "Redirect", "RedirectUrl"]⟩,
  ⟨7, ["", "", "mc"]⟩]

/-- A section with one entry. -/
def declineRows : List Row := [
  ⟨2, ["PostModernPI", "credit_card", "", "", "", "", "Declined", "InvalidCvv"]⟩]

/-- A section with a code that belongs to no message. -/
def unexplainedRows : List Row := [
  ⟨3, ["UpdateModernPI", "credit_card", "", "", "", "", "", "ExpiredCard"]⟩]

/-- The columns of a client-action sheet, in their order. -/
def walletHeader : Header :=
  .ofDistinct ((Named.all : List ClientRules.Column).map Named.name) ClientRules.nodup_columnNames

/-- The columns of a service-error sheet, in their order. -/
def declineHeader : Header :=
  .ofDistinct ((Named.all : List ErrorRules.Column).map Named.name) ErrorRules.nodup_columnNames

/-- The cards come behind the wallets, and a section that is refused has the longer sheet refused,
though not for a flaw in what stands above it. -/
theorem rules_compose_of_rows :
    (ClientRules.ofSheet ⟨walletHeader, walletRows ++ cardRows⟩).map (fun rules =>
        rules.groups.map fun group => (group.name, group.line, group.filters.map (·.line))) =
      .ok [("Wallets", 2, [2, 3]), ("Cards", 6, [6])] ∧
    ErrorRules.ofSheet ⟨declineHeader, declineRows ++ unexplainedRows⟩ =
      .error (.shape "ServiceError" 3 .entryWithoutMessage) := by
  constructor
  · rw [(rules_compose walletHeader walletRows cardRows).1 (by decide)]
    decide +kernel
  · rw [(rules_compose declineHeader declineRows unexplainedRows).2 (by decide)]
    decide +kernel

end PaymentRules
