import PaymentRules.Proofs.ClientRules.Lines
import PaymentRules.Proofs.Dimension.Proper
import PaymentRules.Proofs.ErrorRules.Lines
import PaymentRules.Proofs.Query.Likeness
import PaymentRules.Proofs.Sheet.Joining

/-!
# Missing values

A caller may leave a property out or send an empty text for it. Rules from a sheet do not tell the
two apart: none of their dimensions lists an empty value, the question whether an instrument is
pending on anything treats both alike, and so do the type of a failed payment and the texts of
errors.

## Main definitions

* `ClientRules.Query.SameButMissing` — two queries with the same values, missing or empty

## Main results

* `ClientRules.isProper_of_ofSheet`, `ErrorRules.isProper_of_ofSheet` — no dimension of rules from a
  sheet lists an empty value
* `missing_is_empty` — queries with the same values, missing or empty, have the same answer
-/

namespace PaymentRules

/-- To proper dimensions a value is what is left when a missing one is taken for an empty one. -/
theorem alike_of_getD_eq {one other : Option String} (same : one.getD "" = other.getD "") :
    Alike Dimension.IsProper Eq one other where
  accepts d proper := by
    rw [← Dimension.accepts_getD proper one, same, Dimension.accepts_getD proper other]
  isEmpty := by rw [same]
  text := same

/-! ## Rules from a sheet -/

namespace ClientRules

variable {first : SheetRow} {component : Component SheetRow}

theorem Filter.isProper_of_ofRow {row : SheetRow} {filter : Filter}
    (read : Filter.ofRow row = .ok filter) :
    filter.pendingOn.IsProper ∧ filter.requestType.IsProper ∧ filter.partner.IsProper := by
  have own := Filter.of_ofRow read
  exact ⟨RuleRow.isProper_of_dimension own.pendingOn,
    RuleRow.isProper_of_dimension own.requestType, RuleRow.isProper_of_dimension own.partner⟩

theorem Methods.isProper_of_ofGroup {methods : Methods}
    (read : Methods.ofGroup component = .ok methods) :
    methods.family.IsProper ∧ methods.type.IsProper ∧ methods.country.IsProper := by
  rw [Methods.ofGroup] at read
  split at read
  · -- Without any payment methods the group is for all of them.
    obtain rfl := Except.ok.inj read
    exact ⟨trivial, trivial, trivial⟩
  · -- Only methods that stand without a gap from the first row on are read, down three columns.
    dsimp only at read
    split at read
    · cases read
    · split at read
      · cases read
      · simp only [Except.bind_eq_ok_iff, Except.pure_eq_ok, Except.ok.injEq] at read
        obtain ⟨_, family, _, type, _, country, rfl⟩ := read
        exact ⟨RuleRow.isProper_of_columnList family true,
          RuleRow.isProper_of_columnList type true, RuleRow.isProper_of_columnList country true⟩

theorem Group.allDimensions_of_ofComponent {group : Group}
    (read : Group.ofComponent first component = .ok group) :
    group.AllDimensions Dimension.IsProper := by
  have own := Group.of_ofComponent read
  obtain ⟨family, type, country⟩ := Methods.isProper_of_ofGroup own.methods
  refine ⟨family, type, country, fun filter listed => ?_⟩
  obtain ⟨part, -, filter_read⟩ := Except.exists_of_mem_mapM own.filters listed
  exact Filter.isProper_of_ofRow filter_read

/-- No dimension of the rules of a sheet lists an empty value. -/
theorem isProper_of_ofSheet {sheet : Sheet} {rules : ClientRules}
    (built : ofSheet sheet = .ok rules) :
    ∀ group ∈ rules.groups, group.AllDimensions Dimension.IsProper := by
  intro group listed
  obtain ⟨rows, -, groups_read⟩ := exists_mapM_of_ofSheet built
  obtain ⟨part, -, group_read⟩ := Except.exists_of_mem_mapM groups_read listed
  exact Group.allDimensions_of_ofComponent group_read

/-- The queries have the same values, where a missing one counts as an empty one. -/
structure Query.SameButMissing (one other : Query) : Prop where
  family : one.family = other.family
  type : one.type.getD "" = other.type.getD ""
  country : one.country.getD "" = other.country.getD ""
  pendingOn : one.pendingOn.getD "" = other.pendingOn.getD ""
  requestType : one.requestType.getD "" = other.requestType.getD ""
  partner : one.partner.getD "" = other.partner.getD ""

theorem Query.SameButMissing.alike {one other : Query} (same : one.SameButMissing other) :
    one.Alike Dimension.IsProper Eq other where
  family := alike_of_getD_eq same.family
  type := alike_of_getD_eq same.type
  country := alike_of_getD_eq same.country
  pendingOn := alike_of_getD_eq same.pendingOn
  requestType := alike_of_getD_eq same.requestType
  partner := alike_of_getD_eq same.partner

end ClientRules

namespace ErrorRules

variable {first : SheetRow} {component : Component SheetRow}

theorem Block.allDimensions_of_ofComponent {block : Block}
    (read : Block.ofComponent first component = .ok block) :
    block.AllDimensions Dimension.IsProper := by
  simp only [Block.ofComponent, Except.bind_eq_ok_iff, Except.pure_eq_ok, Except.ok.injEq] at read
  obtain ⟨_, -, _, family, _, types, _, countries, _, partners, _, -, rfl⟩ := read
  exact ⟨RuleRow.isProper_of_dimension family, RuleRow.isProper_of_columnList types true,
    RuleRow.isProper_of_columnList countries true, RuleRow.isProper_of_columnList partners _⟩

/-- No dimension of the rules of a sheet lists an empty value. -/
theorem isProper_of_ofSheet {sheet : Sheet} {rules : ErrorRules}
    (built : ofSheet sheet = .ok rules) :
    ∀ part ∈ rules.sections, ∀ block ∈ part.blocks, block.AllDimensions Dimension.IsProper := by
  intro part part_listed block listed
  obtain ⟨rows, -, sections_read⟩ := exists_mapM_of_ofSheet built
  obtain ⟨_, -, section_read⟩ := Except.exists_of_mem_mapM sections_read part_listed
  obtain ⟨-, blocks_read⟩ := Section.of_ofComponent section_read
  obtain ⟨_, -, block_read⟩ := Except.exists_of_mem_mapM blocks_read listed
  exact Block.allDimensions_of_ofComponent block_read

/-- A missing type and an empty one are looked for by the same word. -/
theorem typeOrEmpty_eq (type : Option String) :
    typeOrEmpty type = if type.getD "" = "" then emptyType else type.getD "" := by
  cases type with
  | none => rfl
  | some word => by_cases empty : word = "" <;> simp [typeOrEmpty, Option.filter, empty]

theorem Query.alike_of {type type' country country' partner partner' : Option String}
    (family errorCode : String) (same_type : type.getD "" = type'.getD "")
    (same_country : country.getD "" = country'.getD "")
    (same_partner : partner.getD "" = partner'.getD "") :
    (Query.of family type country partner errorCode).Alike Dimension.IsProper Eq
      (Query.of family type' country' partner' errorCode) where
  family := alike_of_getD_eq rfl
  type := by
    simp only [Query.of, typeOrEmpty_eq, same_type]
    exact alike_of_getD_eq rfl
  country := alike_of_getD_eq same_country
  partner := alike_of_getD_eq same_partner
  errorCode := rfl

end ErrorRules

/-! ## Answers -/

/-- Rules from a sheet give the same answer to queries with the same values, whether a value is
missing or empty: the same selection with the same numbers of candidates, or the same error with the
same texts. -/
theorem missing_is_empty (sheet : Sheet) :
    (∀ rules, ClientRules.ofSheet sheet = .ok rules → ∀ one other : ClientRules.Query,
      one.SameButMissing other → rules.resolve one = rules.resolve other) ∧
    (∀ rules, ErrorRules.ofSheet sheet = .ok rules → ∀ action family errorCode,
      ∀ type type' country country' partner partner' : Option String,
      type.getD "" = type'.getD "" → country.getD "" = country'.getD "" →
      partner.getD "" = partner'.getD "" →
        rules.resolve action (ErrorRules.Query.of family type country partner errorCode) =
          rules.resolve action
            (ErrorRules.Query.of family type' country' partner' errorCode)) := by
  constructor
  · intro rules built one other same
    exact (ClientRules.resolve_alike same.alike (ClientRules.isProper_of_ofSheet built)).eq
  · intro rules built action family errorCode type type' country country' partner partner'
      same_type same_country same_partner
    exact (ErrorRules.resolve_alike
      (ErrorRules.Query.alike_of family errorCode same_type same_country same_partner)
      (ErrorRules.isProper_of_ofSheet built)).eq

/-- A group with a filter for one thing to be pending on, and one for everything else. -/
def pendingSheet : Sheet where
  header := walletHeader
  rows := [
    ⟨2, ["Wallets", "ewallet", "", "", "", "", "", "sms", "", "", "Redirect", "RedirectUrl"]⟩,
    ⟨3, ["", "", "", "", "", "", "", "!sms", "", "!xbox", "Redirect", "RedirectUrl"]⟩]

/-- A block for payments without a type. -/
def untypedSheet : Sheet where
  header := declineHeader
  rows := [
    ⟨2, ["PostModernPI", "credit_card", "visa", "", "", "", "Visa declined"]⟩,
    ⟨3, ["", "credit_card", "empty", "", "", "", "Declined"]⟩]

/-- The later filter and the later block answer, whether everything is missing or empty. -/
theorem missing_is_empty_of_sheets :
    (∃ rules, ClientRules.ofSheet pendingSheet = .ok rules ∧
      (rules.resolve ⟨"ewallet", none, none, none, none, none⟩).map (·.filter.line) = .ok 3 ∧
      rules.resolve ⟨"ewallet", none, none, none, none, none⟩ =
        rules.resolve ⟨"ewallet", some "", some "", some "", some "", some ""⟩) ∧
    (∃ rules, ErrorRules.ofSheet untypedSheet = .ok rules ∧
      (rules.resolve .postModernPI (.of "credit_card" none none none "InvalidCvv")).map
        (·.block.line) = .ok 3 ∧
      rules.resolve .postModernPI (.of "credit_card" none none none "InvalidCvv") =
        rules.resolve .postModernPI
          (.of "credit_card" (some "") (some "") (some "") "InvalidCvv")) := by
  constructor
  · have read : (ClientRules.ofSheet pendingSheet).map (fun rules =>
        (rules.resolve ⟨"ewallet", none, none, none, none, none⟩).map (·.filter.line)) =
        .ok (.ok 3) := by decide +kernel
    obtain ⟨rules, built, answered⟩ := Except.map_eq_ok_iff.mp read
    exact ⟨rules, built, answered,
      (missing_is_empty pendingSheet).1 rules built _ _ ⟨rfl, rfl, rfl, rfl, rfl, rfl⟩⟩
  · have read : (ErrorRules.ofSheet untypedSheet).map (fun rules =>
        (rules.resolve .postModernPI (.of "credit_card" none none none "InvalidCvv")).map
          (·.block.line)) = .ok (.ok 3) := by decide +kernel
    obtain ⟨rules, built, answered⟩ := Except.map_eq_ok_iff.mp read
    exact ⟨rules, built, answered,
      (missing_is_empty untypedSheet).2 rules built _ _ _ _ _ _ _ _ _ rfl rfl rfl⟩

end PaymentRules
