import PaymentRules.Proofs.ClientRules.Decision
import PaymentRules.Proofs.ErrorRules.Decision

/-!
# Queries that rules do not tell apart

Rules look at the value of a property through their dimensions, and once by asking whether it is
empty. When two queries agree in all of this, property by property, they are answered alike: with
the same selection, or with the same cause, which then names the value of its own query.

Likeness has two parameters. One says which dimensions are asked, and rules have to keep to these.
The other one says how the two texts of a value are related, and an error tells no more than that.

## Main definitions

* `Alike` — two values of a property that some dimensions do not tell apart
* `ResolveError.SameCause`, `SameOutcome` — the same answer, but for the texts of values

## Main results

* `ClientRules.resolve_alike`, `ErrorRules.resolve_alike` — like queries have like outcomes
-/

namespace PaymentRules

/-- Two values of a property that no dimension of a kind tells apart. Both or neither are empty,
a missing value counting as an empty one, and their texts are related. -/
structure Alike (judges : Dimension → Prop) (R : String → String → Prop)
    (one other : Option String) : Prop where
  accepts : ∀ d, judges d → d.accepts one = d.accepts other
  isEmpty : one.getD "" = "" ↔ other.getD "" = ""
  text : R (one.getD "") (other.getD "")

/-- The same cause, told with related values. -/
inductive ResolveError.SameCause (R : String → String → Prop) : ResolveError → ResolveError → Prop
  | noMatchingGroup {family type country family' type' country' : String}
      (same_family : R family family') (same_type : R type type')
      (same_country : R country country') :
      SameCause R (.noMatchingGroup family type country) (.noMatchingGroup family' type' country')
  | narrowingExhausted (dimension : MatchDimension) (template : Option String)
      {value value' : String} (same_value : R value value') :
      SameCause R (.narrowingExhausted dimension value template)
        (.narrowingExhausted dimension value' template)
  | nullPendingOn : SameCause R .nullPendingOn .nullPendingOn
  | noMatchingRequestType (action : ErrorRules.ResourceAction) :
      SameCause R (.noMatchingRequestType action) (.noMatchingRequestType action)
  | noMatchingError (errorCode : String) :
      SameCause R (.noMatchingError errorCode) (.noMatchingError errorCode)

/-- The same selection, or the same cause, told with related values. -/
inductive SameOutcome {σ : Type} (R : String → String → Prop) :
    Except ResolveError σ → Except ResolveError σ → Prop
  | ok (selection : σ) : SameOutcome R (.ok selection) (.ok selection)
  | error {e e' : ResolveError} (same : e.SameCause R e') : SameOutcome R (.error e) (.error e')

/-- Told with the same values, the same outcome is one outcome. -/
theorem SameOutcome.eq {σ : Type} {one other : Except ResolveError σ}
    (same : SameOutcome Eq one other) : one = other := by
  cases same with
  | ok selection => rfl
  | error same =>
    cases same with
    | noMatchingGroup same_family same_type same_country =>
      rw [same_family, same_type, same_country]
    | narrowingExhausted dimension template same_value => rw [same_value]
    | nullPendingOn => rfl
    | noMatchingRequestType action => rfl
    | noMatchingError errorCode => rfl

theorem getD_eq_empty_iff {value : Option String} :
    value.getD "" = "" ↔ value = none ∨ value = some "" := by
  cases value <;> simp

/-! ## Client actions -/

namespace ClientRules

variable {judges : Dimension → Prop} {R : String → String → Prop} {rules : ClientRules}
  {one other : Query} {group : Group} {index : Nat}

/-- Every dimension of the group and of its filters is of the kind. -/
structure Group.AllDimensions (judges : Dimension → Prop) (group : Group) : Prop where
  family : judges group.methods.family
  type : judges group.methods.type
  country : judges group.methods.country
  filters : ∀ filter ∈ group.filters,
    judges filter.pendingOn ∧ judges filter.requestType ∧ judges filter.partner

/-- The queries are alike in every property. -/
structure Query.Alike (judges : Dimension → Prop) (R : String → String → Prop)
    (one other : Query) : Prop where
  family : PaymentRules.Alike judges R (some one.family) (some other.family)
  type : PaymentRules.Alike judges R one.type other.type
  country : PaymentRules.Alike judges R one.country other.country
  pendingOn : PaymentRules.Alike judges R one.pendingOn other.pendingOn
  requestType : PaymentRules.Alike judges R one.requestType other.requestType
  partner : PaymentRules.Alike judges R one.partner other.partner

section

variable (alike : one.Alike judges R other) (all : group.AllDimensions judges)

include alike

theorem Group.rejectsPending_congr : group.RejectsPending one ↔ group.RejectsPending other := by
  rw [RejectsPending, RejectsPending, ← getD_eq_empty_iff, ← getD_eq_empty_iff,
    alike.pendingOn.isEmpty]

include all

theorem Group.isFor_congr : group.IsFor one ↔ group.IsFor other := by
  rw [IsFor, IsFor, alike.family.accepts _ all.family, alike.type.accepts _ all.type,
    alike.country.accepts _ all.country]

theorem Group.accepting_congr : ∀ n, group.accepting one n = group.accepting other n
  | 0 => rfl
  | 1 => List.filter_congr fun filter listed =>
    alike.pendingOn.accepts _ (all.filters filter listed).1
  | 2 => List.filter_congr fun filter listed => by
    obtain ⟨pendingOn, requestType, -⟩ := all.filters filter listed
    rw [alike.pendingOn.accepts _ pendingOn, alike.requestType.accepts _ requestType]
  | n + 3 => List.filter_congr fun filter listed => by
    obtain ⟨pendingOn, requestType, partner⟩ := all.filters filter listed
    rw [Filter.accepts, Filter.accepts, alike.pendingOn.accepts _ pendingOn,
      alike.requestType.accepts _ requestType, alike.partner.accepts _ partner]

/-- The same property leaves nobody, with the value that the other query has for it. -/
theorem Group.EmptiedAt.transfer {dimension : MatchDimension} {value : Option String}
    (emptied : group.EmptiedAt one dimension value) :
    ∃ value', group.EmptiedAt other dimension value' ∧ R (value.getD "") (value'.getD "") := by
  have same := Group.accepting_congr alike all
  cases emptied with
  | pendingOn none_left =>
    exact ⟨_, .pendingOn (same 1 ▸ none_left), alike.pendingOn.text⟩
  | requestType some_left none_left =>
    exact ⟨_, .requestType (same 1 ▸ some_left) (same 2 ▸ none_left), alike.requestType.text⟩
  | partner some_left none_left =>
    exact ⟨_, .partner (same 1 ▸ same 2 ▸ some_left) (same 3 ▸ none_left), alike.partner.text⟩

end

section

variable (alike : one.Alike judges R other)
  (all : ∀ group ∈ rules.groups, group.AllDimensions judges)

include alike all

theorem IsFirstFor.transfer (first : rules.IsFirstFor one group index) :
    rules.IsFirstFor other group index where
  found := first.found
  isFor := (Group.isFor_congr alike (all group (List.mem_of_getElem? first.found))).mp first.isFor
  none_before earlier another before found isFor :=
    first.none_before earlier another before found
      ((Group.isFor_congr alike (all another (List.mem_of_getElem? found))).mpr isFor)

/-- Like queries have like outcomes. -/
theorem resolve_alike : SameOutcome R (rules.resolve one) (rules.resolve other) := by
  -- What is decided for one query is carried over, and what is decided is the answer.
  have decided := groupDecides_resolve rules one
  generalize rules.resolve one = result at decided ⊢
  cases decided with
  | noGroup none_for =>
    have none_for_other : ∀ group ∈ rules.groups, ¬ group.IsFor other := fun group listed isFor =>
      none_for group listed ((Group.isFor_congr alike (all group listed)).mpr isFor)
    rw [resolve_of_groupDecides (.noGroup none_for_other)]
    exact .error (.noMatchingGroup alike.family.text alike.type.text alike.country.text)
  | nullPendingOn first rejected =>
    rw [resolve_of_groupDecides (.nullPendingOn (first.transfer alike all)
      ((Group.rejectsPending_congr alike).mp rejected))]
    exact .error .nullPendingOn
  | exhausted first admitted emptied =>
    have own := all _ (List.mem_of_getElem? first.found)
    obtain ⟨value', emptied', same⟩ := emptied.transfer alike own
    rw [resolve_of_groupDecides (.exhausted (first.transfer alike all)
      (mt (Group.rejectsPending_congr alike).mpr admitted) emptied')]
    exact .error (.narrowingExhausted _ _ same)
  | selected first admitted left =>
    have same := Group.accepting_congr alike (all _ (List.mem_of_getElem? first.found))
    rw [resolve_of_groupDecides (.selected (first.transfer alike all)
      (mt (Group.rejectsPending_congr alike).mpr admitted) (same 3 ▸ left))]
    simp only [same]
    exact .ok _

end

end ClientRules

/-! ## Service errors -/

namespace ErrorRules

variable {judges : Dimension → Prop} {R : String → String → Prop} {rules : ErrorRules}
  {action : ResourceAction} {one other : Query} {part : Section}

theorem mem_of_isFirstFor (first : rules.IsFirstFor action part) : part ∈ rules.sections := by
  obtain ⟨before, after, split, -⟩ := first
  simp [split]

/-- Every dimension of the block is of the kind. -/
structure Block.AllDimensions (judges : Dimension → Prop) (block : Block) : Prop where
  family : judges block.family
  types : judges block.types
  countries : judges block.countries
  partners : judges block.partners

/-- The queries are alike in every property, and have the same code. -/
structure Query.Alike (judges : Dimension → Prop) (R : String → String → Prop)
    (one other : Query) : Prop where
  family : PaymentRules.Alike judges R (some one.family) (some other.family)
  type : PaymentRules.Alike judges R (some one.type) (some other.type)
  country : PaymentRules.Alike judges R one.country other.country
  partner : PaymentRules.Alike judges R one.partner other.partner
  errorCode : one.errorCode = other.errorCode

section

variable (alike : one.Alike judges R other)

include alike

theorem Block.accepts_congr {block : Block} (all : block.AllDimensions judges) :
    block.accepts one = block.accepts other := by
  rw [accepts, accepts, alike.family.accepts _ all.family, alike.type.accepts _ all.types,
    alike.country.accepts _ all.countries, alike.partner.accepts _ all.partners]

/-- The values of a property are related. -/
theorem Query.Alike.properties {n : Nat} {dimension : MatchDimension} {value : Option String}
    (asked : one.properties[n]? = some (dimension, value)) :
    ∃ value', other.properties[n]? = some (dimension, value') ∧
      R (value.getD "") (value'.getD "") := by
  obtain ⟨inside, same⟩ := List.getElem?_eq_some_iff.mp asked
  match n, show n < 4 from inside with
  | 0, _ => cases same; exact ⟨_, rfl, alike.family.text⟩
  | 1, _ => cases same; exact ⟨_, rfl, alike.type.text⟩
  | 2, _ => cases same; exact ⟨_, rfl, alike.country.text⟩
  | 3, _ => cases same; exact ⟨_, rfl, alike.partner.text⟩

variable (all : ∀ block ∈ part.blocks, block.AllDimensions judges)

include all

theorem Section.accepting_congr : ∀ n, part.accepting one n = part.accepting other n
  | 0 => rfl
  | 1 => List.filter_congr fun block listed => alike.family.accepts _ (all block listed).family
  | 2 => List.filter_congr fun block listed => by
    rw [alike.family.accepts _ (all block listed).family,
      alike.type.accepts _ (all block listed).types]
  | 3 => List.filter_congr fun block listed => by
    rw [alike.family.accepts _ (all block listed).family,
      alike.type.accepts _ (all block listed).types,
      alike.country.accepts _ (all block listed).countries]
  | n + 4 => List.filter_congr fun block listed => Block.accepts_congr alike (all block listed)

/-- The same property leaves nobody, with the value that the other query has for it. -/
theorem Section.EmptiedAt.transfer {dimension : MatchDimension} {value : Option String}
    (emptied : part.EmptiedAt one dimension value) :
    ∃ value', part.EmptiedAt other dimension value' ∧ R (value.getD "") (value'.getD "") := by
  obtain ⟨n, asked, none_left, some_left⟩ := emptied
  obtain ⟨value', asked', same⟩ := alike.properties asked
  simp only [Section.accepting_congr alike all] at none_left some_left
  exact ⟨value', ⟨n, asked', none_left, some_left⟩, same⟩

end

section

variable (alike : one.Alike judges R other)
  (all : ∀ part ∈ rules.sections, ∀ block ∈ part.blocks, block.AllDimensions judges)

include alike all

/-- Like queries have like outcomes. -/
theorem resolve_alike : SameOutcome R (rules.resolve action one) (rules.resolve action other) := by
  have decided := sectionDecides_resolve rules action one
  generalize rules.resolve action one = result at decided ⊢
  cases decided with
  | noSection none_for =>
    rw [resolve_of_sectionDecides (.noSection none_for)]
    exact .error (.noMatchingRequestType action)
  | exhausted first emptied =>
    obtain ⟨value', emptied', same⟩ :=
      Section.EmptiedAt.transfer alike (all _ (mem_of_isFirstFor first)) emptied
    rw [resolve_of_sectionDecides (.exhausted first emptied')]
    exact .error (.narrowingExhausted _ _ same)
  | noEntry first left unlisted =>
    have same := Section.accepting_congr alike (all _ (mem_of_isFirstFor first)) 4
    have left_other := same.symm.trans left
    rw [alike.errorCode] at unlisted ⊢
    rw [resolve_of_sectionDecides (.noEntry first left_other unlisted)]
    exact .error (.noMatchingError _)
  | selected first left listed =>
    have same := Section.accepting_congr alike (all _ (mem_of_isFirstFor first))
    have left_other := (same 4).symm.trans left
    -- The number of survivors is told by the test for all properties at once.
    have counted := same 4
    rw [alike.errorCode] at listed
    rw [resolve_of_sectionDecides (.selected first left_other listed)]
    simp only [Section.accepting] at counted
    simp only [same, counted]
    exact .ok _

end

end ErrorRules

end PaymentRules
