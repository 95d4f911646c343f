import PaymentRules.ErrorRules.Resolve
import PaymentRules.Proofs.Narrowing.Sequence

/-!
# What decides a service error

The first section for a resource action decides alone. Its blocks are narrowed property by property,
yet the outcome is that of the one test by which a block is for a failure: the first block that
passes the test is asked for the error code, and where no block does the error names the first
property up to which no block accepts everything.

The block that is asked answers alone. That a later block for the same failure lists the code does
not help.

## Main definitions

* `ErrorRules.IsFirstFor` — the section that decides
* `Section.accepting` — the blocks that accept the first few properties of a query
* `ErrorRules.SectionDecides` — what is decided, in each of four cases

## Main results

* `resolve_eq_iff_sectionDecides` — a query is answered by what the first section decides
-/

namespace PaymentRules.ErrorRules

/-- The section is for the resource action, and none before it is. -/
def IsFirstFor (rules : ErrorRules) (action : ResourceAction) (part : Section) : Prop :=
  ∃ before after, rules.sections = before ++ part :: after ∧ part.action = action ∧
    ∀ earlier ∈ before, earlier.action ≠ action

/-- The blocks that accept the first `n` of the family, the type, the country and the partner. -/
def Section.accepting (part : Section) (query : Query) : Nat → List Block
  | 0 => part.blocks
  | 1 => part.blocks.filter fun block => block.family.accepts (some query.family)
  | 2 => part.blocks.filter fun block =>
    block.family.accepts (some query.family) && block.types.accepts (some query.type)
  | 3 => part.blocks.filter fun block =>
    block.family.accepts (some query.family) && block.types.accepts (some query.type) &&
      block.countries.accepts query.country
  | _ => part.blocks.filter fun block => block.accepts query

/-- The properties that a block is judged by, with the values of the query. -/
def Query.properties (query : Query) : List (MatchDimension × Option String) :=
  [(.paymentMethodFamily, some query.family), (.paymentMethodType, some query.type),
    (.country, query.country), (.partner, query.partner)]

/-- The property is the first one such that no block accepts it and all before it. -/
def Section.EmptiedAt (part : Section) (query : Query) (dimension : MatchDimension)
    (value : Option String) : Prop :=
  ∃ n, query.properties[n]? = some (dimension, value) ∧ part.accepting query (n + 1) = [] ∧
    ∀ fewer, 0 < fewer → fewer ≤ n → part.accepting query fewer ≠ []

/-- What the first section for a resource action decides. -/
inductive SectionDecides (rules : ErrorRules) (action : ResourceAction) (query : Query) :
    Except ResolveError Selection → Prop
  | noSection (none_for : ∀ part ∈ rules.sections, part.action ≠ action) :
      SectionDecides rules action query (.error (.noMatchingRequestType action))
  | exhausted {part : Section} {dimension : MatchDimension} {value : Option String}
      (first : rules.IsFirstFor action part) (emptied : part.EmptiedAt query dimension value) :
      SectionDecides rules action query
        (.error (.narrowingExhausted dimension (value.getD "") none))
  | noEntry {part : Section} {block : Block} {others : List Block}
      (first : rules.IsFirstFor action part)
      (left : (part.blocks.filter fun block => block.accepts query) = block :: others)
      (unlisted : block.table.lookup? query.errorCode = none) :
      SectionDecides rules action query (.error (.noMatchingError query.errorCode))
  | selected {part : Section} {block : Block} {others : List Block} {entry : Entry}
      (first : rules.IsFirstFor action part)
      (left : (part.blocks.filter fun block => block.accepts query) = block :: others)
      (listed : block.table.lookup? query.errorCode = some entry) :
      SectionDecides rules action query (.ok {
        part := part
        block := block
        entry := entry
        counts := (List.range 5).map fun n => (part.accepting query n).length
        survivors := (part.blocks.filter fun block => block.accepts query).length })

section

variable {rules : ErrorRules} {action : ResourceAction} {query : Query} {part : Section}

theorem section?_eq_some_iff :
    rules.section? action = some part ↔ rules.IsFirstFor action part := by
  rw [section?, List.find?_eq_some_iff_append, IsFirstFor]
  constructor
  · rintro ⟨isFor, before, after, split, none_before⟩
    refine ⟨before, after, split, by simpa using isFor, fun earlier listed => ?_⟩
    simpa using none_before earlier listed
  · rintro ⟨before, after, split, isFor, none_before⟩
    refine ⟨by simpa using isFor, before, after, split, fun earlier listed => ?_⟩
    simpa using none_before earlier listed

theorem section?_eq_none_iff :
    rules.section? action = none ↔ ∀ part ∈ rules.sections, part.action ≠ action := by
  simp [section?]

/-! ## The blocks of a section -/

/-- The passes over the blocks of a section, in their order. -/
def passList (query : Query) : List (Pass Block) :=
  [(passes query).1, (passes query).2.1, (passes query).2.2.1, (passes query).2.2.2]

/-- The first `n` passes together keep the blocks that accept the first `n` properties. -/
theorem Section.keptBy_take_passList : ∀ n,
    Pass.keptBy ((passList query).take n) part.blocks = part.accepting query n
  | 0 => by simp [Section.accepting]
  | 1 => by simp [Pass.keptBy, passList, passes, Pass.keeps, Section.accepting]
  | 2 => by simp [Pass.keptBy, passList, passes, Pass.keeps, Section.accepting]
  | 3 => by
    simp [Pass.keptBy, passList, passes, Pass.keeps, Section.accepting, Bool.and_assoc]
  | n + 4 => by
    simp [Pass.keptBy, passList, passes, Pass.keeps, Section.accepting, Block.accepts,
      Bool.and_assoc]

/-- A pass fails with the property that it is made for. -/
theorem exhausted_of_getElem? {n : Nat} {pass : Pass Block} (h : (passList query)[n]? = some pass) :
    ∃ dimension value, query.properties[n]? = some (dimension, value) ∧
      pass.exhausted = .narrowingExhausted dimension (value.getD "") none := by
  obtain ⟨inside, rfl⟩ := List.getElem?_eq_some_iff.mp h
  match n, show n < 4 from inside with
  | 0, _ => exact ⟨_, _, rfl, rfl⟩
  | 1, _ => exact ⟨_, _, rfl, rfl⟩
  | 2, _ => exact ⟨_, _, rfl, rfl⟩
  | 3, _ => exact ⟨_, _, rfl, rfl⟩

/-- What the four passes make of the blocks of a section. -/
def Section.narrowed (part : Section) (query : Query) :
    Except ResolveError (Survivors Block × List Nat) :=
  (passes query).1.narrowAll
    [(passes query).2.1, (passes query).2.2.1, (passes query).2.2.2] part.blocks

theorem Section.narrow_eq (part : Section) (query : Query) :
    part.narrow query = (do
      let (left, counts) ← part.narrowed query
      return (left.first, counts, left.count)) := by
  simp only [Section.narrow, Section.narrowed, Pass.narrowAll, bind_assoc, pure_bind]
  rfl

theorem Section.narrowed_eq_ok_iff {left : Survivors Block} {counts : List Nat} :
    part.narrowed query = .ok (left, counts) ↔
      (part.blocks.filter fun block => block.accepts query) = left.toList ∧
        counts = (List.range 5).map fun n => (part.accepting query n).length :=
  Pass.narrowAll_eq_ok_iff_of_stages Section.keptBy_take_passList

/-- The property at which the passes stop is the first one that leaves nobody. -/
theorem Section.narrowed_eq_error_iff {e : ResolveError} :
    part.narrowed query = .error e ↔
      ∃ dimension value, part.EmptiedAt query dimension value ∧
        e = .narrowingExhausted dimension (value.getD "") none := by
  rw [Section.narrowed, Pass.narrowAll_eq_error_iff_of_stages Section.keptBy_take_passList]
  constructor
  · rintro ⟨n, failing, found, none_left, some_left, rfl⟩
    obtain ⟨dimension, value, asked, same⟩ := exhausted_of_getElem? found
    exact ⟨dimension, value, ⟨n, asked, none_left, some_left⟩, same⟩
  · rintro ⟨dimension, value, ⟨n, asked, none_left, some_left⟩, rfl⟩
    have bound : n < 4 := (List.getElem?_eq_some_iff.mp asked).1
    have found : (passList query)[n]? = some (passList query)[n] := List.getElem?_eq_getElem bound
    obtain ⟨_, _, asked', same⟩ := exhausted_of_getElem? found
    obtain ⟨rfl, rfl⟩ := Prod.mk.inj (Option.some.inj (asked.symm.trans asked'))
    exact ⟨n, _, found, none_left, some_left, same.symm⟩

/-! ## The decision -/

/-- The deciding section answers with the first block that its passes leave. -/
theorem resolve_of_first (first : rules.IsFirstFor action part) :
    rules.resolve action query = (do
      let (left, counts) ← part.narrowed query
      match left.first.table.lookup? query.errorCode with
      | none => throw (.noMatchingError query.errorCode)
      | some entry => return ⟨part, left.first, entry, counts, left.count⟩) := by
  rw [resolve, section?_eq_some_iff.mpr first]
  simp only [Section.narrow_eq]
  cases part.narrowed query <;> rfl

theorem sectionDecides_resolve (rules : ErrorRules) (action : ResourceAction) (query : Query) :
    rules.SectionDecides action query (rules.resolve action query) := by
  cases found : rules.section? action with
  | none =>
    have refused : rules.resolve action query = .error (.noMatchingRequestType action) := by
      rw [resolve, found]
      rfl
    rw [refused]
    exact .noSection (section?_eq_none_iff.mp found)
  | some part =>
    have first := section?_eq_some_iff.mp found
    rw [resolve_of_first first]
    cases narrowed : part.narrowed query with
    | error e =>
      obtain ⟨dimension, value, emptied, rfl⟩ := Section.narrowed_eq_error_iff.mp narrowed
      exact .exhausted first emptied
    | ok result =>
      obtain ⟨left, counts⟩ := result
      obtain ⟨all, rfl⟩ := Section.narrowed_eq_ok_iff.mp narrowed
      cases answer : left.first.table.lookup? query.errorCode with
      | none =>
        simpa [answer] using SectionDecides.noEntry first all answer
      | some entry =>
        have selected := SectionDecides.selected first all answer
        rw [all] at selected
        simpa [answer, Survivors.count] using selected

theorem resolve_of_sectionDecides {result : Except ResolveError Selection}
    (decided : rules.SectionDecides action query result) :
    rules.resolve action query = result := by
  cases decided with
  | noSection none_for =>
    rw [resolve, section?_eq_none_iff.mpr none_for]
    rfl
  | exhausted first emptied =>
    rw [resolve_of_first first, Section.narrowed_eq_error_iff.mpr ⟨_, _, emptied, rfl⟩]
    rfl
  | @noEntry part block others first left unlisted =>
    have narrowed := Section.narrowed_eq_ok_iff.mpr ⟨show (part.blocks.filter fun block =>
      block.accepts query) = (Survivors.mk block others).toList from left, rfl⟩
    rw [resolve_of_first first, narrowed]
    simp [unlisted]
  | @selected part block others entry first left listed =>
    have narrowed := Section.narrowed_eq_ok_iff.mpr ⟨show (part.blocks.filter fun block =>
      block.accepts query) = (Survivors.mk block others).toList from left, rfl⟩
    rw [resolve_of_first first, narrowed, left]
    simp [listed, Survivors.count, Survivors.toList]

end

/-- A query is answered by what the first section for its resource action decides. -/
theorem resolve_eq_iff_sectionDecides (rules : ErrorRules) (action : ResourceAction)
    (query : Query) (result : Except ResolveError Selection) :
    rules.resolve action query = result ↔ rules.SectionDecides action query result := by
  constructor
  · rintro rfl
    exact sectionDecides_resolve rules action query
  · exact resolve_of_sectionDecides

end PaymentRules.ErrorRules
