import PaymentRules.ClientRules.Resolve
import PaymentRules.Proofs.Narrowing.Sequence
import PaymentRules.Proofs.Text.Filling

/-!
# What decides a client action

The first group for the payment method of a query decides alone. Whether one of its filters is
selected, and which, can be said without any passes: the filters that accept the query are counted
all at once, the first of them is selected, and where there is none the error names the first
property that leaves nobody.

## Main definitions

* `ClientRules.IsFirstFor` — the group that decides
* `Group.accepting` — the filters that accept the first few properties of a query
* `ClientRules.GroupDecides` — what is decided, in each of five cases

## Main results

* `resolve_eq_iff_groupDecides` — a query is answered by what the first group decides
-/

namespace PaymentRules.ClientRules

/-- Each dimension of the group's payment methods accepts the value of the query. -/
def Group.IsFor (group : Group) (query : Query) : Prop :=
  group.methods.family.accepts (some query.family) = true ∧
    group.methods.type.accepts query.type = true ∧
    group.methods.country.accepts query.country = true

/-- The group stands at this position, and it is the first one for the query's payment method. -/
structure IsFirstFor (rules : ClientRules) (query : Query) (group : Group) (index : Nat) :
    Prop where
  found : rules.groups[index]? = some group
  isFor : group.IsFor query
  none_before : ∀ earlier other, earlier < index → rules.groups[earlier]? = some other →
    ¬ other.IsFor query

/-- The instrument is pending on nothing, which the group does not allow. -/
def Group.RejectsPending (group : Group) (query : Query) : Prop :=
  group.rejectsNullPendingOn = true ∧ (query.pendingOn = none ∨ query.pendingOn = some "")

/-- The filters that accept the first `n` of what the instrument is pending on, the type of the
request and the partner. -/
def Group.accepting (group : Group) (query : Query) : Nat → List Filter
  | 0 => group.filters
  | 1 => group.filters.filter fun filter => filter.pendingOn.accepts query.pendingOn
  | 2 => group.filters.filter fun filter =>
    filter.pendingOn.accepts query.pendingOn && filter.requestType.accepts query.requestType
  | _ => group.filters.filter fun filter => filter.accepts query

/-- The first property that leaves no filter, and the query's value for it. -/
inductive Group.EmptiedAt (group : Group) (query : Query) : MatchDimension → Option String → Prop
  | pendingOn (none_left : group.accepting query 1 = []) :
      EmptiedAt group query .pendingOn query.pendingOn
  | requestType (some_left : group.accepting query 1 ≠ [])
      (none_left : group.accepting query 2 = []) :
      EmptiedAt group query .requestType query.requestType
  | partner (some_left : group.accepting query 1 ≠ [] ∧ group.accepting query 2 ≠ [])
      (none_left : group.accepting query 3 = []) :
      EmptiedAt group query .partner query.partner

/-- The text that the group has for a property that leaves nobody. An empty text counts as none. -/
def Group.template? (group : Group) : MatchDimension → Option String
  | .pendingOn => group.unmatchedPendingOn.filter (· ≠ "")
  | .requestType => group.unmatchedRequestType.filter (· ≠ "")
  | _ => none

/-- What a client reads when a property with this value leaves nobody: the text that the group has
for it, with the value in every place, or else a general one. -/
inductive Group.Tells (group : Group) (dimension : MatchDimension) (value : String) :
    String → Prop
  | configured {template text : String} (has : group.template? dimension = some template)
      (filled : Text.Filled value.toList template.toList text.toList) :
      Tells group dimension value text
  | general (has_none : group.template? dimension = none) :
      Tells group dimension value
        ("no configured rule matches " ++ Named.name dimension ++ " '" ++ value ++ "'")

/-- What the first group for a query's payment method decides. -/
inductive GroupDecides (rules : ClientRules) (query : Query) :
    Except ResolveError Selection → Prop
  | noGroup (none_for : ∀ group ∈ rules.groups, ¬ group.IsFor query) :
      GroupDecides rules query
        (.error (.noMatchingGroup query.family (query.type.getD "") (query.country.getD "")))
  | nullPendingOn {group : Group} {index : Nat} (first : rules.IsFirstFor query group index)
      (rejected : group.RejectsPending query) :
      GroupDecides rules query (.error .nullPendingOn)
  | exhausted {group : Group} {index : Nat} {dimension : MatchDimension} {value : Option String}
      (first : rules.IsFirstFor query group index) (admitted : ¬ group.RejectsPending query)
      (emptied : group.EmptiedAt query dimension value) :
      GroupDecides rules query
        (.error (.narrowingExhausted dimension (value.getD "") (group.template? dimension)))
  | selected {group : Group} {index : Nat} {filter : Filter} {others : List Filter}
      (first : rules.IsFirstFor query group index) (admitted : ¬ group.RejectsPending query)
      (left : group.accepting query 3 = filter :: others) :
      GroupDecides rules query (.ok {
        groupIndex := index
        group := group
        filter := filter
        counts := (List.range 4).map fun n => (group.accepting query n).length
        survivors := (group.accepting query 3).length })

/-! ## The deciding group -/

section

variable {rules : ClientRules} {query : Query} {group : Group} {index : Nat}

theorem accepts_iff_isFor : group.methods.accepts query = true ↔ group.IsFor query := by
  simp [Methods.accepts, Group.IsFor, and_assoc]

theorem group?_eq_some_iff :
    rules.group? query = some (group, index) ↔ rules.IsFirstFor query group index := by
  rw [group?, List.find?_eq_some_iff_getElem]
  -- Each group is paired with its own position, so the found pair tells both.
  constructor
  · rintro ⟨isFor, i, inside, same, before⟩
    rw [List.getElem_zipIdx, Nat.zero_add, Prod.mk.injEq] at same
    obtain ⟨rfl, rfl⟩ := same
    rw [List.length_zipIdx] at inside
    refine ⟨List.getElem?_eq_getElem inside, accepts_iff_isFor.mp isFor, ?_⟩
    intro earlier other less found otherIsFor
    obtain ⟨_, rfl⟩ := List.getElem?_eq_some_iff.mp found
    have refused := before earlier less
    rw [List.getElem_zipIdx, accepts_iff_isFor.mpr otherIsFor] at refused
    cases refused
  · rintro ⟨found, isFor, none_before⟩
    obtain ⟨inside, rfl⟩ := List.getElem?_eq_some_iff.mp found
    refine ⟨accepts_iff_isFor.mpr isFor, index, by rwa [List.length_zipIdx], by simp, ?_⟩
    intro earlier less
    have refused := none_before earlier _ less (List.getElem?_eq_getElem (by omega))
    rw [List.getElem_zipIdx, Bool.not_eq_true']
    exact Bool.eq_false_iff.mpr fun accepted => refused (accepts_iff_isFor.mp accepted)

theorem group?_eq_none_iff :
    rules.group? query = none ↔ ∀ group ∈ rules.groups, ¬ group.IsFor query := by
  simp only [group?, List.find?_eq_none, accepts_iff_isFor]
  constructor
  · intro refused group listed
    obtain ⟨index, inside, rfl⟩ := List.getElem_of_mem listed
    exact refused (rules.groups[index], index) (by
      rw [List.mk_mem_zipIdx_iff_getElem?, List.getElem?_eq_getElem inside])
  · rintro refused ⟨group, index⟩ listed
    rw [List.mk_mem_zipIdx_iff_getElem?] at listed
    exact refused group (List.mem_of_getElem? listed)

/-! ## The filters of a group -/

theorem Group.rejectsPending_iff :
    (group.rejectsNullPendingOn && query.pendingOn.all (· == "")) = true ↔
      group.RejectsPending query := by
  cases pending : query.pendingOn <;> simp [Group.RejectsPending, pending]

/-- The passes of a group, in their order. -/
def Group.passList (group : Group) (query : Query) : List (Pass Filter) :=
  [(group.passes query).1, (group.passes query).2.1, (group.passes query).2.2]

/-- The first `n` passes together keep the filters that accept the first `n` properties. -/
theorem Group.keptBy_take_passList : ∀ n,
    Pass.keptBy ((group.passList query).take n) group.filters = group.accepting query n
  | 0 => by simp [Group.accepting]
  | 1 => by simp [Pass.keptBy, Group.passList, Group.passes, Pass.keeps, Group.accepting]
  | 2 => by simp [Pass.keptBy, Group.passList, Group.passes, Pass.keeps, Group.accepting]
  | n + 3 => by
    simp [Pass.keptBy, Group.passList, Group.passes, Pass.keeps, Group.accepting, Filter.accepts,
      Bool.and_assoc]

/-- Fewer filters accept more properties. -/
theorem Group.accepting_antitone {n m : Nat} (less : n ≤ m) :
    (group.accepting query m).length ≤ (group.accepting query n).length := by
  rw [← Group.keptBy_take_passList m, ← Group.keptBy_take_passList n]
  exact (Pass.keptBy_sublist_of_prefix (List.take_prefix_take_left less) _).length_le

/-- What the three passes make of the filters of a group. -/
def Group.narrowed (group : Group) (query : Query) :
    Except ResolveError (Survivors Filter × List Nat) :=
  (group.passes query).1.narrowAll [(group.passes query).2.1, (group.passes query).2.2]
    group.filters

/-- Unless the group refuses the query, its filters are narrowed by the three passes. -/
theorem Group.narrow_eq (group : Group) (query : Query) :
    group.narrow query =
      if group.rejectsNullPendingOn && query.pendingOn.all (· == "") then .error .nullPendingOn
      else do
        let (left, counts) ← group.narrowed query
        return (left.first, counts, left.count) := by
  rw [Group.narrow]
  split
  · rfl
  · simp only [Group.narrowed, Pass.narrowAll, bind_assoc, pure_bind]
    rfl

theorem Group.narrowed_eq_ok_iff {left : Survivors Filter} {counts : List Nat} :
    group.narrowed query = .ok (left, counts) ↔
      group.accepting query 3 = left.toList ∧
        counts = (List.range 4).map fun n => (group.accepting query n).length :=
  Pass.narrowAll_eq_ok_iff_of_stages Group.keptBy_take_passList

/-- The property at which the passes stop is the first one that leaves nobody. -/
theorem Group.narrowed_eq_error_iff {e : ResolveError} :
    group.narrowed query = .error e ↔
      ∃ dimension value, group.EmptiedAt query dimension value ∧
        e = .narrowingExhausted dimension (value.getD "") (group.template? dimension) := by
  rw [Group.narrowed, Pass.narrowAll_eq_error_iff_of_stages Group.keptBy_take_passList]
  constructor
  · rintro ⟨n, failing, found, none_left, some_left, rfl⟩
    obtain ⟨inside, rfl⟩ := List.getElem?_eq_some_iff.mp found
    match n, inside with
    | 0, _ => exact ⟨_, _, .pendingOn none_left, rfl⟩
    | 1, _ => exact ⟨_, _, .requestType (some_left 1 (by omega) (by omega)) none_left, rfl⟩
    | 2, _ =>
      refine ⟨_, _, .partner ⟨some_left 1 ?_ ?_, some_left 2 ?_ ?_⟩ none_left, rfl⟩ <;> omega
  · rintro ⟨dimension, value, emptied, rfl⟩
    cases emptied with
    | pendingOn none_left =>
      exact ⟨0, (group.passes query).1, rfl, none_left, fun fewer more less => by omega, rfl⟩
    | requestType some_left none_left =>
      refine ⟨1, (group.passes query).2.1, rfl, none_left, fun fewer more less => ?_, rfl⟩
      obtain rfl : fewer = 1 := by omega
      exact some_left
    | partner some_left none_left =>
      refine ⟨2, (group.passes query).2.2, rfl, none_left, fun fewer more less => ?_, rfl⟩
      obtain rfl | rfl : fewer = 1 ∨ fewer = 2 := by omega
      · exact some_left.1
      · exact some_left.2

/-! ## The decision -/

theorem resolve_of_rejected (first : rules.IsFirstFor query group index)
    (rejected : group.RejectsPending query) : rules.resolve query = .error .nullPendingOn := by
  rw [resolve, group?_eq_some_iff.mpr first]
  simp only [Group.narrow_eq, if_pos (Group.rejectsPending_iff.mpr rejected)]
  rfl

/-- A group that admits the query answers with the filters that its passes leave. -/
theorem resolve_of_admitted (first : rules.IsFirstFor query group index)
    (admitted : ¬ group.RejectsPending query) :
    rules.resolve query = (do
      let (left, counts) ← group.narrowed query
      return ⟨index, group, left.first, counts, left.count⟩) := by
  rw [resolve, group?_eq_some_iff.mpr first]
  simp only [Group.narrow_eq, if_neg (mt Group.rejectsPending_iff.mp admitted), bind_assoc,
    pure_bind]

theorem groupDecides_resolve (rules : ClientRules) (query : Query) :
    rules.GroupDecides query (rules.resolve query) := by
  cases found : rules.group? query with
  | none =>
    have refused : rules.resolve query =
        .error (.noMatchingGroup query.family (query.type.getD "") (query.country.getD "")) := by
      rw [resolve, found]
      rfl
    rw [refused]
    exact .noGroup (group?_eq_none_iff.mp found)
  | some deciding =>
    obtain ⟨group, index⟩ := deciding
    have first := group?_eq_some_iff.mp found
    by_cases rejected : group.RejectsPending query
    · rw [resolve_of_rejected first rejected]
      exact .nullPendingOn first rejected
    · rw [resolve_of_admitted first rejected]
      cases narrowed : group.narrowed query with
      | error e =>
        obtain ⟨dimension, value, emptied, rfl⟩ := Group.narrowed_eq_error_iff.mp narrowed
        exact .exhausted first rejected emptied
      | ok result =>
        obtain ⟨left, counts⟩ := result
        obtain ⟨all, rfl⟩ := Group.narrowed_eq_ok_iff.mp narrowed
        have selected := GroupDecides.selected first rejected all
        rw [all] at selected
        exact selected

theorem resolve_of_groupDecides {result : Except ResolveError Selection}
    (decided : rules.GroupDecides query result) : rules.resolve query = result := by
  cases decided with
  | noGroup none_for =>
    rw [resolve, group?_eq_none_iff.mpr none_for]
    rfl
  | nullPendingOn first rejected => exact resolve_of_rejected first rejected
  | exhausted first admitted emptied =>
    rw [resolve_of_admitted first admitted,
      Group.narrowed_eq_error_iff.mpr ⟨_, _, emptied, rfl⟩]
    rfl
  | @selected group index filter others first admitted left =>
    have narrowed := Group.narrowed_eq_ok_iff.mpr
      ⟨show group.accepting query 3 = (Survivors.mk filter others).toList from left, rfl⟩
    rw [resolve_of_admitted first admitted, narrowed, left]
    rfl

/-- Who is told that nobody is left reads the text of the deciding group. -/
theorem tells_of_exhausted {dimension : MatchDimension} {value : String}
    {template : Option String} (first : rules.IsFirstFor query group index)
    (failed : rules.resolve query = .error (.narrowingExhausted dimension value template)) :
    group.Tells dimension value
      (ResolveError.narrowingExhausted dimension value template).message := by
  by_cases rejected : group.RejectsPending query
  · rw [resolve_of_rejected first rejected] at failed
    cases failed
  · rw [resolve_of_admitted first rejected, Except.bind_eq_error_iff] at failed
    have narrowed : group.narrowed query =
        .error (.narrowingExhausted dimension value template) := by
      simpa using failed
    obtain ⟨_, _, -, same⟩ := Group.narrowed_eq_error_iff.mp narrowed
    obtain ⟨rfl, rfl, rfl⟩ := ResolveError.narrowingExhausted.inj same
    cases has : group.template? dimension with
    | none => exact .general has
    | some template => exact .configured has (Text.filled_toList_fill template _)

/-- No pass adds to the candidates. -/
theorem counts_antitone {selection : Selection} (selected : rules.resolve query = .ok selection) :
    selection.counts.Pairwise (· ≥ ·) := by
  have decided := groupDecides_resolve rules query
  rw [selected] at decided
  cases decided with
  | selected first admitted left =>
    rw [List.pairwise_map]
    exact List.pairwise_lt_range.imp fun less => Group.accepting_antitone less.le

end

/-- A query is answered by what the first group for its payment method decides. The numbers of
candidates never grow, and an error of exhaustion has the text that the group has for it. -/
theorem resolve_eq_iff_groupDecides (rules : ClientRules) (query : Query) :
    (∀ result, rules.resolve query = result ↔ rules.GroupDecides query result) ∧
      (∀ selection, rules.resolve query = .ok selection →
        selection.counts.Pairwise (· ≥ ·)) ∧
      (∀ group index dimension value template, rules.IsFirstFor query group index →
        rules.resolve query = .error (.narrowingExhausted dimension value template) →
        group.Tells dimension value
          (ResolveError.narrowingExhausted dimension value template).message) := by
  refine ⟨fun result => ⟨?_, resolve_of_groupDecides⟩, ?_, ?_⟩
  · rintro rfl
    exact groupDecides_resolve rules query
  · exact fun _ => counts_antitone
  · exact fun _ _ _ _ _ => tells_of_exhausted

end PaymentRules.ClientRules
