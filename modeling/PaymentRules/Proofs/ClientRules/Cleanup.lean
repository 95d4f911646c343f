import PaymentRules.Proofs.ClientRules.Decision
import PaymentRules.Proofs.ClientRules.Lines
import PaymentRules.Proofs.Dimension.Inclusion
import PaymentRules.Proofs.Review.Earlier

/-!
# Cleaning client-action rules up

The groups and the filters that the review reports can be deleted, all at once: every query gets the
answer that it got before. What identifies an item in the review is its line, and each line of a
sheet gives rise to at most one group and to at most one filter.

## Main definitions

* `Group.without`, `ClientRules.without` — rules without the items that some findings are about

## Main results

* `resolve_without_review` — a query is answered in the same way after the deletion
* `not_reported_of_selected` — what is selected is never reported
-/

namespace PaymentRules.ClientRules

/-! ## What an item accepts -/

section

variable {query : Query}

theorem Methods.accepts_of_covers {methods other : Methods} (covered : methods.covers other = true)
    (accepted : other.accepts query = true) : methods.accepts query = true := by
  simp only [Methods.covers, Methods.accepts, Bool.and_eq_true] at covered accepted ⊢
  obtain ⟨⟨family_covered, type_covered⟩, country_covered⟩ := covered
  obtain ⟨⟨family_accepted, type_accepted⟩, country_accepted⟩ := accepted
  refine ⟨⟨?_, ?_⟩, ?_⟩
  · exact Dimension.accepts_of_covers family_covered family_accepted
  · exact Dimension.accepts_of_covers type_covered type_accepted
  · exact Dimension.accepts_of_covers country_covered country_accepted

/-- Each pass over filters keeps a filter together with those that cover it. -/
theorem Group.respects_of_mem_passList {group : Group} {pass : Pass Filter}
    (made : pass ∈ group.passList query) :
    Respects (fun earlier filter => Filter.covers earlier filter = true) pass.keeps := by
  intro earlier filter covered kept
  simp only [Filter.covers, Bool.and_eq_true] at covered
  simp only [Group.passList, Group.passes, List.mem_cons, List.not_mem_nil, or_false] at made
  obtain rfl | rfl | rfl := made
  · exact Dimension.accepts_of_covers covered.1.1 kept
  · exact Dimension.accepts_of_covers covered.1.2 kept
  · exact Dimension.accepts_of_covers covered.2 kept

end

/-! ## Deleting what is reported -/

/-- The group without the filters that the findings are about. -/
def Group.without (findings : List Finding) (group : Group) : Group :=
  { group with
    filters := group.filters.filter fun filter => !reports findings .shadowedFilter filter.line }

@[simp] theorem Group.line_without (findings : List Finding) (group : Group) :
    (group.without findings).line = group.line := rfl

/-- The rules without the groups and the filters that the findings are about. -/
def without (rules : ClientRules) (findings : List Finding) : ClientRules where
  groups := (rules.groups.filter fun group => !reports findings .shadowedRule group.line).map
    (Group.without findings)

section

variable {rules : ClientRules} {query : Query} {findings : List Finding} {group : Group}

/-- A finding is about a group behind one that covers it, or about a filter of a group behind one
that covers it. -/
theorem mem_review {finding : Finding} :
    finding ∈ rules.review ↔
      (∃ group earlier, (group, some earlier) ∈ withEarlier
        (fun one other => one.methods.covers other.methods) rules.groups ∧
          finding = group.finding earlier) ∨
      ∃ group ∈ rules.groups, ∃ filter earlier,
        (filter, some earlier) ∈ withEarlier Filter.covers group.filters ∧
          finding = filter.finding group earlier := by
  rw [review, mem_flatMap_withEarlier]
  simp only [Group.review, mem_filterMap_withEarlier]

/-- A group that is reported is replaced by an earlier group. -/
theorem groups_leftOutReplaced (distinct : (rules.groups.map (·.line)).Nodup) :
    LeftOutReplaced
      (fun earlier group => Methods.covers earlier.methods group.methods = true)
      (fun group => !reports rules.review .shadowedRule group.line) rules.groups := by
  rw [← map_withEarlier] at distinct
  refine leftOutReplaced_of_reports distinct (fun _ => id) fun finding told of_kind => ?_
  obtain ⟨group, earlier, listed, rfl⟩ | ⟨group, -, filter, earlier, -, rfl⟩ := mem_review.mp told
  · exact ⟨group, earlier, listed, rfl⟩
  · cases of_kind

/-- A filter that is reported is replaced by an earlier filter of its group. -/
theorem filters_leftOutReplaced (group_listed : group ∈ rules.groups)
    (distinct : (rules.groups.flatMap fun group => group.filters.map (·.line)).Nodup) :
    LeftOutReplaced (fun earlier filter => Filter.covers earlier filter = true)
      (fun filter => !reports rules.review .shadowedFilter filter.line) group.filters := by
  have all_distinct : ((rules.groups.flatMap fun group =>
      withEarlier Filter.covers group.filters).map fun entry => entry.1.line).Nodup := by
    simpa only [List.map_flatMap, map_withEarlier] using distinct
  refine leftOutReplaced_of_reports all_distinct ?_ fun finding told of_kind => ?_
  · exact fun entry among => List.mem_flatMap.mpr ⟨group, group_listed, among⟩
  · obtain ⟨group, earlier, -, rfl⟩ | ⟨group, among, filter, earlier, listed, rfl⟩ :=
      mem_review.mp told
    · cases of_kind
    · exact ⟨filter, earlier, List.mem_flatMap.mpr ⟨group, among, listed⟩, rfl⟩

/-- The filter that a group selects, without the numbers of candidates. -/
theorem Group.map_fst_narrow (group : Group) (query : Query) :
    (group.narrow query).map Prod.fst =
      if group.rejectsNullPendingOn && query.pendingOn.all (· == "") then .error .nullPendingOn
      else (group.narrowed query).map fun left => left.1.first := by
  rw [Group.narrow_eq]
  split
  · rfl
  · cases group.narrowed query <;> rfl

/-- A group selects the same filter without those that earlier ones replace. -/
theorem Group.narrow_without (replaced : LeftOutReplaced
      (fun earlier filter => Filter.covers earlier filter = true)
      (fun filter => !reports findings .shadowedFilter filter.line) group.filters)
    (query : Query) :
    ((group.without findings).narrow query).map Prod.fst =
      (group.narrow query).map Prod.fst := by
  have same_first : ((group.without findings).narrowed query).map (fun left => left.1.first) =
      (group.narrowed query).map fun left => left.1.first :=
    replaced.narrowAll_filter fun _ made => Group.respects_of_mem_passList made
  rw [Group.map_fst_narrow, Group.map_fst_narrow, same_first]
  rfl

/-- The group that decides, without its position. -/
theorem map_fst_group? (rules : ClientRules) (query : Query) :
    (rules.group? query).map Prod.fst =
      rules.groups.find? fun group => group.methods.accepts query := by
  rw [group?]
  conv_rhs => rw [← List.zipIdx_map_fst 0 rules.groups]
  rw [List.find?_map]
  rfl

/-- What is selected depends on the first group alone, and not on its position. -/
theorem map_resolve (rules : ClientRules) (query : Query) :
    ((rules.resolve query).map fun selection => (selection.group, selection.filter)) =
      match rules.groups.find? fun group => group.methods.accepts query with
      | none =>
        .error (.noMatchingGroup query.family (query.type.getD "") (query.country.getD ""))
      | some group => ((group.narrow query).map Prod.fst).map fun filter => (group, filter) := by
  rw [resolve, ← map_fst_group?]
  cases rules.group? query with
  | none => rfl
  | some deciding =>
    obtain ⟨group, index⟩ := deciding
    simp only [Option.map_some]
    cases group.narrow query <;> rfl

/-- Without items that earlier ones replace, a query is answered as before. -/
theorem resolve_without
    (groups_replaced : LeftOutReplaced
      (fun earlier group => Methods.covers earlier.methods group.methods = true)
      (fun group => !reports findings .shadowedRule group.line) rules.groups)
    (filters_replaced : ∀ group ∈ rules.groups, LeftOutReplaced
      (fun earlier filter => Filter.covers earlier filter = true)
      (fun filter => !reports findings .shadowedFilter filter.line) group.filters)
    (query : Query) :
    ((rules.without findings).resolve query).map
        (fun selection => (selection.group, selection.filter)) =
      (rules.resolve query).map fun selection =>
        (selection.group.without findings, selection.filter) := by
  have first_group : ((rules.without findings).groups.find? fun group =>
      group.methods.accepts query) =
        (rules.groups.find? fun group => group.methods.accepts query).map
          (Group.without findings) := by
    rw [without, List.find?_map]
    exact congrArg _ (groups_replaced.find?_filter fun _ _ => Methods.accepts_of_covers)
  have without_group : (rules.resolve query).map (fun selection =>
      (selection.group.without findings, selection.filter)) =
        ((rules.resolve query).map fun selection => (selection.group, selection.filter)).map
          (Prod.map (Group.without findings) id) := by
    cases rules.resolve query <;> rfl
  -- Both sides are decided by the same group, once with and once without its reported filters.
  rw [without_group, map_resolve, map_resolve, first_group]
  cases found : rules.groups.find? fun group => group.methods.accepts query with
  | none => rfl
  | some group =>
    have same_filter :=
      Group.narrow_without (filters_replaced group (List.mem_of_find?_eq_some found)) query
    simp only [Option.map_some, same_filter]
    cases (group.narrow query).map Prod.fst <;> rfl

theorem mem_of_selected {selection : Selection} (selected : rules.resolve query = .ok selection) :
    selection.group ∈ rules.groups ∧ selection.filter ∈ selection.group.filters := by
  have decided := groupDecides_resolve rules query
  rw [selected] at decided
  cases decided with
  | @selected group index filter others first admitted left =>
    have among : filter ∈ group.accepting query 3 := left ▸ List.mem_cons_self
    exact ⟨List.mem_of_getElem? first.found, (List.mem_filter.mp among).1⟩

end

section

variable {sheet : Sheet} {rules : ClientRules}

/-- A query is answered as before when everything that the review reports is deleted. -/
theorem resolve_without_review (distinct : (sheet.rows.map (·.line)).Nodup)
    (built : ofSheet sheet = .ok rules) (query : Query) :
    ((rules.without rules.review).resolve query).map
        (fun selection => (selection.group, selection.filter)) =
      (rules.resolve query).map fun selection =>
        (selection.group.without rules.review, selection.filter) :=
  resolve_without (groups_leftOutReplaced (nodup_groupLines distinct built))
    (fun _ listed => filters_leftOutReplaced listed (nodup_filterLines distinct built)) query

/-- Neither the group nor the filter that is selected is reported: both are still there when
everything that is reported is deleted. -/
theorem not_reported_of_selected (distinct : (sheet.rows.map (·.line)).Nodup)
    (built : ofSheet sheet = .ok rules) {query : Query} {selection : Selection}
    (selected : rules.resolve query = .ok selection) :
    reports rules.review .shadowedRule selection.group.line = false ∧
      reports rules.review .shadowedFilter selection.filter.line = false := by
  -- What is selected can be found among the rules that are left, and nothing reported can.
  have same := resolve_without_review distinct built query
  rw [selected] at same
  cases left : (rules.without rules.review).resolve query with
  | error e =>
    rw [left] at same
    cases same
  | ok remaining =>
    rw [left] at same
    obtain ⟨same_group, same_filter⟩ := Prod.mk.inj (Except.ok.inj same)
    obtain ⟨group_left, filter_left⟩ := mem_of_selected left
    rw [same_group, same_filter] at filter_left
    rw [same_group] at group_left
    obtain ⟨group, kept, same_line⟩ := List.mem_map.mp group_left
    have line_eq := congrArg Group.line same_line
    rw [Group.line_without, Group.line_without] at line_eq
    rw [← line_eq, ← Bool.not_eq_true', ← Bool.not_eq_true']
    exact ⟨(List.mem_filter.mp kept).2, (List.mem_filter.mp filter_left).2⟩

end

end PaymentRules.ClientRules
