import PaymentRules.Proofs.Dimension.Inclusion
import PaymentRules.Proofs.ErrorRules.Decision
import PaymentRules.Proofs.ErrorRules.Lines
import PaymentRules.Proofs.Review.Earlier

/-!
# Cleaning service-error rules up

The sections and the blocks that the review reports can be deleted, all at once: every query gets
the answer that it got before. A block that is deleted would never have been asked for an error
code, so that its entries are not missed either.

## Main definitions

* `Section.without`, `ErrorRules.without` — rules without the items that some findings are about

## Main results

* `resolve_without_review` — a query is answered in the same way after the deletion
* `not_reported_of_selected` — what is selected is never reported
-/

namespace PaymentRules.ErrorRules

/-- Each pass over blocks keeps a block together with those that cover it. -/
theorem respects_of_mem_passList {query : Query} {pass : Pass Block}
    (made : pass ∈ passList query) :
    Respects (fun earlier block => Block.covers earlier block = true) pass.keeps := by
  intro earlier block covered kept
  simp only [Block.covers, Bool.and_eq_true] at covered
  simp only [passList, passes, List.mem_cons, List.not_mem_nil, or_false] at made
  obtain ⟨⟨⟨family_covered, types_covered⟩, countries_covered⟩, partners_covered⟩ := covered
  obtain rfl | rfl | rfl | rfl := made
  · exact Dimension.accepts_of_covers family_covered kept
  · exact Dimension.accepts_of_covers types_covered kept
  · exact Dimension.accepts_of_covers countries_covered kept
  · exact Dimension.accepts_of_covers partners_covered kept

/-- A section answers for the resource action of another one as for its own. -/
theorem respects_action (action : ResourceAction) :
    Respects (fun earlier part : Section => (earlier.action == part.action) = true)
      fun part => part.action == action := by
  intro earlier part same accepted
  rw [beq_iff_eq] at same accepted ⊢
  exact same.trans accepted

/-! ## Deleting what is reported -/

/-- The section without the blocks that the findings are about. -/
def Section.without (findings : List Finding) (part : Section) : Section :=
  { part with
    blocks := part.blocks.filter fun block => !reports findings .shadowedRule block.line }

@[simp] theorem Section.line_without (findings : List Finding) (part : Section) :
    (part.without findings).line = part.line := rfl

/-- The rules without the sections and the blocks that the findings are about. -/
def without (rules : ErrorRules) (findings : List Finding) : ErrorRules where
  sections := (rules.sections.filter fun part =>
    !reports findings .duplicateRequestType part.line).map (Section.without findings)

section

variable {rules : ErrorRules} {action : ResourceAction} {query : Query}
  {findings : List Finding} {part : Section}

/-- A finding is about a section behind one for the same action, or about a block of a section
behind one that covers it. -/
theorem mem_review {finding : Finding} :
    finding ∈ rules.review ↔
      (∃ part earlier, (part, some earlier) ∈ withEarlier
        (fun one other => one.action == other.action) rules.sections ∧
          finding = part.finding earlier) ∨
      ∃ part ∈ rules.sections, ∃ block earlier,
        (block, some earlier) ∈ withEarlier Block.covers part.blocks ∧
          finding = block.finding part earlier := by
  rw [review, mem_flatMap_withEarlier]
  simp only [Section.review, mem_filterMap_withEarlier]

/-- A section that is reported is replaced by an earlier section. -/
theorem sections_leftOutReplaced (distinct : (rules.sections.map (·.line)).Nodup) :
    LeftOutReplaced (fun earlier part => (earlier.action == part.action) = true)
      (fun part => !reports rules.review .duplicateRequestType part.line) rules.sections := by
  rw [← map_withEarlier] at distinct
  refine leftOutReplaced_of_reports distinct (fun _ => id) fun finding told of_kind => ?_
  obtain ⟨part, earlier, listed, rfl⟩ | ⟨part, -, block, earlier, -, rfl⟩ := mem_review.mp told
  · exact ⟨part, earlier, listed, rfl⟩
  · cases of_kind

/-- A block that is reported is replaced by an earlier block of its section. -/
theorem blocks_leftOutReplaced (part_listed : part ∈ rules.sections)
    (distinct : (rules.sections.flatMap fun part => part.blocks.map (·.line)).Nodup) :
    LeftOutReplaced (fun earlier block => Block.covers earlier block = true)
      (fun block => !reports rules.review .shadowedRule block.line) part.blocks := by
  have all_distinct : ((rules.sections.flatMap fun part =>
      withEarlier Block.covers part.blocks).map fun entry => entry.1.line).Nodup := by
    simpa only [List.map_flatMap, map_withEarlier] using distinct
  refine leftOutReplaced_of_reports all_distinct ?_ fun finding told of_kind => ?_
  · exact fun entry among => List.mem_flatMap.mpr ⟨part, part_listed, among⟩
  · obtain ⟨part, earlier, -, rfl⟩ | ⟨part, among, block, earlier, listed, rfl⟩ :=
      mem_review.mp told
    · cases of_kind
    · exact ⟨block, earlier, List.mem_flatMap.mpr ⟨part, among, listed⟩, rfl⟩

/-- The block that a section selects, without the numbers of candidates. -/
theorem Section.map_fst_narrow (part : Section) (query : Query) :
    (part.narrow query).map Prod.fst = (part.narrowed query).map fun left => left.1.first := by
  rw [Section.narrow_eq]
  cases part.narrowed query <;> rfl

/-- A section selects the same block without those that earlier ones replace. -/
theorem Section.narrow_without (replaced : LeftOutReplaced
      (fun earlier block => Block.covers earlier block = true)
      (fun block => !reports findings .shadowedRule block.line) part.blocks) (query : Query) :
    ((part.without findings).narrow query).map Prod.fst = (part.narrow query).map Prod.fst := by
  rw [Section.map_fst_narrow, Section.map_fst_narrow]
  exact replaced.narrowAll_filter fun _ made => respects_of_mem_passList made

/-- What is selected depends on the first section alone, and in that on the first block left. -/
theorem map_resolve (rules : ErrorRules) (action : ResourceAction) (query : Query) :
    ((rules.resolve action query).map fun selection =>
        (selection.part, selection.block, selection.entry)) =
      match rules.section? action with
      | none => .error (.noMatchingRequestType action)
      | some part => (part.narrow query).map Prod.fst >>= fun block =>
        match block.table.lookup? query.errorCode with
        | none => .error (.noMatchingError query.errorCode)
        | some entry => .ok (part, block, entry) := by
  rw [resolve]
  cases rules.section? action with
  | none => rfl
  | some part =>
    simp only
    cases part.narrow query with
    | error e => rfl
    | ok found =>
      obtain ⟨block, counts, survivors⟩ := found
      simp only [Except.ok_bind, Except.map]
      cases block.table.lookup? query.errorCode <;> rfl

/-- Without items that earlier ones replace, a query is answered as before. -/
theorem resolve_without
    (sections_replaced : LeftOutReplaced
      (fun earlier part => (earlier.action == part.action) = true)
      (fun part => !reports findings .duplicateRequestType part.line) rules.sections)
    (blocks_replaced : ∀ part ∈ rules.sections, LeftOutReplaced
      (fun earlier block => Block.covers earlier block = true)
      (fun block => !reports findings .shadowedRule block.line) part.blocks)
    (action : ResourceAction) (query : Query) :
    ((rules.without findings).resolve action query).map
        (fun selection => (selection.part, selection.block, selection.entry)) =
      (rules.resolve action query).map fun selection =>
        (selection.part.without findings, selection.block, selection.entry) := by
  have first_section : (rules.without findings).section? action =
      (rules.section? action).map (Section.without findings) := by
    rw [section?, without, List.find?_map]
    exact congrArg _ (sections_replaced.find?_filter (respects_action action))
  have without_section : (rules.resolve action query).map (fun selection =>
      (selection.part.without findings, selection.block, selection.entry)) =
        ((rules.resolve action query).map fun selection =>
          (selection.part, selection.block, selection.entry)).map
            (Prod.map (Section.without findings) id) := by
    cases rules.resolve action query <;> rfl
  -- Both sides are decided by the same section, once with and once without its reported blocks.
  rw [without_section, map_resolve, map_resolve, first_section]
  cases found : rules.section? action with
  | none => rfl
  | some part =>
    have same_block :=
      Section.narrow_without (blocks_replaced part (List.mem_of_find?_eq_some found)) query
    simp only [Option.map_some, same_block]
    cases (part.narrow query).map Prod.fst with
    | error e => rfl
    | ok block =>
      simp only [Except.ok_bind]
      cases block.table.lookup? query.errorCode <;> rfl

theorem mem_of_selected {selection : Selection}
    (selected : rules.resolve action query = .ok selection) :
    selection.part ∈ rules.sections ∧ selection.block ∈ selection.part.blocks := by
  have decided := sectionDecides_resolve rules action query
  rw [selected] at decided
  cases decided with
  | @selected part block others entry first left listed =>
    have among : block ∈ part.blocks.filter fun block => block.accepts query :=
      left ▸ List.mem_cons_self
    obtain ⟨before, after, split, -⟩ := first
    exact ⟨split ▸ List.mem_append_cons_self, (List.mem_filter.mp among).1⟩

end

section

variable {sheet : Sheet} {rules : ErrorRules}

/-- A query is answered as before when everything that the review reports is deleted. -/
theorem resolve_without_review (distinct : (sheet.rows.map (·.line)).Nodup)
    (built : ofSheet sheet = .ok rules) (action : ResourceAction) (query : Query) :
    ((rules.without rules.review).resolve action query).map
        (fun selection => (selection.part, selection.block, selection.entry)) =
      (rules.resolve action query).map fun selection =>
        (selection.part.without rules.review, selection.block, selection.entry) :=
  resolve_without (sections_leftOutReplaced (nodup_sectionLines distinct built))
    (fun _ listed => blocks_leftOutReplaced listed (nodup_blockLines distinct built)) action query

/-- Neither the section nor the block that is selected is reported: both are still there when
everything that is reported is deleted. -/
theorem not_reported_of_selected (distinct : (sheet.rows.map (·.line)).Nodup)
    (built : ofSheet sheet = .ok rules) {action : ResourceAction} {query : Query}
    {selection : Selection} (selected : rules.resolve action query = .ok selection) :
    reports rules.review .duplicateRequestType selection.part.line = false ∧
      reports rules.review .shadowedRule selection.block.line = false := by
  -- What is selected can be found among the rules that are left, and nothing reported can.
  have same := resolve_without_review distinct built action query
  rw [selected] at same
  cases left : (rules.without rules.review).resolve action query with
  | error e =>
    rw [left] at same
    cases same
  | ok remaining =>
    rw [left] at same
    obtain ⟨same_section, same_rest⟩ := Prod.mk.inj (Except.ok.inj same)
    obtain ⟨section_left, block_left⟩ := mem_of_selected left
    rw [same_section, (Prod.mk.inj same_rest).1] at block_left
    rw [same_section] at section_left
    obtain ⟨part, kept, same_line⟩ := List.mem_map.mp section_left
    have line_eq := congrArg Section.line same_line
    rw [Section.line_without, Section.line_without] at line_eq
    rw [← line_eq, ← Bool.not_eq_true', ← Bool.not_eq_true']
    exact ⟨(List.mem_filter.mp kept).2, (List.mem_filter.mp block_left).2⟩

end

end PaymentRules.ErrorRules
