import PaymentRules.Proofs.Narrowing.Sequence

/-!
# Leaving candidates out

A candidate that is accepted only where an earlier one is accepted too is never the first of those
accepted. All candidates of that kind can be left out at once, even where the earlier one is itself
left out: the first candidate of a list has nothing before it and always stays, and what stays
first among the accepted ones stays so after every pass. Hence a list of candidates and the thinned
list run dry at the same pass, or else leave the same first candidate.

## Main definitions

* `LeftOutReplaced` — each candidate left out has an earlier one that replaces it
* `Respects` — what is accepted is accepted with all that replace it

## Main results

* `LeftOutReplaced.find?_filter` — the first accepted candidate is the same
* `LeftOutReplaced.narrowAll_filter` — the passes fail alike, or leave the same first candidate
-/

namespace PaymentRules

variable {α : Type} {replaces : α → α → Prop} {keep accept : α → Bool} {candidates : List α}

/-- Each candidate that is left out has one before it that replaces it. -/
def LeftOutReplaced (replaces : α → α → Prop) (keep : α → Bool) (candidates : List α) : Prop :=
  ∀ before candidate after, candidates = before ++ candidate :: after → keep candidate = false →
    ∃ earlier ∈ before, replaces earlier candidate

/-- What accepts a candidate accepts all that replace it. -/
def Respects (replaces : α → α → Prop) (accept : α → Bool) : Prop :=
  ∀ earlier candidate, replaces earlier candidate → accept candidate = true →
    accept earlier = true

/-- The first candidate of all passes is that of the later passes, made over what the first one
leaves. -/
theorem Pass.map_first_narrowAll_cons (pass next : Pass α) (later : List (Pass α))
    (candidates : List α) :
    ((pass.narrowAll (next :: later) candidates).map fun left => left.1.first) = (do
      let left ← pass.narrow candidates
      (next.narrowAll later left.toList).map fun last => last.1.first) := by
  rw [Pass.narrowAll]
  cases pass.narrow candidates with
  | error e => rfl
  | ok left =>
    rw [Except.ok_bind, Except.ok_bind]
    cases next.narrowAll later left.toList <;> rfl

namespace LeftOutReplaced

/-- The first candidate stays. -/
theorem head?_filter (replaced : LeftOutReplaced replaces keep candidates) :
    (candidates.filter keep).head? = candidates.head? := by
  cases candidates with
  | nil => rfl
  | cons first others =>
    have stays : keep first = true := by
      by_contra left_out
      obtain ⟨earlier, none_before, -⟩ := replaced [] first others rfl (by simpa using left_out)
      cases none_before
    rw [List.filter_cons_of_pos stays, List.head?_cons, List.head?_cons]

/-- Among the candidates that are accepted, too, those left out are replaced. -/
theorem filter (replaced : LeftOutReplaced replaces keep candidates)
    (respects : Respects replaces accept) :
    LeftOutReplaced replaces keep (candidates.filter accept) := by
  intro before candidate after split left_out
  obtain ⟨front, back, rfl, rfl, accepted_back⟩ := List.filter_eq_append_iff.mp split
  obtain ⟨refused, rest, rfl, all_refused, accepted, -⟩ := List.filter_eq_cons_iff.mp accepted_back
  obtain ⟨earlier, listed, replacing⟩ :=
    replaced (front ++ refused) candidate rest (by simp) left_out
  have earlier_accepted := respects earlier candidate replacing accepted
  -- Between the accepted ones before it and the candidate there are only refused ones.
  refine ⟨earlier, List.mem_filter.mpr ⟨?_, earlier_accepted⟩, replacing⟩
  exact (List.mem_append.mp listed).resolve_right fun among =>
    all_refused earlier among earlier_accepted

/-- The first candidate that is accepted is the same. -/
theorem find?_filter (replaced : LeftOutReplaced replaces keep candidates)
    (respects : Respects replaces accept) :
    (candidates.filter keep).find? accept = candidates.find? accept := by
  rw [← List.head?_filter, ← List.head?_filter, List.filter_comm]
  exact (replaced.filter respects).head?_filter

/-- One pass fails alike, or leaves the same first candidate. -/
theorem narrow_filter {pass : Pass α} (replaced : LeftOutReplaced replaces keep candidates)
    (respects : Respects replaces pass.keeps) :
    (∃ e, pass.narrow candidates = .error e ∧ pass.narrow (candidates.filter keep) = .error e) ∨
      ∃ all thinned : Survivors α, pass.narrow candidates = .ok all ∧
        pass.narrow (candidates.filter keep) = .ok thinned ∧
        thinned.toList = all.toList.filter keep ∧ thinned.first = all.first := by
  have same_head := (replaced.filter respects).head?_filter
  by_cases run_dry : candidates.filter pass.keeps = []
  · refine .inl ⟨pass.exhausted, Pass.narrow_eq_error_iff.mpr ⟨run_dry, rfl⟩, ?_⟩
    rw [Pass.narrow_eq_error_iff, List.filter_comm, run_dry]
    exact ⟨rfl, rfl⟩
  · obtain ⟨all, kept⟩ := Survivors.exists_toList_eq run_dry
    rw [kept] at same_head
    obtain ⟨thinned, thinned_eq⟩ : ∃ thinned : Survivors α,
        all.toList.filter keep = thinned.toList := by
      apply Survivors.exists_toList_eq
      intro none_left
      rw [none_left] at same_head
      cases same_head
    refine .inr ⟨all, thinned, Pass.narrow_eq_ok_iff.mpr kept, ?_, thinned_eq.symm, ?_⟩
    · rw [Pass.narrow_eq_ok_iff, List.filter_comm, kept, thinned_eq]
    · rw [thinned_eq] at same_head
      exact Option.some.inj same_head

/-- The passes fail alike, or leave the same first candidate. -/
theorem narrowAll_filter {pass : Pass α} {later : List (Pass α)}
    (replaced : LeftOutReplaced replaces keep candidates)
    (respects : ∀ made ∈ pass :: later, Respects replaces made.keeps) :
    (pass.narrowAll later (candidates.filter keep)).map (fun left => left.1.first) =
      (pass.narrowAll later candidates).map fun left => left.1.first := by
  -- A pass leaves again a list whose thinned form the next pass gets.
  induction later generalizing pass candidates with
  | nil =>
    obtain ⟨e, failed, thinned_failed⟩ | ⟨all, thinned, kept, thinned_kept, -, same⟩ :=
      replaced.narrow_filter (respects pass List.mem_cons_self)
    · rw [Pass.narrowAll, Pass.narrowAll, failed, thinned_failed]
      rfl
    · rw [Pass.narrowAll, Pass.narrowAll, kept, thinned_kept]
      exact congrArg Except.ok same
  | cons next later ih =>
    have next_respects : ∀ made ∈ next :: later, Respects replaces made.keeps :=
      fun made among => respects made (List.mem_cons_of_mem _ among)
    obtain ⟨e, failed, thinned_failed⟩ | ⟨all, thinned, kept, thinned_kept, thinned_eq, -⟩ :=
      replaced.narrow_filter (respects pass List.mem_cons_self)
    · rw [Pass.narrowAll, Pass.narrowAll, failed, thinned_failed]
      rfl
    · have replaced_next : LeftOutReplaced replaces keep all.toList := by
        rw [← Pass.narrow_eq_ok_iff.mp kept]
        exact replaced.filter (respects pass List.mem_cons_self)
      rw [Pass.map_first_narrowAll_cons, Pass.map_first_narrowAll_cons, kept, thinned_kept,
        Except.ok_bind, Except.ok_bind, thinned_eq]
      exact ih replaced_next next_respects

end LeftOutReplaced

end PaymentRules
