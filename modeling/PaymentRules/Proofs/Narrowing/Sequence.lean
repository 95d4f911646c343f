import PaymentRules.Narrowing
import PaymentRules.Proofs.Except

/-!
# Passes one after the other

A query makes its passes in a fixed order, each over what the one before it has left, and stops at
the first pass that keeps nobody. Nothing is lost by that: what is left in the end is what all
passes keep at once, and the pass that stopped the query is the first one such that no candidate is
kept by it and by all passes before it.

## Main definitions

* `Pass.narrowAll` — the passes, made in their order
* `Pass.keptBy` — what some passes keep, judged all at once

## Main results

* `Pass.narrowAll_eq_ok_iff` — the candidates left and the numbers counted on the way
* `Pass.narrowAll_eq_error_iff` — the pass at which nobody is left
* `Pass.narrowAll_eq_ok_iff_of_stages`, `Pass.narrowAll_eq_error_iff_of_stages` — the same, said of
  the lists of those that the first few passes keep
-/

namespace PaymentRules

variable {α : Type}

@[simp] theorem Survivors.toList_ne_nil (survivors : Survivors α) : survivors.toList ≠ [] := by
  simp [Survivors.toList]

/-- A list with a candidate in it can be left by a pass. -/
theorem Survivors.exists_toList_eq {candidates : List α} (h : candidates ≠ []) :
    ∃ survivors : Survivors α, candidates = survivors.toList := by
  cases candidates with
  | nil => exact absurd rfl h
  | cons first others => exact ⟨⟨first, others⟩, rfl⟩

namespace Pass

/-- The candidates left when the passes are made in their order, and the numbers of candidates
before the first one and after each. -/
def narrowAll : Pass α → List (Pass α) → List α → Except ResolveError (Survivors α × List Nat)
  | pass, [], candidates => do
    let left ← pass.narrow candidates
    return (left, [candidates.length, left.count])
  | pass, next :: later, candidates => do
    let left ← pass.narrow candidates
    let (last, counts) ← narrowAll next later left.toList
    return (last, candidates.length :: counts)

/-- The candidates that each of the passes keeps. -/
def keptBy (passes : List (Pass α)) (candidates : List α) : List α :=
  candidates.filter fun candidate => passes.all fun pass => pass.keeps candidate

@[simp] theorem keptBy_nil (candidates : List α) : keptBy [] candidates = candidates := by
  simp [keptBy]

/-- To keep what all passes keep is to make the first and then all others. -/
theorem keptBy_cons (pass : Pass α) (passes : List (Pass α)) (candidates : List α) :
    keptBy (pass :: passes) candidates = keptBy passes (candidates.filter pass.keeps) := by
  simp [keptBy, List.filter_filter, Bool.and_comm]

/-- A further pass keeps a part of what was kept before. -/
theorem keptBy_sublist_of_prefix {fewer more : List (Pass α)} (h : fewer <+: more)
    (candidates : List α) : (keptBy more candidates).Sublist (keptBy fewer candidates) := by
  obtain ⟨further, rfl⟩ := h
  have split : keptBy (fewer ++ further) candidates =
      (keptBy fewer candidates).filter fun c => further.all fun pass => pass.keeps c := by
    simp [keptBy, List.filter_filter, List.all_append, Bool.and_comm]
  rw [split]
  exact List.filter_sublist

/-- The passes succeed with what all of them keep, and each number is that of the candidates which
the passes made so far keep. -/
theorem narrowAll_eq_ok_iff {pass : Pass α} {later : List (Pass α)} {candidates : List α}
    {last : Survivors α} {counts : List Nat} :
    narrowAll pass later candidates = .ok (last, counts) ↔
      keptBy (pass :: later) candidates = last.toList ∧
        counts = (List.range (later.length + 2)).map fun made =>
          (keptBy ((pass :: later).take made) candidates).length := by
  -- The later passes are made over what the first one leaves.
  induction later generalizing pass candidates counts with
  | nil =>
    simp only [narrowAll, Except.bind_eq_ok_iff, narrow_eq_ok_iff, Except.pure_eq_ok,
      Except.ok.injEq, Prod.mk.injEq]
    constructor
    · rintro ⟨left, kept, rfl, rfl⟩
      simp [keptBy_cons, kept, Survivors.count, List.range_succ]
    · rintro ⟨kept, rfl⟩
      rw [keptBy_cons, keptBy_nil] at kept
      exact ⟨last, kept, rfl, by simp [keptBy_cons, kept, Survivors.count, List.range_succ]⟩
  | cons next later ih =>
    simp only [narrowAll, Except.bind_eq_ok_iff, narrow_eq_ok_iff, Except.pure_eq_ok,
      Except.ok.injEq, Prod.mk.injEq, Prod.exists]
    -- The first number is that of all candidates, the others are those of the later passes.
    rw [keptBy_cons pass, List.range_succ_eq_map, List.map_cons, List.map_map]
    constructor
    · rintro ⟨left, kept, _, rest, made, rfl, rfl⟩
      obtain ⟨all, rfl⟩ := ih.mp made
      refine ⟨by rw [kept, all], ?_⟩
      simp [Function.comp_def, keptBy_cons, kept]
    · rintro ⟨all, rfl⟩
      have some_kept : candidates.filter pass.keeps ≠ [] := by
        intro none_kept
        rw [none_kept] at all
        exact last.toList_ne_nil all.symm
      obtain ⟨left, kept⟩ := Survivors.exists_toList_eq some_kept
      have made := ih.mpr ⟨show keptBy (next :: later) left.toList = last.toList by
        rw [← kept, all], rfl⟩
      refine ⟨left, kept, last, _, made, rfl, ?_⟩
      simp [Function.comp_def, keptBy_cons, kept]

/-- The passes fail at the first one such that nobody is kept by it and all before it. -/
theorem narrowAll_eq_error_iff {pass : Pass α} {later : List (Pass α)} {candidates : List α}
    {e : ResolveError} :
    narrowAll pass later candidates = .error e ↔
      ∃ made failing, (pass :: later)[made]? = some failing ∧
        keptBy ((pass :: later).take (made + 1)) candidates = [] ∧
        (∀ fewer, 0 < fewer → fewer ≤ made →
          keptBy ((pass :: later).take fewer) candidates ≠ []) ∧
        e = failing.exhausted := by
  induction later generalizing pass candidates with
  | nil =>
    simp only [narrowAll, Except.bind_eq_error_iff, narrow_eq_error_iff, Except.pure_eq_ok]
    constructor
    · rintro (⟨none_kept, rfl⟩ | ⟨left, -, absurd⟩)
      · refine ⟨0, pass, rfl, ?_, fun fewer more less => by omega, rfl⟩
        simpa [keptBy_cons] using none_kept
      · simp at absurd
    · rintro ⟨made, failing, found, none_kept, -, rfl⟩
      obtain ⟨rfl, rfl⟩ : made = 0 ∧ failing = pass := by
        cases made <;> simp_all
      exact .inl ⟨by simpa [keptBy_cons] using none_kept, rfl⟩
  | cons next later ih =>
    simp only [narrowAll, Except.bind_eq_error_iff, narrow_eq_ok_iff, narrow_eq_error_iff,
      Except.pure_eq_ok, reduceCtorEq, and_false, exists_false, or_false]
    constructor
    · rintro (⟨none_kept, rfl⟩ | ⟨left, kept, failed⟩)
      · refine ⟨0, pass, rfl, ?_, fun fewer more less => by omega, rfl⟩
        simpa [keptBy_cons] using none_kept
      · -- The failing pass comes one later when the first one is counted, too.
        obtain ⟨made, failing, found, none_kept, some_kept, rfl⟩ := ih.mp failed
        refine ⟨made + 1, failing, found, ?_, ?_, rfl⟩
        · rw [List.take_succ_cons, keptBy_cons, kept, none_kept]
        · rintro (_ | _ | fewer) more less
          · omega
          · simp [keptBy_cons, kept]
          · rw [List.take_succ_cons, keptBy_cons, kept]
            exact some_kept (fewer + 1) (by omega) (by omega)
    · rintro ⟨made, failing, found, none_kept, some_kept, rfl⟩
      cases made with
      | zero =>
        obtain rfl : pass = failing := by simpa using found
        exact .inl ⟨by simpa [keptBy_cons] using none_kept, rfl⟩
      | succ made =>
        have first_kept : candidates.filter pass.keeps ≠ [] := by
          simpa [keptBy_cons] using some_kept 1 (by omega) (by omega)
        obtain ⟨left, kept⟩ := Survivors.exists_toList_eq first_kept
        rw [List.take_succ_cons, keptBy_cons, kept] at none_kept
        refine .inr ⟨left, kept, ih.mpr ⟨made, failing, found, none_kept, ?_, rfl⟩⟩
        intro fewer more less
        have kept_before := some_kept (fewer + 1) (by omega) (by omega)
        rwa [List.take_succ_cons, keptBy_cons, kept] at kept_before

section

variable {pass : Pass α} {later : List (Pass α)} {candidates : List α} {stage : Nat → List α}

/-- The passes succeed with the last stage, when the stages are what the first few passes keep. -/
theorem narrowAll_eq_ok_iff_of_stages
    (stages : ∀ n, keptBy ((pass :: later).take n) candidates = stage n)
    {last : Survivors α} {counts : List Nat} :
    narrowAll pass later candidates = .ok (last, counts) ↔
      stage (later.length + 1) = last.toList ∧
        counts = (List.range (later.length + 2)).map fun n => (stage n).length := by
  have all_kept : keptBy (pass :: later) candidates = stage (later.length + 1) := by
    rw [← stages, ← List.length_cons, List.take_length]
  rw [narrowAll_eq_ok_iff, all_kept]
  simp only [stages]

/-- The passes fail at the first stage that is empty. -/
theorem narrowAll_eq_error_iff_of_stages
    (stages : ∀ n, keptBy ((pass :: later).take n) candidates = stage n)
    {e : ResolveError} :
    narrowAll pass later candidates = .error e ↔
      ∃ n failing, (pass :: later)[n]? = some failing ∧ stage (n + 1) = [] ∧
        (∀ fewer, 0 < fewer → fewer ≤ n → stage fewer ≠ []) ∧ e = failing.exhausted := by
  rw [narrowAll_eq_error_iff]
  simp only [stages]

end

end Pass

end PaymentRules
