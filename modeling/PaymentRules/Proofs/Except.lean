import Mathlib.Data.List.Forall2

/-!
# Steps that may fail

Sheets are read and queries are answered in steps, and the first step that fails is the answer. A
chain of steps succeeds exactly when every step does, and a list of readings, or of steps that give
nothing, succeeds exactly when each of its members does.
-/

namespace PaymentRules.Except

variable {ε α β : Type}

@[simp] theorem pure_eq_ok (a : α) : (pure a : Except ε α) = .ok a := rfl

@[simp] theorem throw_eq_error (e : ε) : (throw e : Except ε α) = .error e := rfl

@[simp] theorem ok_bind (a : α) (next : α → Except ε β) : (Except.ok a >>= next) = next a := rfl

@[simp] theorem bind_eq_ok_iff {step : Except ε α} {next : α → Except ε β} {b : β} :
    (step >>= next) = .ok b ↔ ∃ a, step = .ok a ∧ next a = .ok b := by
  cases step <;> simp [bind, Except.bind]

@[simp] theorem bind_eq_error_iff {step : Except ε α} {next : α → Except ε β} {e : ε} :
    (step >>= next) = .error e ↔ step = .error e ∨ ∃ a, step = .ok a ∧ next a = .error e := by
  cases step <;> simp [bind, Except.bind]

theorem map_eq_ok_iff {step : Except ε α} {f : α → β} {b : β} :
    step.map f = .ok b ↔ ∃ a, step = .ok a ∧ f a = b := by
  cases step <;> simp [Except.map]

/-- A list is read when each of its members is, in its place. -/
theorem mapM_eq_ok_iff {read : α → Except ε β} {members : List α} {items : List β} :
    members.mapM read = .ok items ↔
      List.Forall₂ (fun member item => read member = .ok item) members items := by
  induction members generalizing items with
  | nil => simp [@eq_comm _ _ items]
  | cons member members ih =>
    simp [List.mapM_cons, ih, List.forall₂_cons_left_iff, @eq_comm _ items]

/-- A list that is not read fails at its first member that is not. -/
theorem mapM_eq_error_iff {read : α → Except ε β} {members : List α} {e : ε} :
    members.mapM read = .error e ↔
      ∃ before member after, members = before ++ member :: after ∧
        (∀ earlier ∈ before, ∃ item, read earlier = .ok item) ∧ read member = .error e := by
  induction members with
  | nil => simp
  | cons first members ih =>
    rw [List.mapM_cons, bind_eq_error_iff]
    constructor
    · rintro (here | ⟨item, first_read, later⟩)
      · exact ⟨[], first, members, rfl, by simp, here⟩
      · rcases bind_eq_error_iff.mp later with fails | ⟨items, -, impossible⟩
        · obtain ⟨before, member, after, rfl, all_read, failed⟩ := ih.mp fails
          refine ⟨first :: before, member, after, rfl, ?_, failed⟩
          exact List.forall_mem_cons.mpr ⟨⟨item, first_read⟩, all_read⟩
        · cases impossible
    · rintro ⟨_ | ⟨_, before⟩, member, after, split, all_read, failed⟩
      · obtain ⟨rfl, rfl⟩ := List.cons.inj split
        exact .inl failed
      · obtain ⟨rfl, rfl⟩ := List.cons.inj split
        obtain ⟨⟨item, first_read⟩, earlier_read⟩ := List.forall_mem_cons.mp all_read
        refine .inr ⟨item, first_read, bind_eq_error_iff.mpr (.inl ?_)⟩
        exact ih.mpr ⟨before, member, after, rfl, earlier_read, failed⟩

/-- The steps of a list are done when each of them is. -/
theorem forM_eq_ok_iff {act : α → Except ε Unit} {members : List α} :
    members.forM act = .ok () ↔ ∀ member ∈ members, act member = .ok () := by
  induction members with
  | nil => simp [List.forM]
  | cons first members ih =>
    rw [List.forM, bind_eq_ok_iff, List.forall_mem_cons, ← ih]
    constructor
    · rintro ⟨⟨⟩, done, later⟩
      exact ⟨done, later⟩
    · exact fun ⟨done, later⟩ => ⟨(), done, later⟩

/-- The steps of a list are refused at the first one that is. -/
theorem forM_eq_error_iff {act : α → Except ε Unit} {members : List α} {e : ε} :
    members.forM act = .error e ↔
      ∃ before member after, members = before ++ member :: after ∧
        (∀ earlier ∈ before, act earlier = .ok ⟨⟩) ∧ act member = .error e := by
  induction members with
  | nil => simp [List.forM]
  | cons first members ih =>
    rw [List.forM, bind_eq_error_iff]
    constructor
    · rintro (here | ⟨⟨⟩, done, later⟩)
      · exact ⟨[], first, members, rfl, nofun, here⟩
      · obtain ⟨before, member, after, rfl, all_done, failed⟩ := ih.mp later
        exact ⟨first :: before, member, after, rfl,
          List.forall_mem_cons.mpr ⟨done, all_done⟩, failed⟩
    · rintro ⟨_ | ⟨_, before⟩, member, after, split_eq, all_done, failed⟩
      · obtain ⟨rfl, rfl⟩ := List.cons.inj split_eq
        exact .inl failed
      · obtain ⟨rfl, rfl⟩ := List.cons.inj split_eq
        obtain ⟨done, all_done⟩ := List.forall_mem_cons.mp all_done
        exact .inr ⟨⟨⟩, done, ih.mpr ⟨before, member, after, rfl, all_done, failed⟩⟩

/-- What a list is read to comes from its members. -/
theorem exists_of_mem_mapM {read : α → Except ε β} {members : List α} {items : List β}
    (built : members.mapM read = .ok items) {item : β} (listed : item ∈ items) :
    ∃ member ∈ members, read member = .ok item := by
  have each := mapM_eq_ok_iff.mp built
  clear built
  induction each with
  | nil => cases listed
  | cons own _ ih =>
    rcases List.mem_cons.mp listed with rfl | later
    · exact ⟨_, List.mem_cons_self, own⟩
    · obtain ⟨member, among, own⟩ := ih later
      exact ⟨member, List.mem_cons_of_mem _ among, own⟩

end PaymentRules.Except
