import Mathlib.Data.List.Nodup
import PaymentRules.Proofs.Narrowing.Thinning
import PaymentRules.Review

/-!
# Items that are reported

A finding tells of an item by its kind and its line. Where no two items of a kind share a line, an
item is reported only for an item of its own list that stands before it and replaces it, so that the
reported items can be left out.

## Main definitions

* `reports` — whether findings tell of an item

## Main results

* `leftOutReplaced_of_reports` — the items that are reported are replaced by earlier ones
-/

namespace PaymentRules

/-- Whether some finding is about the item of this kind on this line. -/
def reports (findings : List Finding) (kind : Finding.Kind) (line : Nat) : Bool :=
  findings.any fun finding => finding.kind == kind && finding.line == line

theorem reports_iff {findings : List Finding} {kind : Finding.Kind} {line : Nat} :
    reports findings kind line = true ↔
      ∃ finding ∈ findings, finding.kind = kind ∧ finding.line = line := by
  simp [reports]

section

variable {α : Type} {replaces : α → α → Bool}

theorem map_fst_withEarlierFrom (start items : List α) :
    (withEarlierFrom replaces start items).map Prod.fst = items := by
  induction items generalizing start with
  | nil => rfl
  | cons item items ih => rw [withEarlierFrom, List.map_cons, ih]

/-- The items that are listed are those of the list, each once. -/
theorem map_fst_withEarlier (replaces : α → α → Bool) (items : List α) :
    (withEarlier replaces items).map Prod.fst = items :=
  map_fst_withEarlierFrom [] items

theorem map_withEarlier (lineOf : α → Nat) (items : List α) :
    ((withEarlier replaces items).map fun entry => lineOf entry.1) = items.map lineOf := by
  rw [← congrArg (List.map lineOf) (map_fst_withEarlier replaces items), List.map_map]
  rfl

/-- A finding within a list is about an item behind one that replaces it. -/
theorem mem_filterMap_withEarlier {items : List α} {tell : α → α → Finding} {finding : Finding} :
    (finding ∈ (withEarlier replaces items).filterMap fun entry => entry.2.map (tell entry.1)) ↔
      ∃ item earlier, (item, some earlier) ∈ withEarlier replaces items ∧
        finding = tell item earlier := by
  simp only [List.mem_filterMap, Option.map_eq_some_iff, Prod.exists]
  constructor
  · rintro ⟨item, _, listed, earlier, rfl, rfl⟩
    exact ⟨item, earlier, listed, rfl⟩
  · rintro ⟨item, earlier, listed, rfl⟩
    exact ⟨item, some earlier, listed, earlier, rfl, rfl⟩

/-- A finding about a list and what its items hold is about an item behind one that replaces it, or
is found in some item. -/
theorem mem_flatMap_withEarlier {items : List α} {tell : α → α → Finding}
    {within : α → List Finding} {finding : Finding} :
    (finding ∈ (withEarlier replaces items).flatMap fun entry =>
        (entry.2.map (tell entry.1)).toList ++ within entry.1) ↔
      (∃ item earlier, (item, some earlier) ∈ withEarlier replaces items ∧
        finding = tell item earlier) ∨ ∃ item ∈ items, finding ∈ within item := by
  have listed_once (item : α) :
      (∃ earlier, (item, earlier) ∈ withEarlier replaces items) ↔ item ∈ items := by
    rw [← congrArg (item ∈ ·) (map_fst_withEarlier replaces items)]
    simp
  simp only [← mem_filterMap_withEarlier, ← listed_once, List.mem_flatMap, List.mem_filterMap,
    List.mem_append, Option.mem_toList, Prod.exists]
  constructor
  · rintro ⟨item, earlier, listed, told | told⟩
    · exact .inl ⟨item, earlier, listed, told⟩
    · exact .inr ⟨item, ⟨earlier, listed⟩, told⟩
  · rintro (⟨item, earlier, listed, told⟩ | ⟨item, ⟨earlier, listed⟩, told⟩)
    · exact ⟨item, earlier, listed, .inl told⟩
    · exact ⟨item, earlier, listed, .inr told⟩

theorem mem_withEarlierFrom (start before : List α) (item : α) (after : List α) :
    (item, (start ++ before).find? fun earlier => replaces earlier item) ∈
      withEarlierFrom replaces start (before ++ item :: after) := by
  induction before generalizing start with
  | nil =>
    rw [List.append_nil, List.nil_append, withEarlierFrom]
    exact List.mem_cons_self
  | cons first before ih =>
    rw [List.cons_append, withEarlierFrom, List.append_cons start first before]
    exact List.mem_cons_of_mem _ (ih (start ++ [first]))

/-- An item is listed with the first of those before it that replaces it. -/
theorem mem_withEarlier (before : List α) (item : α) (after : List α) :
    (item, before.find? fun earlier => replaces earlier item) ∈
      withEarlier replaces (before ++ item :: after) :=
  mem_withEarlierFrom [] before item after

/-- When the findings of a kind come from items listed with earlier ones, and no two of these items
share a line, the items that are reported are replaced by earlier ones. -/
theorem leftOutReplaced_of_reports {findings : List Finding} {kind : Finding.Kind}
    {lineOf : α → Nat} {items : List α} {listed : List (α × Option α)}
    (distinct : (listed.map fun entry => lineOf entry.1).Nodup)
    (among : ∀ entry ∈ withEarlier replaces items, entry ∈ listed)
    (caused : ∀ finding ∈ findings, finding.kind = kind →
      ∃ item earlier, (item, some earlier) ∈ listed ∧ lineOf item = finding.line) :
    LeftOutReplaced (fun earlier item => replaces earlier item = true)
      (fun item => !reports findings kind (lineOf item)) items := by
  rintro before item after rfl reported
  rw [Bool.not_eq_false', reports_iff] at reported
  obtain ⟨finding, told, of_kind, on_line⟩ := reported
  obtain ⟨other, earlier, other_listed, same_line⟩ := caused finding told of_kind
  -- The finding is about the item at hand: no other entry has its line.
  have same := List.inj_on_of_nodup_map distinct other_listed
    (among _ (mem_withEarlier before item after)) (same_line.trans on_line)
  obtain ⟨rfl, found⟩ := Prod.mk.inj same
  have replacing : replaces earlier other = true :=
    List.find?_some (p := fun earlier => replaces earlier other) found.symm
  exact ⟨earlier, List.mem_of_find?_eq_some found.symm, replacing⟩

end

end PaymentRules
