import Mathlib.Data.List.TakeWhile
import PaymentRules.Text.Blank
import PaymentRules.Text.Pieces

/-!
# Trimming and parting

A cell holds its values between blanks and commas. To trim a text is to take blanks away at both
ends until there is none left to take, and the parts of a text are what stands between its marks.
Either description fits one text only, the one that `Text.trim` and `Text.splitAt` find.

## Main definitions

* `Text.Trims` — a text, and what is left of it without the blanks at its ends
* `Text.Parted` — a text, and the parts between its marks

## Main results

* `Text.trims_iff`, `Text.splitAt_eq_iff` — what is described is what is computed
-/

namespace PaymentRules.Text

/-! ## Trimming -/

/-- The second text is the first without the blanks at its two ends. -/
structure Trims (text trimmed : List Char) : Prop where
  around : ∃ front back, (∀ c ∈ front, isBlank c = true) ∧ (∀ c ∈ back, isBlank c = true) ∧
    text = front ++ trimmed ++ back
  first : ∀ c ∈ trimmed.head?, isBlank c = false
  last : ∀ c ∈ trimmed.getLast?, isBlank c = false

section

variable {front text back trimmed : List Char}

theorem trimChars_append_left (blank : ∀ c ∈ front, isBlank c = true) (text : List Char) :
    trimChars (front ++ text) = trimChars text := by
  rw [trimChars, List.dropWhile_append_of_pos blank, trimChars]

theorem trimChars_append_right (blank : ∀ c ∈ back, isBlank c = true) (text : List Char) :
    trimChars (text ++ back) = trimChars text := by
  have blank_reversed : ∀ c ∈ back.reverse, isBlank c = true := by simpa using blank
  rw [trimChars, trimChars, List.dropWhile_append]
  -- Where nothing but blanks stands before them, the blanks go from the left already.
  by_cases nothing : text.dropWhile isBlank = []
  · rw [nothing, if_pos (by rfl), List.dropWhile_eq_nil_iff.mpr blank]
  · rw [if_neg (by simpa using nothing), List.reverse_append,
      List.dropWhile_append_of_pos blank_reversed]

theorem not_isBlank_of_head?_dropWhile {c : Char}
    (first : c ∈ (text.dropWhile isBlank).head?) : isBlank c = false := by
  have stopped := List.head?_dropWhile_not isBlank text
  rw [Option.mem_def.mp first] at stopped
  exact stopped

theorem trims_trimChars (text : List Char) : Trims text (trimChars text) := by
  -- What is dropped on the left is blank, and so is what is dropped from the rest, read backwards.
  obtain ⟨front, front_eq⟩ : ∃ front, front = text.takeWhile isBlank := ⟨_, rfl⟩
  obtain ⟨rest, rest_eq⟩ : ∃ rest, rest = text.dropWhile isBlank := ⟨_, rfl⟩
  have parts : text = front ++ rest := by
    rw [front_eq, rest_eq, List.takeWhile_append_dropWhile]
  have kept : trimChars text = (rest.reverse.dropWhile isBlank).reverse := by
    rw [trimChars, rest_eq]
  have rest_parts : trimChars text ++ (rest.reverse.takeWhile isBlank).reverse = rest := by
    rw [kept, ← List.reverse_append, List.takeWhile_append_dropWhile, List.reverse_reverse]
  refine ⟨⟨front, (rest.reverse.takeWhile isBlank).reverse, ?_, ?_, ?_⟩, ?_, ?_⟩
  · intro c among
    rw [front_eq] at among
    exact List.mem_takeWhile_imp among
  · intro c among
    exact List.mem_takeWhile_imp (List.mem_reverse.mp among)
  · rw [List.append_assoc, rest_parts]
    exact parts
  · intro c first
    -- The first character that is kept is the first that stopped the dropping on the left.
    have first_of_rest : c ∈ rest.head? := by
      rw [← rest_parts, List.head?_append, Option.mem_def.mp first]
      rfl
    rw [rest_eq] at first_of_rest
    exact not_isBlank_of_head?_dropWhile first_of_rest
  · intro c last
    rw [kept, List.getLast?_reverse] at last
    exact not_isBlank_of_head?_dropWhile last

/-- A text is trimmed in one way only. -/
theorem trims_iff : Trims text trimmed ↔ trimmed = trimChars text := by
  constructor
  · rintro ⟨⟨front, back, front_blank, back_blank, rfl⟩, first, last⟩
    rw [trimChars_append_right back_blank, trimChars_append_left front_blank,
      trimChars_eq_self first last]
  · rintro rfl
    exact trims_trimChars text

/-- Only from blanks nothing is left. -/
theorem trims_nil_iff : Trims text [] ↔ ∀ c ∈ text, isBlank c = true := by
  constructor
  · rintro ⟨⟨front, back, front_blank, back_blank, rfl⟩, -, -⟩ c among
    rw [List.append_nil] at among
    exact (List.mem_append.mp among).elim (front_blank c) (back_blank c)
  · intro blank
    exact ⟨⟨text, [], blank, by simp, by simp⟩, by simp, by simp⟩

/-- Trimming takes nothing but blanks away. -/
theorem Trims.forall_iff (trims : Trims text trimmed) {p : Char → Prop} :
    (∀ c ∈ text, p c ∨ isBlank c = true) ↔ ∀ c ∈ trimmed, p c ∨ isBlank c = true := by
  obtain ⟨⟨front, back, front_blank, back_blank, rfl⟩, -, -⟩ := trims
  rw [List.forall_mem_append, List.forall_mem_append]
  constructor
  · exact fun all => all.1.2
  · exact fun kept => ⟨⟨fun c among => .inr (front_blank c among), kept⟩,
      fun c among => .inr (back_blank c among)⟩

theorem Trims.subset (trims : Trims text trimmed) : trimmed ⊆ text := by
  obtain ⟨⟨front, back, -, -, rfl⟩, -, -⟩ := trims
  intro c among
  simp [among]

/-- Blanks before a text are trimmed away with the others. -/
theorem Trims.append_left (trims : Trims text trimmed) (blank : ∀ c ∈ front, isBlank c = true) :
    Trims (front ++ text) trimmed := by
  rw [trims_iff] at trims ⊢
  rw [trimChars_append_left blank, trims]

end

/-! ## Parting -/

/-- The parts are what stands between the marks of a text. There is always one, and the marks are
in none of them. -/
inductive Parted (mark : Char) : List Char → List (List Char) → Prop
  /-- Without a mark a text is its own only part. -/
  | last {part : List Char} (free : mark ∉ part) : Parted mark part [part]
  /-- The first mark ends the first part. -/
  | next {part text : List Char} {parts : List (List Char)} (free : mark ∉ part)
      (later : Parted mark text parts) : Parted mark (part ++ mark :: text) (part :: parts)

section

variable {mark : Char} {text : List Char} {parts : List (List Char)}

theorem cut_append_mark {part : List Char} (free : mark ∉ part) (text : List Char) :
    cut mark (part ++ mark :: text) = (part, (cut mark text).1 :: (cut mark text).2) := by
  induction part with
  | nil => simp [cut]
  | cons c part ih =>
    have other : c ≠ mark := fun same => free (by simp [same])
    have free_later : mark ∉ part := fun among => free (List.mem_cons_of_mem _ among)
    simp [cut, ih free_later, other]

/-- A character that is no mark belongs to the first part. -/
theorem Parted.cons {c : Char} {part : List Char} (other : c ≠ mark)
    (parted : Parted mark text (part :: parts)) :
    Parted mark (c :: text) ((c :: part) :: parts) := by
  have longer : mark ∉ part → mark ∉ c :: part := fun free => by simp [other.symm, free]
  cases parted with
  | last free => exact .last (longer free)
  | next free later => exact .next (longer free) later

theorem Parted.append_left {front part : List Char} (free : mark ∉ front)
    (parted : Parted mark text (part :: parts)) :
    Parted mark (front ++ text) ((front ++ part) :: parts) := by
  induction front with
  | nil => exact parted
  | cons c front ih =>
    rw [List.mem_cons, not_or] at free
    exact (ih free.2).cons (Ne.symm free.1)

theorem parted_cut (mark : Char) (text : List Char) :
    Parted mark text ((cut mark text).1 :: (cut mark text).2) := by
  induction text with
  | nil => exact .last List.not_mem_nil
  | cons c text ih =>
    by_cases marked : c = mark
    · subst marked
      simpa [cut] using Parted.next List.not_mem_nil ih
    · simpa [cut, marked] using ih.cons marked

/-- A text is parted in one way only. -/
theorem parted_iff :
    Parted mark text parts ↔ parts = (cut mark text).1 :: (cut mark text).2 := by
  constructor
  · intro parted
    induction parted with
    | last free => rw [cut_of_not_mem free]
    | next free later ih => rw [cut_append_mark free, ← ih]
  · rintro rfl
    exact parted_cut mark text

/-- The pieces of a text are its parts. -/
theorem splitAt_eq_iff {text : String} {pieces : List String} :
    splitAt mark text = pieces ↔ Parted mark text.toList (pieces.map String.toList) := by
  rw [parted_iff, splitAt]
  constructor
  · rintro rfl
    simp
  · intro same
    simp only [← same, List.map_map]
    simp

theorem parted_pair_iff {one other : List Char} :
    Parted mark text [one, other] ↔
      text = one ++ mark :: other ∧ mark ∉ one ∧ mark ∉ other := by
  constructor
  · intro parted
    cases parted with
    | next one_free later =>
      cases later with
      | last other_free => exact ⟨rfl, one_free, other_free⟩
      | next _ nothing => cases nothing
  · rintro ⟨rfl, one_free, other_free⟩
    exact .next one_free (.last other_free)

/-- Every character of a text is a mark or in a part, and the parts hold no other characters. -/
theorem Parted.forall_iff (parted : Parted mark text parts) {p : Char → Prop} :
    (∀ c ∈ text, c = mark ∨ p c) ↔ ∀ part ∈ parts, ∀ c ∈ part, p c := by
  induction parted with
  | @last part free =>
    simp only [List.mem_singleton, forall_eq]
    refine forall₂_congr fun c among => ?_
    have other : c ≠ mark := fun same => free (same ▸ among)
    simp [other]
  | @next part text parts free later ih =>
    rw [List.forall_mem_append, List.forall_mem_cons, List.forall_mem_cons, ih]
    have own : (∀ c ∈ part, c = mark ∨ p c) ↔ ∀ c ∈ part, p c := by
      refine forall₂_congr fun c among => ?_
      have other : c ≠ mark := fun same => free (same ▸ among)
      simp [other]
    simp [own]

end

end PaymentRules.Text
