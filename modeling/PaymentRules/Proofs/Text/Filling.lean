import Mathlib.Data.List.Infix
import PaymentRules.Text.Pieces

/-!
# Filling the places of a message

A message with places is pieces of plain text with a place between any two of them. To fill it in is
to write the value where the places were and to keep the pieces. Two places never share a character,
so there is only one way to read a message, and `Text.fill` is what that reading says.

## Main definitions

* `Text.Filled` — a message, a value, and the message with the value in every place

## Main results

* `Text.filled_iff` — the filled message is the one that `Text.fill` makes
-/

namespace PaymentRules.Text

/-- The mark of a place. -/
def place : List Char := ['\x7b', '0', '\x7d']

/-- The second text is the first with the value in every place. -/
inductive Filled (value : List Char) : List Char → List Char → Prop
  /-- Behind the last place nothing changes. -/
  | plain {piece : List Char} (free : ¬ place <:+: piece) : Filled value piece piece
  /-- The first place gives way to the value. -/
  | next {piece template text : List Char} (free : ¬ place <:+: piece)
      (later : Filled value template text) :
      Filled value (piece ++ place ++ template) (piece ++ value ++ text)

section

variable {value piece : List Char} {c : Char}

theorem fillChars_place (rest : List Char) :
    fillChars value (place ++ rest) = value ++ fillChars value rest := rfl

/-- A character at which no place begins is kept. -/
theorem fillChars_cons {rest : List Char} (h : ¬ place <+: c :: rest) :
    fillChars value (c :: rest) = c :: fillChars value rest := by
  rw [fillChars]
  rintro behind rfl rfl
  exact h ⟨behind, rfl⟩

/-- No place begins within a piece, not even one that runs over its end into a place. -/
theorem not_place_prefix_append (free : ¬ place <:+: c :: piece) (rest : List Char) :
    ¬ place <+: c :: (piece ++ (place ++ rest)) := by
  rintro ⟨behind, h⟩
  -- A place is three characters long: it ends in the piece unless the piece is too short for it.
  match piece with
  | [] => simp [place] at h
  | [d] => simp [place] at h
  | d :: e :: piece =>
    simp only [place, List.cons_append, List.nil_append, List.cons.injEq] at h
    obtain ⟨rfl, rfl, rfl, -⟩ := h
    exact free ⟨[], piece, rfl⟩

theorem fillChars_of_free (free : ¬ place <:+: piece) : fillChars value piece = piece := by
  induction piece with
  | nil => rfl
  | cons c piece ih =>
    rw [List.infix_cons_iff, not_or] at free
    rw [fillChars_cons free.1, ih free.2]

theorem fillChars_append_place (free : ¬ place <:+: piece) (rest : List Char) :
    fillChars value (piece ++ place ++ rest) = piece ++ value ++ fillChars value rest := by
  induction piece with
  | nil => exact fillChars_place rest
  | cons c piece ih =>
    have not_here := not_place_prefix_append free rest
    rw [List.infix_cons_iff, not_or] at free
    calc
      fillChars value (c :: piece ++ place ++ rest)
        = fillChars value (c :: (piece ++ (place ++ rest))) := by simp
      _ = c :: fillChars value (piece ++ place ++ rest) := by
        rw [fillChars_cons not_here, List.append_assoc]
      _ = c :: piece ++ value ++ fillChars value rest := by rw [ih free.2]; simp

/-- A character at which no place begins belongs to the piece behind it. -/
theorem Filled.cons {template text : List Char} (h : ¬ place <+: c :: template)
    (later : Filled value template text) : Filled value (c :: template) (c :: text) := by
  cases later with
  | plain free =>
    exact .plain (by rw [List.infix_cons_iff]; exact not_or.mpr ⟨h, free⟩)
  | @next piece template text free later =>
    have longer : ¬ place <:+: c :: piece := by
      rw [List.infix_cons_iff, not_or]
      refine ⟨fun begins => h (begins.trans ?_), free⟩
      simp
    simpa using Filled.next longer later

end

/-- The filled message is the one that `fillChars` makes. -/
theorem filled_iff {value template text : List Char} :
    Filled value template text ↔ text = fillChars value template := by
  constructor
  · intro filled
    induction filled with
    | plain free => rw [fillChars_of_free free]
    | next free _ ih => rw [fillChars_append_place free, ih]
  · rintro rfl
    -- The cases are those of the scan: a place, any other character, and the end.
    fun_induction fillChars value template with
    | case1 rest ih =>
      have nothing_before : ¬ place <:+: [] := by simp [place]
      exact .next nothing_before ih
    | case2 c rest no_place ih =>
      refine ih.cons ?_
      rintro ⟨behind, h⟩
      simp only [place, List.cons_append, List.nil_append, List.cons.injEq] at h
      exact no_place behind h.1.symm h.2.symm
    | case3 => exact .plain (by simp [place])

/-- The characters of a filled message. -/
theorem filled_toList_fill (template value : String) :
    Filled value.toList template.toList (fill template value).toList := by
  rw [filled_iff, fill, String.toList_ofList]

end PaymentRules.Text
