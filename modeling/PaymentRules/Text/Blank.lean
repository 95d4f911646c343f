import PaymentRules.Text.CodePoints

/-!
# Blank characters

Cells and values are trimmed at both ends. A character is blank when it has the Unicode property
White_Space. There are twenty-five of them.

## Main definitions

* `Text.isBlank` — membership in the table
* `Text.trim` — a text without the blanks at its two ends
-/

namespace PaymentRules.Text

/-- The code points with the property White_Space. -/
def blankPoints : CodePoints :=
  [(0x09, 0x0D), (0x20, 0x20), (0x85, 0x85), (0xA0, 0xA0), (0x1680, 0x1680), (0x2000, 0x200A),
   (0x2028, 0x2029), (0x202F, 0x202F), (0x205F, 0x205F), (0x3000, 0x3000)]

example : blankPoints.isAscending = true ∧ blankPoints.count = 25 := by decide

/-- A character that counts as white space. -/
def isBlank (c : Char) : Bool :=
  blankPoints.contains c

/-- The characters that are left when the blanks at both ends are dropped. -/
def trimChars (cs : List Char) : List Char :=
  ((cs.dropWhile isBlank).reverse.dropWhile isBlank).reverse

/-- A text without the blanks at its two ends. -/
def trim (s : String) : String :=
  String.ofList (trimChars s.toList)

@[simp] theorem trimChars_nil : trimChars [] = [] := rfl

@[simp] theorem trim_empty : trim "" = "" := by
  simp [trim]

theorem toList_trim (s : String) : (trim s).toList = trimChars s.toList := by
  simp [trim]

/-- A text that neither starts nor ends with a blank is left alone. -/
theorem trimChars_eq_self {cs : List Char} (first : ∀ c ∈ cs.head?, isBlank c = false)
    (last : ∀ c ∈ cs.getLast?, isBlank c = false) : trimChars cs = cs := by
  cases cs with
  | nil => rfl
  | cons c r =>
    have front : (c :: r).dropWhile isBlank = c :: r := by
      simp [first c (by simp)]
    rw [trimChars, front]
    cases h : (c :: r).reverse with
    | nil => simp at h
    | cons d s =>
      have back : isBlank d = false := last d (by
        rw [← List.head?_reverse, h]; simp)
      rw [List.dropWhile_cons, back, ← h]
      simp

end PaymentRules.Text
