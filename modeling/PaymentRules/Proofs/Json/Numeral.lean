import PaymentRules.Json.Numeral
import Mathlib.Data.List.TakeDrop
import Mathlib.Data.List.TakeWhile
import Mathlib.Data.Nat.Digits.Defs

/-!
# Numerals of integers

An integer is written as its decimal digits, behind a minus when it is negative. Read as a numeral
these are the digits of the whole part, with no needless zero in front, and they amount to the
integer again as long as it fits 64 bits.

## Main results

* `Numeral.ofChars?_repr` — the parts of the numeral that an integer is written as
* `Numeral.toJson_ofInteger` — its value
-/

namespace PaymentRules

/-- Only zero is written with a zero in front. -/
theorem head?_toDigits_ne {n : Nat} (positive : 0 < n) :
    (Nat.toDigits 10 n).head? ≠ some '0' := by
  induction n using Nat.strong_induction_on with
  | _ n ih =>
    rcases Nat.lt_or_ge n 10 with small | large
    · have digit : ∀ d < 10, 0 < d → d.digitChar ≠ '0' := by decide
      rw [Nat.toDigits_of_lt_base small]
      exact fun same => digit n small positive (Option.some.inj same)
    · obtain ⟨first, others, front⟩ :=
        List.exists_cons_of_ne_nil (Nat.toDigits_ne_nil (n := n / 10) (b := 10))
      have smaller := ih (n / 10) (by omega) (by omega)
      rw [front] at smaller
      rw [Nat.toDigits_of_base_le (by decide) large, front]
      exact smaller

namespace Numeral

/-- The digits of a natural number. -/
def digitsOf (n : Nat) : List Nat :=
  (Nat.toDigits 10 n).map fun c => c.toNat - '0'.toNat

/-- The numeral that an integer is written as. -/
def ofInteger (value : Int) : Numeral where
  isNegative := decide (value < 0)
  whole := digitsOf value.natAbs
  fraction := none
  exponent := none

theorem ofDigits_digitsOf (n : Nat) : ofDigits (digitsOf n) = n := by
  have sum := @Nat.ofDigitChars_ten_toDigits n
  rw [Nat.ofDigitChars_eq_foldl] at sum
  simpa only [ofDigits, digitsOf, List.foldl_map, Nat.mul_comm] using sum

theorem isDigit_of_mem_toDigits {n : Nat} : ∀ c ∈ Nat.toDigits 10 n, c.isDigit := fun _ mem =>
  Nat.isDigit_of_mem_toDigits (by decide) (by decide) mem

theorem spanDigits_toDigits (n : Nat) : spanDigits (Nat.toDigits 10 n) = (digitsOf n, []) := by
  rw [spanDigits, List.span_eq_takeWhile_dropWhile,
    List.takeWhile_eq_self_iff.2 isDigit_of_mem_toDigits,
    List.dropWhile_eq_nil_iff.2 isDigit_of_mem_toDigits]
  rfl

/-- A digit other than zero stands for another number. -/
theorem digit_ne_zero {c : Char} (digit : c.isDigit) (nonzero : c ≠ '0') :
    c.toNat - '0'.toNat ≠ 0 := by
  have least := (Char.isDigit_iff_toNat.1 digit).1
  have distinct : c.toNat ≠ '0'.toNat := fun same => nonzero (Char.toNat_inj.1 same)
  omega

theorem whole?_toDigits (n : Nat) : whole? (Nat.toDigits 10 n) = some (digitsOf n, []) := by
  rw [whole?, spanDigits_toDigits]
  rcases Nat.eq_zero_or_pos n with rfl | positive
  · rfl
  · obtain ⟨first, others, written⟩ :=
      List.exists_cons_of_ne_nil (Nat.toDigits_ne_nil (n := n) (b := 10))
    have digit : first.isDigit := isDigit_of_mem_toDigits first (written ▸ List.mem_cons_self)
    have nonzero : first ≠ '0' := fun same =>
      head?_toDigits_ne positive (by rw [written, List.head?_cons, same])
    rw [digitsOf, written, List.map_cons]
    split
    · rename_i same
      exact absurd (congrArg Prod.fst same) (List.cons_ne_nil _ _)
    · rename_i same
      exact absurd (List.cons.inj (congrArg Prod.fst same)).1 (digit_ne_zero digit nonzero)
    · rfl

theorem ofChars?_toDigits (n : Nat) :
    ofChars? (Nat.toDigits 10 n) = some ⟨false, digitsOf n, none, none⟩ := by
  have unsigned : ∀ rest, Nat.toDigits 10 n ≠ '-' :: rest := fun rest same => by
    have digit := isDigit_of_mem_toDigits (n := n) '-' (same ▸ List.mem_cons_self)
    exact absurd digit (by decide)
  rw [ofChars?]
  · simp [whole?_toDigits, fraction?, exponent?]
  · exact unsigned

theorem ofChars?_minus_toDigits (n : Nat) :
    ofChars? ('-' :: Nat.toDigits 10 n) = some ⟨true, digitsOf n, none, none⟩ := by
  simp [ofChars?, whole?_toDigits, fraction?, exponent?]

/-- The characters that an integer is written with. -/
theorem toList_toString (value : Int) : (toString value).toList =
    if value < 0 then '-' :: Nat.toDigits 10 value.natAbs else Nat.toDigits 10 value.natAbs := by
  cases value with
  | ofNat n =>
    have text : toString (Int.ofNat n) = n.repr := rfl
    have positive : ¬ Int.ofNat n < 0 := Int.not_lt.2 (Int.natCast_nonneg n)
    rw [text, Nat.repr_eq_ofList_toDigits, String.toList_ofList, if_neg positive]
    rfl
  | negSucc n =>
    have text : toString (Int.negSucc n) = "-" ++ (n + 1).repr := rfl
    rw [text, Nat.repr_eq_ofList_toDigits, if_pos (Int.negSucc_lt_zero n)]
    simp only [String.toList_append, String.toList_ofList]
    rfl

/-- An integer is written with digits, and perhaps a minus in front. -/
theorem exists_toList_toString (value : Int) :
    ∃ first rest, (toString value).toList = first :: rest ∧ (first = '-' ∨ first.isDigit) ∧
      ∀ c ∈ rest, c.isDigit := by
  rw [toList_toString]
  split
  · exact ⟨'-', _, rfl, .inl rfl, isDigit_of_mem_toDigits⟩
  · obtain ⟨first, rest, written⟩ :=
      List.exists_cons_of_ne_nil (Nat.toDigits_ne_nil (n := value.natAbs) (b := 10))
    have digits := isDigit_of_mem_toDigits (n := value.natAbs)
    rw [written] at digits ⊢
    obtain ⟨digit, others⟩ := List.forall_mem_cons.1 digits
    exact ⟨first, rest, rfl, .inr digit, others⟩

theorem ofChars?_toString (value : Int) :
    ofChars? (toString value).toList = some (ofInteger value) := by
  rw [toList_toString]
  by_cases negative : value < 0
  · rw [if_pos negative, ofChars?_minus_toDigits, ofInteger, decide_eq_true negative]
  · rw [if_neg negative, ofChars?_toDigits, ofInteger, decide_eq_false negative]

/-- An integer that is held as one comes back from its numeral. -/
theorem toJson_ofInteger {value : Int} (held : Json.holdsInteger value) :
    (ofInteger value).toJson = .integer value := by
  simp only [Json.holdsInteger, Bool.and_eq_true, decide_eq_true_eq] at held
  by_cases negative : value < 0
  · have fits : 0 < value.natAbs ∧ value.natAbs ≤ 0x8000000000000000 := by omega
    have same : -(value.natAbs : Int) = value := by omega
    simp [-Nat.cast_natAbs, toJson, ofInteger, ofDigits_digitsOf, negative, fits, same]
  · have fits : value.natAbs ≤ maxSignificand := by
      rw [maxSignificand]
      omega
    have same : (value.natAbs : Int) = value := by omega
    simp [-Nat.cast_natAbs, toJson, ofInteger, ofDigits_digitsOf, negative, fits, same]

end Numeral

end PaymentRules
