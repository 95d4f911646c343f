import PaymentRules.LoadError

/-!
# Delimiters

The character between the cells of a line. Any ASCII character will do, even one that has another
part in the format; the reader then says which part wins.
-/

namespace PaymentRules

/-- An ASCII character that separates cells. -/
structure Delimiter where
  char : Char
  ascii : char.toNat < 128
  deriving DecidableEq, Repr

namespace Delimiter

/-- The comma. -/
def comma : Delimiter := ⟨',', by decide⟩

instance : Inhabited Delimiter := ⟨comma⟩

/-- The delimiter of a character, refused when the character is not ASCII. -/
def ofChar (c : Char) : Except LoadError Delimiter :=
  if h : c.toNat < 128 then .ok ⟨c, h⟩ else .error (.wideDelimiter c)

theorem ofChar_char (d : Delimiter) : ofChar d.char = .ok d := by
  simp [ofChar, d.ascii]

end Delimiter

end PaymentRules
