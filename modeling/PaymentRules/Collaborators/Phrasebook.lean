import PaymentRules.Collaborators.Basic
import PaymentRules.Text.Letters

/-!
# Phrasebooks

A phrasebook holds texts under a language and a key. Languages are told apart up to the case of
A to Z, keys exactly. A key without a text stands for itself.
-/

namespace PaymentRules

/-- Texts under a folded language and a key. A later entry comes first. -/
structure Phrasebook where
  entries : List ((String × String) × String)

namespace Phrasebook

/-- No texts. -/
def empty : Phrasebook :=
  ⟨[]⟩

/-- The phrasebook with one more text, in place of any before it. -/
def add (book : Phrasebook) (language key text : String) : Phrasebook :=
  ⟨((Text.fold language, key), text) :: book.entries⟩

/-- The text for a key in a language. -/
def localize (book : Phrasebook) : Localizer :=
  fun key language => (book.entries.lookup (Text.fold language, key)).getD key

end Phrasebook

end PaymentRules
