/-!
# Letter case

Rule values and query values are compared without regard to the case of the letters A to Z. No
other character has a second form here: `É` and `é` differ, and so do `K` and the Kelvin sign.

## Main definitions

* `Text.fold` — a text with A to Z written small
* `Text.sameLetters` — equality up to the case of A to Z, an equivalence by `sameLetters_iff`
-/

namespace PaymentRules.Text

/-- The text with the letters A to Z written small and all else kept. -/
def fold (s : String) : String :=
  String.ofList (s.toList.map Char.toLower)

/-- Two texts are the same up to the case of the letters A to Z. -/
def sameLetters (a b : String) : Bool :=
  fold a == fold b

theorem sameLetters_iff {a b : String} : sameLetters a b = true ↔ fold a = fold b := by
  simp [sameLetters]

@[simp] theorem sameLetters_refl (a : String) : sameLetters a a = true :=
  sameLetters_iff.2 rfl

end PaymentRules.Text
