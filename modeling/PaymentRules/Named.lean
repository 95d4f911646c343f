/-!
# Closed vocabularies

Some cells and fields admit only the words of a fixed list. A type with `Named` is such a list: its
members, and the one word that stands for each.

## Main definitions

* `Named` — the members of a vocabulary and their words
* `Named.ofName?` — the member that a word stands for, if there is one
-/

namespace PaymentRules

/-- A finite vocabulary: each of `all` is written as its `name`. -/
class Named (α : Type) where
  /-- The members, each once. -/
  all : List α
  /-- The word for a member. -/
  name : α → String

namespace Named

/-- The member that the word stands for. Words are compared exactly. -/
def ofName? {α : Type} [Named α] (word : String) : Option α :=
  all.find? fun member => name member == word

end Named

end PaymentRules
