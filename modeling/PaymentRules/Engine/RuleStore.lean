/-!
# Published rules

A store holds the rules that are published. Whoever takes them keeps what was taken, whatever is
published later. Publishing gives rules a number of their own, by which two takings of the same
rules are told from rules that merely have equal contents.

## Main definitions

* `Published` — rules with their number
* `RuleStore` — the store, `RuleStore.snapshot` and `RuleStore.replace`
-/

namespace PaymentRules

/-- Rules that were published, and which publication it was. -/
structure Published (α : Type) where
  generation : Nat
  rules : α
  deriving DecidableEq, Repr

/-- The rules that are published now. -/
structure RuleStore (α : Type) where
  current : Published α
  deriving DecidableEq, Repr

namespace RuleStore

variable {α : Type}

/-- The store in which the first rules are published. -/
def of (rules : α) : RuleStore α :=
  ⟨⟨0, rules⟩⟩

/-- The rules that are published now, for as long as they are needed. -/
def snapshot (store : RuleStore α) : Published α :=
  store.current

/-- Publishes rules, and returns those that they replace. -/
def replace (store : RuleStore α) (rules : α) : Published α × RuleStore α :=
  (store.current, ⟨⟨store.current.generation + 1, rules⟩⟩)

/-- Whether rules that were taken are still the published ones. -/
def isCurrent (store : RuleStore α) (taken : Published α) : Bool :=
  taken.generation == store.current.generation

@[simp] theorem snapshot_replace (store : RuleStore α) (rules : α) :
    (store.replace rules).2.snapshot.rules = rules := rfl

@[simp] theorem isCurrent_snapshot (store : RuleStore α) :
    store.isCurrent store.snapshot = true := by
  simp [isCurrent, snapshot]

end RuleStore

end PaymentRules
