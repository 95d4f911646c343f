import PaymentRules.Dimension
import PaymentRules.ResolveError

/-!
# Narrowing candidates

A query is answered by passes over a list of candidates. Each pass looks at one property of the
query and keeps the candidates whose dimension accepts its value, in their order. A pass that keeps
nobody is the error of the query, so what is left after a pass always has a first member.

## Main definitions

* `Pass` — a property, the query's value for it, and where a candidate keeps its dimension
* `Survivors` — the candidates left after a pass, at least one
* `Pass.narrow` — one pass, with `narrow_eq_ok_iff` for what it keeps
-/

namespace PaymentRules

/-- One pass over candidates of type `α`. -/
structure Pass (α : Type) where
  dimension : MatchDimension
  value : Option String
  /-- The text for the case that nobody is left. An empty text counts as none. -/
  template : Option String
  /-- The dimension of a candidate that the value has to satisfy. -/
  select : α → Dimension

/-- Candidates in their order, of which there is at least one. -/
structure Survivors (α : Type) where
  first : α
  others : List α

namespace Survivors

variable {α : Type}

/-- All candidates. -/
def toList (s : Survivors α) : List α :=
  s.first :: s.others

/-- The number of candidates. -/
def count (s : Survivors α) : Nat :=
  s.toList.length

/-- A list as candidates, unless it is empty. -/
def ofList? : List α → Option (Survivors α)
  | [] => none
  | first :: others => some ⟨first, others⟩

theorem ofList?_eq_some_iff {l : List α} {s : Survivors α} : ofList? l = some s ↔ l = s.toList := by
  cases l with
  | nil => simp [ofList?, toList]
  | cons a l =>
    cases s
    simp [ofList?, toList]

@[simp] theorem ofList?_eq_none_iff {l : List α} : ofList? l = none ↔ l = [] := by
  cases l <;> simp [ofList?]

end Survivors

namespace Pass

variable {α : Type}

/-- Whether the pass keeps a candidate. -/
def keeps (pass : Pass α) (candidate : α) : Bool :=
  (pass.select candidate).accepts pass.value

/-- The error when the pass keeps nobody. -/
def exhausted (pass : Pass α) : ResolveError :=
  .narrowingExhausted pass.dimension (pass.value.getD "") (pass.template.filter (· ≠ ""))

/-- The candidates that the pass keeps, or its error. -/
def narrow (pass : Pass α) (candidates : List α) : Except ResolveError (Survivors α) :=
  match Survivors.ofList? (candidates.filter pass.keeps) with
  | some survivors => .ok survivors
  | none => .error pass.exhausted

theorem narrow_eq_ok_iff {pass : Pass α} {candidates : List α} {survivors : Survivors α} :
    pass.narrow candidates = .ok survivors ↔ candidates.filter pass.keeps = survivors.toList := by
  rw [← Survivors.ofList?_eq_some_iff, narrow]
  cases Survivors.ofList? (candidates.filter pass.keeps) <;> simp

theorem narrow_eq_error_iff {pass : Pass α} {candidates : List α} {e : ResolveError} :
    pass.narrow candidates = .error e ↔
      candidates.filter pass.keeps = [] ∧ e = pass.exhausted := by
  rw [← Survivors.ofList?_eq_none_iff, narrow]
  cases Survivors.ofList? (candidates.filter pass.keeps) <;> simp [eq_comm]

end Pass

end PaymentRules
