/-!
# Spans of rows

A span is a stretch of row positions, from `start` up to but without `stop`. A span whose end does
not lie behind its start is empty.
-/

namespace PaymentRules

/-- The row positions from `start` up to, and without, `stop`. -/
structure Span where
  start : Nat
  stop : Nat
  deriving DecidableEq, Repr

namespace Span

/-- The number of rows. -/
def length (s : Span) : Nat :=
  s.stop - s.start

/-- Whether the span has no rows. -/
def isEmpty (s : Span) : Bool :=
  s.length == 0

/-- The positions of the rows, in order. -/
def rows (s : Span) : List Nat :=
  List.range' s.start s.length

/-- Whether the ends of `other` lie within the ends of the span. -/
def contains (s other : Span) : Bool :=
  s.start ≤ other.start && other.stop ≤ s.stop

/-- Whether each span starts before the other one stops. -/
def overlaps (s other : Span) : Bool :=
  s.start < other.stop && other.start < s.stop

/-- The text of a span, with its first and its last row. -/
def display (s : Span) : String :=
  if s.isEmpty then "[]" else "[" ++ s.start.repr ++ ", " ++ (s.stop - 1).repr ++ "]"

theorem mem_rows {s : Span} {row : Nat} : row ∈ s.rows ↔ s.start ≤ row ∧ row < s.stop := by
  simp only [rows, length, List.mem_range'_1]
  omega

@[simp] theorem length_rows (s : Span) : s.rows.length = s.length := by
  simp [rows]

theorem isEmpty_iff {s : Span} : s.isEmpty = true ↔ s.stop ≤ s.start := by
  simp only [isEmpty, length, beq_iff_eq]
  omega

end Span

end PaymentRules
