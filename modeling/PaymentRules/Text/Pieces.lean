/-!
# Pieces of a text

A list in a cell is written with a mark between its values, and a configured message has places to
fill in.

## Main definitions

* `Text.splitAt` — the pieces of a text between the occurrences of a mark
* `Text.fill` — a message with every place `{0}` filled in
-/

namespace PaymentRules.Text

/-- The characters before the first mark, and the pieces after it. -/
def cut (mark : Char) : List Char → List Char × List (List Char)
  | [] => ([], [])
  | c :: rest =>
    let (piece, pieces) := cut mark rest
    if c = mark then ([], piece :: pieces) else (c :: piece, pieces)

/-- The pieces of a text between the occurrences of a mark: always one more than there are marks. -/
def splitAt (mark : Char) (s : String) : List String :=
  let (piece, pieces) := cut mark s.toList
  (piece :: pieces).map String.ofList

theorem length_cut (mark : Char) (cs : List Char) : (cut mark cs).2.length = cs.count mark := by
  induction cs with
  | nil => rfl
  | cons c rest ih =>
    by_cases h : c = mark <;> simp [cut, h, ih]

theorem length_splitAt (mark : Char) (s : String) :
    (splitAt mark s).length = s.toList.count mark + 1 := by
  simp [splitAt, length_cut]

/-- A text without the mark is its own only piece. -/
theorem cut_of_not_mem {mark : Char} {cs : List Char} (h : mark ∉ cs) : cut mark cs = (cs, []) := by
  induction cs with
  | nil => rfl
  | cons c rest ih =>
    have hc : c ≠ mark := fun e => h (by simp [e])
    simp [cut, hc, ih (fun m => h (by simp [m]))]

/-- Fills the value into every place of a message. What is filled in is not searched again. -/
def fillChars (value : List Char) : List Char → List Char
  | '\x7b' :: '0' :: '\x7d' :: rest => value ++ fillChars value rest
  | c :: rest => c :: fillChars value rest
  | [] => []

/-- A message with the value in every place `{0}`. -/
def fill (template value : String) : String :=
  String.ofList (fillChars value.toList template.toList)

end PaymentRules.Text
