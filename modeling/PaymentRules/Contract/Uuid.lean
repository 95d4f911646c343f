import PaymentRules.Json.Token
import PaymentRules.Text.Letters

/-!
# Identifiers of requests

A request carries a number of 128 bits by which everything that it causes can be found again. It is
written with 32 hexadecimal digits in five groups. On reading, the groups may be run together; when
they are not, the whole may stand in braces or behind `urn:uuid:`. All letters may be of either
case.

## Main definitions

* `Uuid` — the digits of an identifier
* `Uuid.toText`, `Uuid.ofText?`
-/

namespace PaymentRules

/-- An identifier of 32 hexadecimal digits. -/
structure Uuid where
  digits : List (Fin 16)
  length_eq : digits.length = 32
  deriving DecidableEq

namespace Uuid

/-- The identifier whose digits are all zero. -/
def zero : Uuid :=
  ⟨List.replicate 32 0, by decide⟩

instance : Inhabited Uuid := ⟨zero⟩

/-- The character of a digit. -/
def digitChar (digit : Fin 16) : Char :=
  Nat.digitChar digit.val

/-- The digit of a character of either case. -/
def digit? (c : Char) : Option (Fin 16) := do
  let value ← Json.Lexer.hexDigit? c
  if h : value < 16 then some ⟨value, h⟩ else none

/-- The text of an identifier. -/
def toText (id : Uuid) : String :=
  let cs := id.digits.map digitChar
  String.ofList (cs.take 8 ++ '-' :: (cs.drop 8).take 4 ++ '-' :: (cs.drop 12).take 4 ++
    '-' :: (cs.drop 16).take 4 ++ '-' :: cs.drop 20)

/-- The digits of five groups with hyphens between them. -/
def ungroup? (cs : List Char) : Option (List Char) :=
  if cs[8]? = some '-' ∧ cs[13]? = some '-' ∧ cs[18]? = some '-' ∧ cs[23]? = some '-' then
    some (cs.take 8 ++ (cs.drop 9).take 4 ++ (cs.drop 14).take 4 ++ (cs.drop 19).take 4 ++
      cs.drop 24)
  else none

/-- What stands in front of an identifier in a name, in any case. -/
def namePart : String := "urn:uuid:"

/-- The digits of an identifier in one of its four forms, which differ in length. -/
def plainDigits? (cs : List Char) : Option (List Char) :=
  if cs.length = 32 then some cs
  else if cs.length = 36 then ungroup? cs
  else if cs.length = 38 ∧ cs.head? = some '\x7b' ∧ cs.getLast? = some '\x7d' then
    ungroup? ((cs.drop 1).take 36)
  else if cs.length = 45 ∧ Text.sameLetters (String.ofList (cs.take 9)) namePart then
    ungroup? (cs.drop 9)
  else none

/-- The identifier that a text is. -/
def ofText? (text : String) : Option Uuid := do
  let cs ← plainDigits? text.toList
  let digits ← cs.mapM digit?
  if h : digits.length = 32 then some ⟨digits, h⟩ else none

/-- The identifier that a document is. -/
def ofJson? : Json → Option Uuid
  | .string text => ofText? text
  | _ => none

/-- The document of an identifier. -/
def toJson (id : Uuid) : Json :=
  .string id.toText

end Uuid

end PaymentRules
