import PaymentRules.Decimal.Shortest
import PaymentRules.Json.Basic

/-!
# Writing JSON documents

Documents are written either without any space or over several lines, each level two spaces further
in. Empty containers stay on one line. Strings escape the quote, the backslash and the control
characters, and keep every other character.

A double is written with its shortest digits, and with a point at least one digit behind it. From
`1e-5` up to but without `1e16` the digits are written out; beyond, an exponent with a sign follows.

## Main definitions

* `Double.toText` — the text of a double
* `Json.compact`, `Json.pretty` — the two texts of a document
-/

namespace PaymentRules

namespace Double

/-- The text of the magnitude of digits whose first one has this power of ten. -/
def layOut (digits : List Char) (leading : Int) : List Char :=
  if leading < -5 ∨ 15 < leading then
    let fraction := digits.drop 1
    let point := if fraction.isEmpty then [] else ['.']
    let sign := if leading < 0 then '-' else '+'
    digits.take 1 ++ point ++ fraction ++ 'e' :: sign :: (Nat.repr leading.natAbs).toList
  else if leading < 0 then
    ['0', '.'] ++ List.replicate (leading.natAbs - 1) '0' ++ digits
  else
    let count := leading.natAbs + 1
    let whole := digits.take count ++ List.replicate (count - digits.length) '0'
    let fraction := digits.drop count
    whole ++ '.' :: (if fraction.isEmpty then ['0'] else fraction)

/-- The text of a double. -/
def toText (d : Double) : String :=
  let sign := if d.isNegative then ['-'] else []
  if d.mantissa = 0 then String.ofList (sign ++ ['0', '.', '0'])
  else
    let decimal := d.shortest
    let all := Nat.toDigits 10 decimal.digits
    let leading := decimal.exponent + all.length - 1
    let digits := (all.reverse.dropWhile (· == '0')).reverse
    String.ofList (sign ++ layOut digits leading)

end Double

namespace Json

/-- The text of one character of a string. -/
def escapeChar (c : Char) : List Char :=
  match c with
  | '"' => ['\\', '"']
  | '\\' => ['\\', '\\']
  | '\n' => ['\\', 'n']
  | '\r' => ['\\', 'r']
  | '\t' => ['\\', 't']
  | '\x08' => ['\\', 'b']
  | '\x0c' => ['\\', 'f']
  | _ =>
    if c.toNat < 0x20 then
      let digits := Nat.toDigits 16 c.toNat
      ['\\', 'u'] ++ List.replicate (4 - digits.length) '0' ++ digits
    else [c]

/-- The text of a string. -/
def quoted (s : String) : String :=
  String.ofList ('"' :: s.toList.flatMap escapeChar ++ ['"'])

/-- The text of a value that is no container. What could not be read is written as `null`. -/
def scalar : Json → String
  | .bool true => "true"
  | .bool false => "false"
  | .integer value => toString value
  | .double value => value.toText
  | .string value => quoted value
  | _ => "null"

mutual

/-- The text of a document on one line, without spaces. -/
def compact : Json → String
  | .array items => "[" ++ String.intercalate "," (compactItems items) ++ "]"
  | .object members => "\x7b" ++ String.intercalate "," (compactMembers members) ++ "\x7d"
  | value => scalar value

/-- The texts of items. -/
def compactItems : List Json → List String
  | [] => []
  | item :: items => compact item :: compactItems items

/-- The texts of members. -/
def compactMembers : List (String × Json) → List String
  | [] => []
  | (key, value) :: members => (quoted key ++ ":" ++ compact value) :: compactMembers members

end

/-- The start of a line at this level. -/
def margin (level : Nat) : String :=
  "\n" ++ String.ofList (List.replicate (2 * level) ' ')

/-- The contents of a container at this level, each on its own line. -/
def block (level : Nat) (opening closing : String) (contents : List String) : String :=
  if contents.isEmpty then opening ++ closing
  else
    opening ++ margin (level + 1) ++ String.intercalate ("," ++ margin (level + 1)) contents ++
      margin level ++ closing

mutual

/-- The text of a document that starts at this level. -/
def prettyAt (level : Nat) : Json → String
  | .array items => block level "[" "]" (prettyItems (level + 1) items)
  | .object members => block level "\x7b" "\x7d" (prettyMembers (level + 1) members)
  | value => scalar value

/-- The texts of items at this level. -/
def prettyItems (level : Nat) : List Json → List String
  | [] => []
  | item :: items => prettyAt level item :: prettyItems level items

/-- The texts of members at this level. -/
def prettyMembers (level : Nat) : List (String × Json) → List String
  | [] => []
  | (key, value) :: members =>
    (quoted key ++ ": " ++ prettyAt level value) :: prettyMembers level members

end

/-- The text of a document over several lines. -/
def pretty (json : Json) : String :=
  prettyAt 0 json

end Json

end PaymentRules
