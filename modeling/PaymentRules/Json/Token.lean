import PaymentRules.Json.Numeral

/-!
# JSON tokens

The text of a document is cut into tokens from left to right, one character at a time. Words and
numerals go on as long as their characters do. Inside a string a backslash starts an escape. A
character outside the basic plane may be escaped as a pair of surrogates, one right behind the
other; a string with half of a pair is well formed, but it has no text.

## Main definitions

* `Json.Token` — the tokens
* `Json.Lexer` and `Lexer.step` — the reader and its reaction to a character
* `Json.tokens?` — the tokens of a text, if it has any
-/

namespace PaymentRules.Json

/-- A token of a JSON text. -/
inductive Token where
  | openObject
  | closeObject
  | openArray
  | closeArray
  | colon
  | comma
  /-- A value that is no container and no string. -/
  | scalar (value : Json)
  /-- A string, with its text unless it holds half of a surrogate pair. -/
  | string (text : Option String)

/-- The inside of a string, read so far. -/
structure Quoted where
  /-- The characters, the last one first. -/
  text : List Char
  isReadable : Bool
  /-- The first half of a surrogate pair that was read last. -/
  pending : Option Nat

namespace Quoted

/-- Nothing is read yet. -/
def empty : Quoted :=
  ⟨[], true, none⟩

/-- One more character. It parts a half pair from its other half. -/
def push (q : Quoted) (c : Char) : Quoted :=
  ⟨c :: q.text, q.isReadable && q.pending.isNone, none⟩

/-- One more unit that was escaped by its number. -/
def pushUnit (q : Quoted) (unit : Nat) : Quoted :=
  let isHigh := 0xD800 ≤ unit && unit < 0xDC00
  let isLow := 0xDC00 ≤ unit && unit < 0xE000
  match q.pending with
  | some high =>
    if isLow then
      { q with
        text := Char.ofNat (0x10000 + (high - 0xD800) * 0x400 + (unit - 0xDC00)) :: q.text
        pending := none }
    -- a high half without its low half stands for no character
    else { q with isReadable := false, pending := none }
  | none =>
    if isHigh then { q with pending := some unit }
    else if isLow then { q with isReadable := false }
    else q.push (Char.ofNat unit)

/-- The text of the string. -/
def finish (q : Quoted) : Option String :=
  if q.isReadable && q.pending.isNone then some (String.ofList q.text.reverse) else none

end Quoted

/-- What the reader is in the middle of. Characters are kept with the last one first. -/
inductive Lexer.Mode where
  | between
  | word (letters : List Char)
  | numeral (chars : List Char)
  | string (q : Quoted)
  | escape (q : Quoted)
  | unit (q : Quoted) (digits value : Nat)

/-- The reader of a text, with the tokens found, the last one first. -/
structure Lexer where
  mode : Lexer.Mode
  tokens : List Token

namespace Lexer

/-- Nothing is read yet. -/
def initial : Lexer :=
  ⟨.between, []⟩

/-- The value of a word. -/
def word? (letters : List Char) : Option Json :=
  match String.ofList letters with
  | "null" => some .null
  | "true" => some (.bool true)
  | "false" => some (.bool false)
  | _ => none

/-- The characters that a numeral may have. -/
def isNumeralChar (c : Char) : Bool :=
  c.isDigit || c == '-' || c == '+' || c == '.' || c == 'e' || c == 'E'

/-- The character of an escape by a letter. -/
def escaped? (c : Char) : Option Char :=
  match c with
  | '"' => some '"'
  | '\\' => some '\\'
  | '/' => some '/'
  | 'b' => some '\x08'
  | 'f' => some '\x0c'
  | 'n' => some '\n'
  | 'r' => some '\r'
  | 't' => some '\t'
  | _ => none

/-- The value of a hexadecimal digit. -/
def hexDigit? (c : Char) : Option Nat :=
  if c.isDigit then some (c.toNat - '0'.toNat)
  else if 'a' ≤ c && c ≤ 'f' then some (c.toNat - 'a'.toNat + 10)
  else if 'A' ≤ c && c ≤ 'F' then some (c.toNat - 'A'.toNat + 10)
  else none

/-- The tokens, with the word or numeral that ends here. Strings do not end of themselves. -/
def close? (l : Lexer) : Option (List Token) :=
  match l.mode with
  | .between => some l.tokens
  | .word letters => do
    let value ← word? letters.reverse
    return .scalar value :: l.tokens
  | .numeral chars => do
    let numeral ← Numeral.ofChars? chars.reverse
    return .scalar numeral.toJson :: l.tokens
  | _ => none

/-- The reaction to the first character of something. -/
def start? (tokens : List Token) (c : Char) : Option Lexer :=
  match c with
  | ' ' | '\n' | '\r' | '\t' => some ⟨.between, tokens⟩
  | '\x7b' => some ⟨.between, .openObject :: tokens⟩
  | '\x7d' => some ⟨.between, .closeObject :: tokens⟩
  | '[' => some ⟨.between, .openArray :: tokens⟩
  | ']' => some ⟨.between, .closeArray :: tokens⟩
  | ':' => some ⟨.between, .colon :: tokens⟩
  | ',' => some ⟨.between, .comma :: tokens⟩
  | '"' => some ⟨.string .empty, tokens⟩
  | _ =>
    if c == '-' || c.isDigit then some ⟨.numeral [c], tokens⟩
    else if c.isLower then some ⟨.word [c], tokens⟩
    else none

/-- Reads one character. -/
def step? (l : Lexer) (c : Char) : Option Lexer :=
  match l.mode with
  | .between => start? l.tokens c
  | .word letters =>
    -- a word ends where the next thing starts, at the same character
    if c.isLower then some ⟨.word (c :: letters), l.tokens⟩
    else do start? (← l.close?) c
  | .numeral chars =>
    if isNumeralChar c then some ⟨.numeral (c :: chars), l.tokens⟩
    else do start? (← l.close?) c
  | .string q =>
    if c = '"' then some ⟨.between, .string q.finish :: l.tokens⟩
    else if c = '\\' then some ⟨.escape q, l.tokens⟩
    -- control characters have to be escaped
    else if c.toNat < 0x20 then none
    else some ⟨.string (q.push c), l.tokens⟩
  | .escape q =>
    if c = 'u' then some ⟨.unit q 0 0, l.tokens⟩
    else do return ⟨.string (q.push (← escaped? c)), l.tokens⟩
  | .unit q digits value => do
    let digit ← hexDigit? c
    let value := value * 16 + digit
    if digits = 3 then return ⟨.string (q.pushUnit value), l.tokens⟩
    else return ⟨.unit q (digits + 1) value, l.tokens⟩

end Lexer

/-- The tokens of a text. -/
def tokens? (text : List Char) : Option (List Token) := do
  let l ← text.foldlM Lexer.step? Lexer.initial
  return (← l.close?).reverse

end PaymentRules.Json
