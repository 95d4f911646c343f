import PaymentRules.Json.Token

/-!
# Reading JSON documents

Tokens are put together to a document with a stack of open containers. What may come next depends on
what came last; nothing may follow the value at the top.

## Main definitions

* `Json.Frame` — an open container
* `Json.Builder` and `Builder.step?` — the stack and its reaction to a token
* `Json.read?` — the document that a text is
-/

namespace PaymentRules.Json

/-- A container that is open, with its contents read so far, the last one first. -/
inductive Frame where
  | array (items : List Json)
  /-- An object, whether all of its keys were readable, and the key of the value to come. -/
  | object (members : List (String × Json)) (isReadable : Bool) (key : Option String)

/-- What may come next. -/
inductive Expect where
  | value
  | firstItem
  | firstKey
  | key
  | colon
  | separator
  deriving DecidableEq

/-- The open containers, innermost first, and the document once it is complete. -/
structure Builder where
  expect : Expect
  frames : List Frame
  root : Option Json

namespace Builder

/-- Nothing is read yet. -/
def initial : Builder :=
  ⟨.value, [], none⟩

/-- A value is complete. -/
def complete (b : Builder) (value : Json) : Builder :=
  match b.frames with
  | [] => ⟨.separator, [], some value⟩
  | .array items :: outer => ⟨.separator, .array (value :: items) :: outer, none⟩
  -- the key of a member was read before its value
  | .object members isReadable (some key) :: outer =>
    ⟨.separator, .object ((key, value) :: members) isReadable none :: outer, none⟩
  | .object members _ none :: outer => ⟨.separator, .object members false none :: outer, none⟩

/-- The innermost container is complete. One that is nested too deep, or that has a key without
text, cannot be read. -/
def close (b : Builder) : Builder :=
  match b.frames with
  | [] => b
  | frame :: outer =>
    let value :=
      if maxDepth < b.frames.length then .unreadable
      else
        match frame with
        | .array items => .array items.reverse
        | .object members true _ => .object members.reverse
        | .object _ false _ => .unreadable
    { b with frames := outer }.complete value

/-- The reaction to the first token of a value. -/
def beginValue? (b : Builder) (token : Token) : Option Builder :=
  match token with
  | .scalar value => some (b.complete value)
  | .string (some text) => some (b.complete (.string text))
  | .string none => some (b.complete .unreadable)
  | .openArray => some { b with expect := .firstItem, frames := .array [] :: b.frames }
  | .openObject => some { b with expect := .firstKey, frames := .object [] true none :: b.frames }
  | _ => none

/-- The reaction to a token where a key may come. -/
def key? (b : Builder) (token : Token) : Option Builder :=
  match b.frames, token with
  | .object members isReadable _ :: outer, .string text =>
    some { b with expect := .colon, frames := .object members isReadable text :: outer }
  | _, _ => none

/-- Reads one token. -/
def step? (b : Builder) (token : Token) : Option Builder :=
  match b.expect, token with
  -- a container may be empty, but no comma may stand in front of its end
  | .firstItem, .closeArray => some b.close
  | .firstItem, _ => b.beginValue? token
  | .value, _ => b.beginValue? token
  | .firstKey, .closeObject => some b.close
  | .firstKey, _ => b.key? token
  | .key, _ => b.key? token
  | .colon, .colon => some { b with expect := .value }
  | .colon, _ => none
  | .separator, _ =>
    match b.frames, token with
    | .array _ :: _, .comma => some { b with expect := .value }
    | .array _ :: _, .closeArray => some b.close
    | .object .. :: _, .comma => some { b with expect := .key }
    | .object .. :: _, .closeObject => some b.close
    | _, _ => none

end Builder

/-- The document that a text is, if it is well formed. -/
def read? (text : String) : Option Json := do
  let tokens ← tokens? text.toList
  let b ← tokens.foldlM Builder.step? Builder.initial
  b.root

end PaymentRules.Json
