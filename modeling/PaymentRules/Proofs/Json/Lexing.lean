import PaymentRules.Json.Reader
import PaymentRules.Json.Writer
import PaymentRules.Proofs.Json.Numeral
import Mathlib.Data.List.Forall2

/-!
# How printed texts are cut

A word or a numeral ends only where the next thing starts. So a text is cut into tokens in two ways:
it either closes its last token itself, as a string or a bracket does, or leaves that to the comma,
the bracket or the line that stands behind it. Texts of both kinds can be put together, and what is
cut when they are is what was cut before.

## Main definitions

* `Lexer.Passes` — a text is cut into some tokens, and the last one is closed
* `Lexer.Lexes` — a text is cut into some tokens, and the last one is closed by a boundary

## Main results

* `Lexer.passes_quoted` — a quoted string is one token, whatever characters are in it
* `Lexer.lexes_integer` — so is an integer that fits 64 bits
* `Lexer.passes_container` — a container from its contents, on one line or over several
-/

namespace PaymentRules.Json

namespace Lexer

/-- The characters that stand behind a value. -/
inductive IsBoundary : Char → Prop
  | comma : IsBoundary ','
  | closeArray : IsBoundary ']'
  | closeObject : IsBoundary '\x7d'
  | line : IsBoundary '\n'

/-- What has been read amounts to some tokens once a boundary or the end of the text comes. -/
structure Holds (l : Lexer) (found : List Token) : Prop where
  close : l.close? = some found
  step : ∀ c, IsBoundary c → l.step? c = step? ⟨.between, found⟩ c

/-- From between two tokens a text leads to between two tokens, and these are found in it. -/
def Passes (text : List Char) (tokens : List Token) : Prop :=
  ∀ before, text.foldlM step? ⟨.between, before⟩ = some ⟨.between, tokens.reverse ++ before⟩

/-- From between two tokens a text leads to where a boundary makes these tokens complete. -/
def Lexes (text : List Char) (tokens : List Token) : Prop :=
  ∀ before, ∃ l, text.foldlM step? ⟨.between, before⟩ = some l ∧ l.Holds (tokens.reverse ++ before)

theorem holds_between (found : List Token) : Holds ⟨.between, found⟩ found :=
  ⟨rfl, fun _ _ => rfl⟩

section Composition

variable {text later : List Char} {tokens others : List Token}

theorem passes_nil : Passes [] [] := fun _ => rfl

theorem Passes.lexes (passes : Passes text tokens) : Lexes text tokens := fun before =>
  ⟨_, passes before, holds_between _⟩

theorem Passes.append (first : Passes text tokens) (second : Passes later others) :
    Passes (text ++ later) (tokens ++ others) := by
  intro before
  rw [List.foldlM_append, first before]
  simpa using second (tokens.reverse ++ before)

theorem Passes.append_lexes (first : Passes text tokens) (second : Lexes later others) :
    Lexes (text ++ later) (tokens ++ others) := by
  intro before
  obtain ⟨l, reads, holds⟩ := second (tokens.reverse ++ before)
  refine ⟨l, ?_, by simpa using holds⟩
  rw [List.foldlM_append, first before]
  exact reads

/-- A boundary closes the last token. -/
theorem Lexes.append_passes {c : Char} (first : Lexes text tokens) (boundary : IsBoundary c)
    (second : Passes (c :: later) others) : Passes (text ++ c :: later) (tokens ++ others) := by
  intro before
  obtain ⟨l, reads, holds⟩ := first before
  have closed := second (tokens.reverse ++ before)
  rw [List.foldlM_cons, ← holds.step c boundary, ← List.foldlM_cons] at closed
  rw [List.foldlM_append, reads]
  simpa using closed

/-- Texts with a separator between them. -/
theorem lexes_intercalate {c : Char} {texts : List (List Char)} {parts : List (List Token)}
    {separator : List Token} (boundary : IsBoundary c) (separates : Passes (c :: later) separator)
    (lex : List.Forall₂ Lexes texts parts) :
    Lexes ((c :: later).intercalate texts) (separator.intercalate parts) := by
  induction lex with
  | nil => exact passes_nil.lexes
  | @cons text part texts parts first rest ih =>
    cases rest with
    | nil => simpa using first
    | cons next rest =>
      rw [List.intercalate_cons_cons, List.intercalate_cons_cons]
      exact (first.append_passes boundary separates).append_lexes ih

end Composition

section Strings

/-- The escape of a control character by its number. -/
theorem toDigits_control {n : Nat} (control : n < 0x20) :
    List.replicate (4 - (Nat.toDigits 16 n).length) '0' ++ Nat.toDigits 16 n =
      ['0', '0', Nat.digitChar (n / 16), Nat.digitChar (n % 16)] := by
  revert n
  decide

theorem hexDigit?_digitChar {d : Nat} (hex : d < 16) : hexDigit? (Nat.digitChar d) = some d := by
  revert d
  decide

/-- A control character is no half of a surrogate pair. -/
theorem pushUnit_control {c : Char} (control : c.toNat < 0x20) {q : Quoted}
    (whole : q.pending = none) : q.pushUnit c.toNat = q.push c := by
  have notHigh : ¬ (0xD800 ≤ c.toNat ∧ c.toNat < 0xDC00) := by omega
  have notLow : ¬ (0xDC00 ≤ c.toNat ∧ c.toNat < 0xE000) := by omega
  simp [Quoted.pushUnit, whole, notHigh, notLow]

/-- A character is read back from its escaped form. -/
theorem foldlM_escapeChar (c : Char) {q : Quoted} (whole : q.pending = none) (before : List Token) :
    (escapeChar c).foldlM step? ⟨.string q, before⟩ = some ⟨.string (q.push c), before⟩ := by
  unfold escapeChar
  -- the seven characters with an escape of their own come first; what is left of the control
  -- characters is escaped by number, and everything else stands for itself
  split
  iterate 7 rfl
  rename_i quote backslash _ _ _ _ _
  split
  · rename_i control
    have high := hexDigit?_digitChar (d := c.toNat / 16) (by omega)
    have low := hexDigit?_digitChar (d := c.toNat % 16) (by omega)
    have zero : hexDigit? '0' = some 0 := rfl
    have value : c.toNat / 16 * 16 + c.toNat % 16 = c.toNat := by omega
    rw [List.append_assoc, toDigits_control control]
    simp [step?, zero, high, low, value, pushUnit_control control whole]
  · rename_i printed
    have step : step? ⟨.string q, before⟩ c = some ⟨.string (q.push c), before⟩ := by
      simp only [step?]
      rw [if_neg quote, if_neg backslash, if_neg printed]
    rw [List.foldlM_cons, step]
    rfl

theorem foldlM_escaped (cs : List Char) {q : Quoted} (whole : q.pending = none)
    (before : List Token) : (cs.flatMap escapeChar).foldlM step? ⟨.string q, before⟩ =
      some ⟨.string (cs.foldl Quoted.push q), before⟩ := by
  induction cs generalizing q with
  | nil => rfl
  | cons c cs ih =>
    rw [List.flatMap_cons, List.foldlM_append, foldlM_escapeChar c whole]
    exact ih rfl

theorem foldl_push (cs : List Char) (read : List Char) :
    cs.foldl Quoted.push ⟨read, true, none⟩ = ⟨cs.reverse ++ read, true, none⟩ := by
  induction cs generalizing read with
  | nil => rfl
  | cons c cs ih =>
    rw [List.foldl_cons, List.reverse_cons, List.append_assoc]
    exact ih (c :: read)

/-- A quoted string is one token. -/
theorem passes_quoted (text : String) : Passes (quoted text).toList [.string (some text)] := by
  intro before
  have opened : step? ⟨.between, before⟩ '"' = some ⟨.string .empty, before⟩ := rfl
  have finished : (text.toList.foldl Quoted.push .empty).finish = some text := by
    rw [Quoted.empty, foldl_push]
    simp [Quoted.finish]
  have closed : step? ⟨.string (text.toList.foldl Quoted.push .empty), before⟩ '"' =
      some ⟨.between, .string (some text) :: before⟩ := by
    rw [← finished]
    rfl
  rw [quoted, String.toList_ofList, List.cons_append, List.foldlM_cons, opened]
  simp only [Option.bind_eq_bind, Option.bind_some, List.foldlM_append,
    foldlM_escaped _ (q := .empty) rfl, List.foldlM_cons, closed]
  rfl

end Strings

section Words

/-- A boundary ends a word. -/
theorem not_isLower_of_isBoundary {c : Char} (boundary : IsBoundary c) : c.isLower = false := by
  cases boundary <;> rfl

/-- A boundary ends a numeral. -/
theorem not_isNumeralChar_of_isBoundary {c : Char} (boundary : IsBoundary c) :
    isNumeralChar c = false := by
  cases boundary <;> rfl

theorem holds_word {letters : List Char} {value : Json} (known : word? letters.reverse = some value)
    (before : List Token) : Holds ⟨.word letters, before⟩ (.scalar value :: before) where
  close := by simp [close?, known]
  step c boundary := by simp [step?, close?, known, not_isLower_of_isBoundary boundary]

theorem holds_numeral {chars : List Char} {numeral : Numeral}
    (parsed : Numeral.ofChars? chars.reverse = some numeral) (before : List Token) :
    Holds ⟨.numeral chars, before⟩ (.scalar numeral.toJson :: before) where
  close := by simp [close?, parsed]
  step c boundary := by simp [step?, close?, parsed, not_isNumeralChar_of_isBoundary boundary]

theorem lexes_null : Lexes "null".toList [.scalar .null] := fun before =>
  ⟨⟨.word ['l', 'l', 'u', 'n'], before⟩, rfl, holds_word rfl before⟩

theorem lexes_bool (value : Bool) :
    Lexes (scalar (.bool value)).toList [.scalar (.bool value)] := by
  intro before
  cases value with
  | true => exact ⟨⟨.word ['e', 'u', 'r', 't'], before⟩, rfl, holds_word rfl before⟩
  | false => exact ⟨⟨.word ['e', 's', 'l', 'a', 'f'], before⟩, rfl, holds_word rfl before⟩

theorem foldlM_numeral {chars read : List Char} (all : ∀ c ∈ chars, isNumeralChar c)
    (before : List Token) : chars.foldlM step? ⟨.numeral read, before⟩ =
      some ⟨.numeral (chars.reverse ++ read), before⟩ := by
  induction chars generalizing read with
  | nil => rfl
  | cons c chars ih =>
    obtain ⟨first, rest⟩ := List.forall_mem_cons.1 all
    have step : step? ⟨.numeral read, before⟩ c = some ⟨.numeral (c :: read), before⟩ := by
      simp [step?, first]
    rw [List.foldlM_cons, step, List.reverse_cons, List.append_assoc]
    exact ih rest

theorem start?_numeral {c : Char} (opens : c = '-' ∨ c.isDigit) (before : List Token) :
    start? before c = some ⟨.numeral [c], before⟩ := by
  unfold start?
  split <;> simp_all

theorem lexes_numeral {first : Char} {rest : List Char} {numeral : Numeral}
    (opens : first = '-' ∨ first.isDigit) (all : ∀ c ∈ rest, isNumeralChar c)
    (parsed : Numeral.ofChars? (first :: rest) = some numeral) :
    Lexes (first :: rest) [.scalar numeral.toJson] := by
  intro before
  refine ⟨⟨.numeral (rest.reverse ++ [first]), before⟩, ?_, ?_⟩
  · rw [List.foldlM_cons, step?, start?_numeral opens]
    exact foldlM_numeral all before
  · exact holds_numeral (by simpa using parsed) before

theorem lexes_integer {value : Int} (held : holdsInteger value) :
    Lexes (toString value).toList [.scalar (.integer value)] := by
  have parsed := Numeral.ofChars?_toString value
  obtain ⟨first, rest, written, opens, digits⟩ := Numeral.exists_toList_toString value
  rw [written] at parsed ⊢
  rw [← Numeral.toJson_ofInteger held]
  exact lexes_numeral opens (fun c mem => by simp [isNumeralChar, digits c mem]) parsed

end Words

section Containers

/-- What may stand around the contents of a container: nothing, or the start of a line. -/
inductive IsMargin : List Char → Prop
  | nothing : IsMargin []
  | line (count : Nat) : IsMargin ('\n' :: List.replicate count ' ')

theorem passes_replicate (count : Nat) : Passes (List.replicate count ' ') [] := by
  induction count with
  | zero => exact passes_nil
  | succ count ih => exact ih

theorem IsMargin.passes {cs : List Char} (margin : IsMargin cs) : Passes cs [] := by
  cases margin with
  | nothing => exact passes_nil
  | line count => exact passes_replicate count

/-- Contents that are each cut into some tokens are so together, with commas between them. -/
theorem passes_container {opening closing : Char} {front back : Token} {inner outer : List Char}
    {texts : List (List Char)} {parts : List (List Token)} (opens : Passes [opening] [front])
    (closes : Passes [closing] [back]) (boundary : IsBoundary closing) (before : IsMargin inner)
    (behind : IsMargin outer) (lex : List.Forall₂ Lexes texts parts) :
    Passes (opening :: inner ++ (',' :: inner).intercalate texts ++ outer ++ [closing])
      (front :: List.intercalate [.comma] parts ++ [back]) := by
  have comma : Passes [','] [.comma] := fun _ => rfl
  have body := (opens.append before.passes).append_lexes
    (lexes_intercalate .comma (comma.append before.passes) lex)
  -- the last value ends at the margin, or at the end of the container when there is none
  cases behind with
  | nothing => simpa using body.append_passes boundary closes
  | line count =>
    have line : Passes ('\n' :: (List.replicate count ' ' ++ [closing])) [back] :=
      (passes_replicate count).append closes
    simpa using body.append_passes .line line

end Containers

end Lexer

end PaymentRules.Json
