import PaymentRules.Proofs.Json.Lexing
import PaymentRules.Proofs.Json.Shape

/-!
# The tokens of a printed document

The tokens of a document follow its structure. Both printings are these tokens one after the other,
with different margins between them, so both are cut into them.

## Main definitions

* `Json.tokens` — the tokens of a document
* `Json.IsPrinting` — what the two printings have in common

## Main results

* `Json.tokens?_compact`, `Json.tokens?_pretty` — both printings are cut into the tokens
-/

namespace PaymentRules.Json

mutual

/-- The tokens of a document. -/
def tokens : Json → List Token
  | .array items =>
    .openArray :: List.intercalate [.comma] (tokensOfItems items) ++ [.closeArray]
  | .object members =>
    .openObject :: List.intercalate [.comma] (tokensOfMembers members) ++ [.closeObject]
  | .string text => [.string (some text)]
  | value => [.scalar value]

/-- The tokens of each item. -/
def tokensOfItems : List Json → List (List Token)
  | [] => []
  | item :: items => item.tokens :: tokensOfItems items

/-- The tokens of each member. -/
def tokensOfMembers : List (String × Json) → List (List Token)
  | [] => []
  | (key, value) :: members =>
    (.string (some key) :: .colon :: value.tokens) :: tokensOfMembers members

end

/-- Whether a document is an array or an object. -/
def isContainer : Json → Bool
  | .array _ | .object _ => true
  | _ => false

open Lexer

theorem tokensOfItems_eq (items : List Json) : tokensOfItems items = items.map tokens := by
  induction items with
  | nil => rfl
  | cons item items ih => rw [tokensOfItems, ih, List.map_cons]

theorem tokensOfMembers_eq (members : List (String × Json)) : tokensOfMembers members =
    members.map fun member => .string (some member.1) :: .colon :: member.2.tokens := by
  induction members with
  | nil => rfl
  | cons member members ih => rw [tokensOfMembers, ih, List.map_cons]

/-- A printing of documents at each level of nesting: the contents of a container stand one level
further in, with commas and margins between them. -/
structure IsPrinting (write : Nat → Json → String) : Prop where
  scalar : ∀ level json, json.isContainer = false → write level json = json.scalar
  array : ∀ level items, ∃ inner outer, IsMargin inner ∧ IsMargin outer ∧
    (write level (.array items)).toList = '[' :: inner ++
      (',' :: inner).intercalate (items.map fun item => (write (level + 1) item).toList) ++
        outer ++ [']']
  object : ∀ level members, ∃ inner outer count, IsMargin inner ∧ IsMargin outer ∧
    (write level (.object members)).toList = '\x7b' :: inner ++
      (',' :: inner).intercalate (members.map fun member => (quoted member.1).toList ++
        ':' :: List.replicate count ' ' ++ (write (level + 1) member.2).toList) ++
        outer ++ ['\x7d']

/-- A value that is no container is one token. -/
theorem lexes_scalar {json : Json} (exact : json.isExact) (scalar : json.isContainer = false) :
    Lexes json.scalar.toList json.tokens := by
  cases json with
  | null => exact lexes_null
  | bool value => exact lexes_bool value
  | integer value => exact lexes_integer exact
  | string text => exact (passes_quoted text).lexes
  | array | object => cases scalar
  | double | unreadable => cases exact

/-- A document that is printed is cut into its tokens. -/
theorem IsPrinting.lexes {write : Nat → Json → String} (printing : IsPrinting write) {json : Json}
    (exact : json.isExact) (level : Nat) : Lexes (write level json).toList json.tokens := by
  induction json using induct generalizing level with
  | array items ih =>
    obtain ⟨inner, outer, before, behind, text⟩ := printing.array level items
    have each : List.Forall₂ Lexes (items.map fun item => (write (level + 1) item).toList)
        (tokensOfItems items) := by
      rw [tokensOfItems_eq, List.forall₂_map_left_iff, List.forall₂_map_right_iff,
        List.forall₂_same]
      exact fun item mem => ih item mem (allScalars_array.1 exact item mem) (level + 1)
    rw [text, tokens]
    exact (passes_container (fun _ => rfl) (fun _ => rfl) .closeArray before behind each).lexes
  | object members ih =>
    obtain ⟨inner, outer, count, before, behind, text⟩ := printing.object level members
    have each : List.Forall₂ Lexes (members.map fun member => (quoted member.1).toList ++
        ':' :: List.replicate count ' ' ++ (write (level + 1) member.2).toList)
        (tokensOfMembers members) := by
      rw [tokensOfMembers_eq, List.forall₂_map_left_iff, List.forall₂_map_right_iff,
        List.forall₂_same]
      intro member mem
      have colon : Passes [':'] [.colon] := fun _ => rfl
      have key := (passes_quoted member.1).append (colon.append (passes_replicate count))
      exact key.append_lexes
        (ih member mem (allScalars_object.1 exact member mem) (level + 1))
    rw [text, tokens]
    exact (passes_container (fun _ => rfl) (fun _ => rfl) .closeObject before behind each).lexes
  | _ =>
    rw [printing.scalar level _ rfl]
    exact lexes_scalar exact rfl

theorem compactItems_eq (items : List Json) : compactItems items = items.map compact := by
  induction items with
  | nil => rfl
  | cons item items ih => rw [compactItems, ih, List.map_cons]

theorem compactMembers_eq (members : List (String × Json)) : compactMembers members =
    members.map fun member => quoted member.1 ++ ":" ++ member.2.compact := by
  induction members with
  | nil => rfl
  | cons member members ih => rw [compactMembers, ih, List.map_cons]

theorem isPrinting_compact : IsPrinting fun _ => compact where
  scalar _ json scalar := by cases json <;> first | rfl | cases scalar
  array _ items := by
    refine ⟨[], [], .nothing, .nothing, ?_⟩
    simp [compact, compactItems_eq, String.toList_intercalate, Function.comp_def]
  object _ members := by
    refine ⟨[], [], 0, .nothing, .nothing, ?_⟩
    simp [compact, compactMembers_eq, String.toList_intercalate, Function.comp_def]

theorem prettyItems_eq (level : Nat) (items : List Json) :
    prettyItems level items = items.map (prettyAt level) := by
  induction items with
  | nil => rfl
  | cons item items ih => rw [prettyItems, ih, List.map_cons]

theorem prettyMembers_eq (level : Nat) (members : List (String × Json)) :
    prettyMembers level members =
      members.map fun member => quoted member.1 ++ ": " ++ prettyAt level member.2 := by
  induction members with
  | nil => rfl
  | cons member members ih => rw [prettyMembers, ih, List.map_cons]

theorem toList_block (level : Nat) (opening closing : String) (contents : List String) :
    ∃ inner outer, IsMargin inner ∧ IsMargin outer ∧
      (block level opening closing contents).toList = opening.toList ++ inner ++
        (',' :: inner).intercalate (contents.map String.toList) ++ outer ++ closing.toList := by
  have line : ∀ level, (margin level).toList = '\n' :: List.replicate (2 * level) ' ' := by
    simp [margin]
  cases contents with
  | nil => exact ⟨[], [], .nothing, .nothing, by simp [block]⟩
  | cons first rest =>
    refine ⟨_, _, .line (2 * (level + 1)), .line (2 * level), ?_⟩
    simp [block, line, String.toList_intercalate]

theorem isPrinting_pretty : IsPrinting prettyAt where
  scalar _ json scalar := by cases json <;> first | rfl | cases scalar
  array level items := by
    obtain ⟨inner, outer, before, behind, text⟩ :=
      toList_block level "[" "]" (prettyItems (level + 1) items)
    refine ⟨inner, outer, before, behind, ?_⟩
    rw [prettyAt, text, prettyItems_eq]
    simp [Function.comp_def]
  object level members := by
    obtain ⟨inner, outer, before, behind, text⟩ :=
      toList_block level "\x7b" "\x7d" (prettyMembers (level + 1) members)
    refine ⟨inner, outer, 1, before, behind, ?_⟩
    rw [prettyAt, text, prettyMembers_eq]
    simp [Function.comp_def]

theorem tokens?_of_lexes {text : String} {tokens : List Token} (lex : Lexes text.toList tokens) :
    tokens? text.toList = some tokens := by
  obtain ⟨l, reads, holds⟩ := lex []
  have read : text.toList.foldlM step? initial = some l := reads
  simp [tokens?, read, holds.close]

/-- The compact text of a document is cut into its tokens. -/
theorem tokens?_compact {json : Json} (exact : json.isExact) :
    tokens? json.compact.toList = some json.tokens :=
  tokens?_of_lexes (isPrinting_compact.lexes exact 0)

/-- The text of a document over several lines is cut into the same tokens. -/
theorem tokens?_pretty {json : Json} (exact : json.isExact) :
    tokens? json.pretty.toList = some json.tokens :=
  tokens?_of_lexes (isPrinting_pretty.lexes exact 0)

end PaymentRules.Json
