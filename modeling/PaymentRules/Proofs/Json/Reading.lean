import PaymentRules.Proofs.Json.Printing

/-!
# Printed documents are read back

The tokens of a document are put together to the document again, at any place where a value may
come, as long as the containers that are open there leave room for it. With the tokens of the two
printings this is the way back from a text: what is exact and not nested too deep survives it.

## Main results

* `Builder.completes` — the tokens of a document complete it
* `Json.read?_compact`, `Json.read?_pretty` — a printed document is read as itself
-/

namespace PaymentRules.Json

namespace Builder

/-- A value may come next. -/
def AwaitsValue (b : Builder) : Prop :=
  b.expect = .value ∨ b.expect = .firstItem

/-- A key may come next. -/
def AwaitsKey (b : Builder) : Prop :=
  b.expect = .key ∨ b.expect = .firstKey

/-- The tokens of a document complete it, where the open containers leave room for it. -/
def Completes (json : Json) : Prop :=
  ∀ b : Builder, b.AwaitsValue → b.frames.length + json.depth ≤ maxDepth →
    json.tokens.foldlM step? b = some (b.complete json)

section Steps

variable {b : Builder} {outer : List Frame}

/-- Where a value may come, a token other than the end of an array begins one. -/
theorem step?_of_awaitsValue (awaits : b.AwaitsValue) {token : Token}
    (begins : token ≠ .closeArray) : b.step? token = b.beginValue? token := by
  obtain ⟨expect, frames, root⟩ := b
  rcases awaits with rfl | rfl
  · rfl
  · cases token <;> first | rfl | exact absurd rfl begins

/-- Where a key may come, a string is one. -/
theorem step?_of_awaitsKey (awaits : b.AwaitsKey) {members : List (String × Json)}
    {key? : Option String} (opened : b.frames = .object members true key? :: outer) (key : String) :
    b.step? (.string (some key)) =
      some ⟨.colon, .object members true (some key) :: outer, b.root⟩ := by
  obtain ⟨expect, frames, root⟩ := b
  obtain rfl : frames = _ := opened
  rcases awaits with rfl | rfl <;> rfl

/-- The end of an array completes it where it stands. -/
theorem step?_closeArray (b : Builder) (items : List Json) (room : b.frames.length < maxDepth)
    {expect : Expect} (ends : expect = .separator ∨ expect = .firstItem) {root : Option Json} :
    step? ⟨expect, .array items :: b.frames, root⟩ .closeArray =
      some (b.complete (.array items.reverse)) := by
  have fits : ¬ maxDepth < b.frames.length + 1 := by omega
  rcases ends with rfl | rfl <;> simp [step?, close, fits, complete]

/-- The end of an object completes it where it stands. -/
theorem step?_closeObject (b : Builder) (members : List (String × Json))
    (room : b.frames.length < maxDepth) {expect : Expect}
    (ends : expect = .separator ∨ expect = .firstKey) {key? : Option String}
    {root : Option Json} :
    step? ⟨expect, .object members true key? :: b.frames, root⟩ .closeObject =
      some (b.complete (.object members.reverse)) := by
  have fits : ¬ maxDepth < b.frames.length + 1 := by omega
  rcases ends with rfl | rfl <;> simp [step?, close, fits, complete]

end Steps

section Contents

variable {outer : List Frame}

/-- The items of an array, behind those that have been read. -/
theorem foldlM_items {items : List Json} (nonempty : items ≠ [])
    (each : ∀ item ∈ items, Completes item) {b : Builder} {read : List Json}
    (awaits : b.AwaitsValue) (opened : b.frames = .array read :: outer)
    (room : outer.length + 1 + depthOfItems items ≤ maxDepth) :
    (List.intercalate [Token.comma] (tokensOfItems items)).foldlM step? b =
      some ⟨.separator, .array (items.reverse ++ read) :: outer, none⟩ := by
  induction items generalizing read b with
  | nil => exact absurd rfl nonempty
  | cons item items ih =>
    obtain ⟨first, others⟩ := List.forall_mem_cons.1 each
    rw [depthOfItems] at room
    have complete : item.tokens.foldlM step? b =
        some ⟨.separator, .array (item :: read) :: outer, none⟩ := by
      rw [first b awaits (by rw [opened, List.length_cons]; omega), Builder.complete, opened]
    cases items with
    | nil => simpa [tokensOfItems] using complete
    | cons next items =>
      have rest := ih (List.cons_ne_nil _ _) others
        (b := ⟨.value, .array (item :: read) :: outer, none⟩) (.inl rfl) rfl (by omega)
      have comma : step? ⟨.separator, .array (item :: read) :: outer, none⟩ .comma =
          some ⟨.value, .array (item :: read) :: outer, none⟩ := rfl
      rw [tokensOfItems, tokensOfItems, List.intercalate_cons_cons, List.append_assoc,
        List.foldlM_append, complete, ← tokensOfItems]
      simpa [comma] using rest

/-- The members of an object, behind those that have been read. -/
theorem foldlM_members {members : List (String × Json)} (nonempty : members ≠ [])
    (each : ∀ member ∈ members, Completes member.2) {b : Builder} {read : List (String × Json)}
    {key? : Option String} (awaits : b.AwaitsKey)
    (opened : b.frames = .object read true key? :: outer)
    (room : outer.length + 1 + depthOfMembers members ≤ maxDepth) :
    (List.intercalate [Token.comma] (tokensOfMembers members)).foldlM step? b =
      some ⟨.separator, .object (members.reverse ++ read) true none :: outer, none⟩ := by
  induction members generalizing read key? b with
  | nil => exact absurd rfl nonempty
  | cons member members ih =>
    obtain ⟨key, value⟩ := member
    obtain ⟨first, others⟩ := List.forall_mem_cons.1 each
    rw [depthOfMembers] at room
    dsimp only at first
    have colon : step? ⟨.colon, .object read true (some key) :: outer, b.root⟩ .colon =
        some ⟨.value, .object read true (some key) :: outer, b.root⟩ := rfl
    have value_complete : value.tokens.foldlM step?
        ⟨.value, .object read true (some key) :: outer, b.root⟩ =
        some ⟨.separator, .object ((key, value) :: read) true none :: outer, none⟩ :=
      first _ (.inl rfl) (by rw [List.length_cons]; omega)
    have complete : (.string (some key) :: .colon :: value.tokens : List Token).foldlM step? b =
        some ⟨.separator, .object ((key, value) :: read) true none :: outer, none⟩ := by
      rw [List.foldlM_cons, step?_of_awaitsKey awaits opened]
      simpa [colon] using value_complete
    cases members with
    | nil => simpa [tokensOfMembers] using complete
    | cons next members =>
      obtain ⟨nextKey, nextValue⟩ := next
      have rest := ih (List.cons_ne_nil _ _) others
        (b := ⟨.key, .object ((key, value) :: read) true none :: outer, none⟩) (.inl rfl) rfl
        (by omega)
      have comma : step? ⟨.separator, .object ((key, value) :: read) true none :: outer, none⟩
          .comma = some ⟨.key, .object ((key, value) :: read) true none :: outer, none⟩ := rfl
      rw [tokensOfMembers, tokensOfMembers, List.intercalate_cons_cons, List.append_assoc,
        List.foldlM_append, complete, ← tokensOfMembers]
      simpa [comma] using rest

/-- The contents of an array and its end. -/
theorem foldlM_array (b : Builder) {items : List Json} (each : ∀ item ∈ items, Completes item)
    (room : b.frames.length + 1 + depthOfItems items ≤ maxDepth) :
    (List.intercalate [.comma] (tokensOfItems items) ++ [Token.closeArray]).foldlM step?
      ⟨.firstItem, .array [] :: b.frames, b.root⟩ = some (b.complete (.array items)) := by
  cases items with
  | nil => simpa [tokensOfItems] using b.step?_closeArray [] (by omega) (.inr rfl)
  | cons item items =>
    have contents := foldlM_items (List.cons_ne_nil item items) each
      (b := ⟨.firstItem, .array [] :: b.frames, b.root⟩) (.inr rfl) rfl room
    have closed : step? ⟨.separator, .array ((item :: items).reverse ++ []) :: b.frames, none⟩
        .closeArray = some (b.complete (.array (item :: items))) := by
      simpa using b.step?_closeArray (item :: items).reverse (by omega) (.inl rfl)
    rw [List.foldlM_append, contents]
    simpa using closed

/-- The contents of an object and its end. -/
theorem foldlM_object (b : Builder) {members : List (String × Json)}
    (each : ∀ member ∈ members, Completes member.2)
    (room : b.frames.length + 1 + depthOfMembers members ≤ maxDepth) :
    (List.intercalate [.comma] (tokensOfMembers members) ++ [Token.closeObject]).foldlM step?
      ⟨.firstKey, .object [] true none :: b.frames, b.root⟩ =
        some (b.complete (.object members)) := by
  cases members with
  | nil => simpa [tokensOfMembers] using b.step?_closeObject [] (by omega) (.inr rfl)
  | cons member members =>
    have contents := foldlM_members (List.cons_ne_nil member members) each
      (b := ⟨.firstKey, .object [] true none :: b.frames, b.root⟩) (.inr rfl) rfl room
    have closed : step?
        ⟨.separator, .object ((member :: members).reverse ++ []) true none :: b.frames, none⟩
        .closeObject = some (b.complete (.object (member :: members))) := by
      simpa using b.step?_closeObject (member :: members).reverse (by omega) (.inl rfl)
    rw [List.foldlM_append, contents]
    simpa using closed

end Contents

theorem completes_of_single {json : Json} {token : Token} (single : json.tokens = [token])
    (begins : token ≠ .closeArray)
    (value : ∀ b : Builder, b.beginValue? token = some (b.complete json)) : Completes json := by
  intro b awaits _
  rw [single, List.foldlM_cons, step?_of_awaitsValue awaits begins, value]
  rfl

/-- The tokens of a document complete it, where the open containers leave room for it. -/
theorem completes {json : Json} (exact : json.isExact) : Completes json := by
  induction json using induct with
  | array items ih =>
    intro b awaits room
    have opened : b.step? .openArray = some ⟨.firstItem, .array [] :: b.frames, b.root⟩ := by
      rw [step?_of_awaitsValue awaits (by simp)]
      rfl
    have each := fun item mem => ih item mem (allScalars_array.1 exact item mem)
    rw [tokens, List.cons_append, List.foldlM_cons, opened]
    exact b.foldlM_array each (by rw [depth] at room; omega)
  | object members ih =>
    intro b awaits room
    have opened : b.step? .openObject =
        some ⟨.firstKey, .object [] true none :: b.frames, b.root⟩ := by
      rw [step?_of_awaitsValue awaits (by simp)]
      rfl
    have each := fun member mem => ih member mem (allScalars_object.1 exact member mem)
    rw [tokens, List.cons_append, List.foldlM_cons, opened]
    exact b.foldlM_object each (by rw [depth] at room; omega)
  | unreadable => cases exact
  | _ => exact completes_of_single rfl (by simp) fun _ => rfl

end Builder

theorem read?_of_tokens? {json : Json} {text : String} (exact : json.isExact)
    (shallow : json.depth ≤ maxDepth) (cut : tokens? text.toList = some json.tokens) :
    read? text = some json := by
  have built := Builder.completes exact .initial (.inl rfl)
    (by rw [Builder.initial, List.length_nil]; omega)
  rw [read?, cut, Option.bind_eq_bind, Option.bind_some, built]
  rfl

/-- A document that is exact and not nested too deep survives its compact text. -/
theorem read?_compact {json : Json} (exact : json.isExact) (shallow : json.depth ≤ maxDepth) :
    read? json.compact = some json :=
  read?_of_tokens? exact shallow (tokens?_compact exact)

/-- It survives its text over several lines. -/
theorem read?_pretty {json : Json} (exact : json.isExact) (shallow : json.depth ≤ maxDepth) :
    read? json.pretty = some json :=
  read?_of_tokens? exact shallow (tokens?_pretty exact)

end PaymentRules.Json
