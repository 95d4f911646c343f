import PaymentRules.Proofs.Contract.Documents
import PaymentRules.Proofs.Json.Reading

/-!
# The texts of the contract

A value of the contract is written as a document, and the document as a text, on one line or over
several. Reading the document gives the value again, and so does reading either text: nothing is
lost and nothing is taken for something else. Only two things in a document can be lost in its
text, and both stem from what is carried along: a double, which may be read as another one, and a
nesting that is deeper than a reader allows.

## Main definitions

* `Survives` — a value is read back from its document and from both texts of it

## Main results

* `reading_undoes_writing` — every value of the contract survives
-/

namespace PaymentRules

/-- A value is read back from its document, and from both texts of the document unless that is
nested too deep. -/
structure Survives {α : Type} (write : α → Json) (read : Json → Option α) (value : α) : Prop where
  document : read (write value) = some value
  compact : (write value).depth ≤ Json.maxDepth →
    (Json.read? (write value).compact >>= read) = some value
  pretty : (write value).depth ≤ Json.maxDepth →
    (Json.read? (write value).pretty >>= read) = some value

/-- What is read back from an exact document survives. -/
theorem Survives.of_exact {α : Type} {write : α → Json} {read : Json → Option α} {value : α}
    (document : read (write value) = some value) (exact : (write value).isExact) :
    Survives write read value where
  document
  compact shallow := by rw [Json.read?_compact exact shallow]; exact document
  pretty shallow := by rw [Json.read?_pretty exact shallow]; exact document

/-- Plain values are exact. -/
theorem Json.admitsPlain_isExactScalar : Json.AdmitsPlain Json.isExactScalar where
  null := rfl
  bool _ := rfl
  string _ := rfl

/-- Reading undoes writing, for every type of the contract. What is carried along in pages must not
hold doubles. A request keeps its identifier whichever fresh one is at hand. -/
theorem reading_undoes_writing :
    (∀ instrument : PaymentInstrument, (∀ part ∈ instrument.carried, part.value.isDoubleFree) →
      Survives PaymentInstrument.toJson PaymentInstrument.ofJson? instrument) ∧
    (∀ action : ClientAction, (∀ part ∈ action.carried, part.value.isDoubleFree) →
      Survives ClientAction.toJson ClientAction.ofJson? action) ∧
    (∀ response : ErrorResponse, (∀ part ∈ response.carried, part.value.isDoubleFree) →
      Survives ErrorResponse.toJson ErrorResponse.ofJson? response) ∧
    (∀ (fresh : Uuid) (request : ClientActionRequest),
      Survives ClientActionRequest.toJson (ClientActionRequest.ofJson? fresh) request) ∧
    (∀ (fresh : Uuid) (request : ServiceErrorRequest),
      (∀ part ∈ request.carried, part.value.isDoubleFree) →
      Survives ServiceErrorRequest.toJson (ServiceErrorRequest.ofJson? fresh) request) := by
  have exact : ∀ {carried : List Carried}, (∀ part ∈ carried, part.value.isDoubleFree) →
      ∀ part ∈ carried, part.value.isExact := fun free part mem =>
    Json.isExact_of_tidy part.tidy (free part mem)
  refine ⟨fun instrument free => ?_, fun action free => ?_, fun response free => ?_,
    fun fresh request => ?_, fun fresh request free => ?_⟩
  · exact .of_exact instrument.ofJson?_toJson
      (PaymentInstrument.allScalars_toJson Json.admitsPlain_isExactScalar (exact free))
  · exact .of_exact action.ofJson?_toJson
      (ClientAction.allScalars_toJson Json.admitsPlain_isExactScalar (exact free))
  · exact .of_exact response.ofJson?_toJson
      (ErrorResponse.allScalars_toJson Json.admitsPlain_isExactScalar (exact free))
  · exact .of_exact (request.ofJson?_toJson fresh)
      (ClientActionRequest.allScalars_toJson Json.admitsPlain_isExactScalar request)
  · exact .of_exact (request.ofJson?_toJson fresh)
      (ServiceErrorRequest.allScalars_toJson Json.admitsPlain_isExactScalar (exact free))

/-- A card that is to be verified, with the two descriptions to show for it. -/
def verifiedCard : PaymentInstrument where
  id := "pi-1"
  method := ⟨"credit_card", some "visa"⟩
  details := ⟨some "verification", none, true⟩
  clientAction := some (.showing [
    ⟨.ofPairs [("description_type", "challenge"), ("type", "cvv")],
      [⟨"cvv", [.object [("propertyName", .text "cvvToken"),
        ("maxLength", ⟨.integer 4, rfl⟩)]]⟩]⟩,
    ⟨.ofPairs [("description_type", "button")], []⟩])

theorem reading_undoes_writing_of_verifiedCard :
    (∀ part ∈ verifiedCard.carried, part.value.isDoubleFree) ∧
    verifiedCard.toJson.depth ≤ Json.maxDepth ∧
    (Json.read? verifiedCard.toJson.compact >>= PaymentInstrument.ofJson?) = some verifiedCard := by
  have free : ∀ part ∈ verifiedCard.carried, part.value.isDoubleFree := by decide
  have shallow : verifiedCard.toJson.depth ≤ Json.maxDepth := by decide
  exact ⟨free, shallow, (reading_undoes_writing.1 verifiedCard free).compact shallow⟩

end PaymentRules
