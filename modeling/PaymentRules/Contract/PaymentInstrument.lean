import PaymentRules.Contract.ClientAction

/-!
# Payment instruments

A payment instrument as the caller holds it. The client action that the rules select is attached to
it.
-/

namespace PaymentRules

/-- The family of a payment method and, where it has one, its type. -/
structure PaymentMethod where
  family : String
  type : Option String
  deriving DecidableEq, Repr

/-- The state of a payment instrument. -/
structure InstrumentDetails where
  pendingOn : Option String
  redirectUrl : Option String
  picvRequired : Bool
  deriving DecidableEq, Repr

/-- A payment instrument. -/
structure PaymentInstrument where
  id : String
  method : PaymentMethod
  details : InstrumentDetails
  clientAction : Option ClientAction

namespace PaymentMethod

/-- The document of a payment method. -/
def toJson (method : PaymentMethod) : Json :=
  .ofFields [("paymentMethodFamily", some (.string method.family)),
    ("paymentMethodType", method.type.map .string)]

/-- The payment method that a document is. -/
def ofJson? (json : Json) : Option PaymentMethod := do
  match ← json.record? ["paymentMethodFamily", "paymentMethodType"] with
  | [family, type] =>
    return {
      family := ← Json.required Json.text? family
      type := ← Json.optional Json.text? type }
  | _ => none

end PaymentMethod

namespace InstrumentDetails

/-- Nothing is pending. -/
def empty : InstrumentDetails :=
  ⟨none, none, false⟩

/-- The document of the state. -/
def toJson (details : InstrumentDetails) : Json :=
  .ofFields [("pendingOn", details.pendingOn.map .string),
    ("redirectUrl", details.redirectUrl.map .string),
    ("picvRequired", some (.bool details.picvRequired))]

/-- The state that a document is. -/
def ofJson? (json : Json) : Option InstrumentDetails := do
  match ← json.record? ["pendingOn", "redirectUrl", "picvRequired"] with
  | [pendingOn, redirectUrl, picvRequired] =>
    return {
      pendingOn := ← Json.optional Json.text? pendingOn
      redirectUrl := ← Json.optional Json.text? redirectUrl
      picvRequired := ← Json.orDefault false Json.flag? picvRequired }
  | _ => none

end InstrumentDetails

namespace PaymentInstrument

/-- What the instrument is pending on. An empty text counts as nothing. -/
def pendingOn (instrument : PaymentInstrument) : Option String :=
  instrument.details.pendingOn.filter (· ≠ "")

/-- Where the instrument redirects to. An empty text counts as nowhere. -/
def redirectUrl (instrument : PaymentInstrument) : Option String :=
  instrument.details.redirectUrl.filter (· ≠ "")

theorem redirectUrl_eq_some_iff {instrument : PaymentInstrument} {address : String} :
    instrument.redirectUrl = some address ↔
      instrument.details.redirectUrl = some address ∧ address ≠ "" := by
  simp [redirectUrl, Option.filter_eq_some_iff]

theorem redirectUrl_eq_none_iff {instrument : PaymentInstrument} :
    instrument.redirectUrl = none ↔
      instrument.details.redirectUrl = none ∨ instrument.details.redirectUrl = some "" := by
  cases given : instrument.details.redirectUrl <;> simp [redirectUrl, Option.filter, given]

/-- The document of an instrument. -/
def toJson (instrument : PaymentInstrument) : Json :=
  .ofFields [("id", some (.string instrument.id)),
    ("paymentMethod", some instrument.method.toJson),
    ("paymentInstrumentDetails", some instrument.details.toJson),
    ("clientAction", instrument.clientAction.map ClientAction.toJson)]

/-- The instrument that a document is. -/
def ofJson? (json : Json) : Option PaymentInstrument := do
  match ← json.record? ["id", "paymentMethod", "paymentInstrumentDetails", "clientAction"] with
  | [id, method, details, clientAction] =>
    return {
      id := ← Json.required Json.text? id
      method := ← Json.required PaymentMethod.ofJson? method
      details := ← Json.orDefault .empty InstrumentDetails.ofJson? details
      clientAction := ← Json.optional ClientAction.ofJson? clientAction }
  | _ => none

end PaymentInstrument

end PaymentRules
