import PaymentRules.Collaborators.Basic
import PaymentRules.Constant
import PaymentRules.Contract.ErrorResponse
import PaymentRules.Contract.Request
import PaymentRules.ErrorRules.Basic

/-!
# Responding to a service error

The selected entry gives the response its text, in the client's language, and may add a detail and a
client action. The text of the failing service is never kept. A client action that came with the
error stays when the entry asks for none.

A direct debit is followed up by a challenge to the account holder. For that the instrument is
fetched anew, under the identifier of the request or, without one, under that of the instrument that
the request carries.

## Main definitions

* `Entry.respond` — the response to send, or the error of fetching the instrument
-/

namespace PaymentRules.ErrorRules

/-- The message that is sent as it is and not put into a language. -/
def noMessage : String := "[]"

/-- What descriptions for a failed request are made from. -/
def input (request : ServiceErrorRequest) : DescriptionInput :=
  { DescriptionInput.of request.language request.partner request.country with
    classicProduct := request.classicProduct
    billableAccountId := request.billableAccountId
    completePrerequisites := request.completePrerequisites }

/-- The payment method of the instrument that a request carries, or else of the request. -/
def methodOf (request : ServiceErrorRequest) : PaymentMethod :=
  match request.paymentInstrument with
  | some instrument => instrument.method
  | none => ⟨request.methodFamily, request.methodType⟩

/-- The action that lets the client choose its payment method anew. -/
def chooseAgain (request : ServiceErrorRequest) (factory : DescriptionFactory) : ClientAction :=
  .showing (factory.describe .paymentMethod
    { input request with
      method := some (methodOf request)
      type := some Constant.paymentMethodDescription })

/-- The identifier under which the instrument is fetched. -/
def instrumentId? (request : ServiceErrorRequest) : Option String :=
  (request.piid.or (request.paymentInstrument.map (·.id))).filter (· ≠ "")

/-- The challenge to the holder of the account behind an instrument. -/
def challenge (request : ServiceErrorRequest) (type : String) (collaborators : Collaborators) :
    Except ResolveError ClientAction := do
  match instrumentId? request with
  | none => throw (.accessor "no payment instrument id to re-acquire")
  | some piid =>
    let instrument ← collaborators.accessor request.accountId piid request.correlationId
    return .showing (collaborators.descriptions.describe .picvChallenge
      { input request with
        instrument := some instrument
        method := some instrument.method
        type := some type })

/-- The client action that an entry asks for, if it asks for one. -/
def FollowUp.action (followUp : FollowUp) (request : ServiceErrorRequest)
    (collaborators : Collaborators) : Except ResolveError (Option ClientAction) :=
  match followUp with
  | .none => .ok .none
  | .jumpback => .ok (some (chooseAgain request collaborators.descriptions))
  | .directDebitAch => some <$> challenge request Constant.achPicvChallenge collaborators
  | .directDebitSepa => some <$> challenge request Constant.sepaPicvChallenge collaborators

namespace Entry

/-- The text that an entry gives to the response. -/
def text (entry : Entry) (language : String) (localizer : Localizer) : String :=
  if entry.message = noMessage then noMessage else localizer entry.message language

/-- The detail that an entry adds to a response with this code. -/
def detail (entry : Entry) (errorCode language : String) (localizer : Localizer) : ErrorDetail where
  errorCode := entry.detailsErrorCode.getD errorCode
  message := (entry.detailsMessage.map (localizer · language)).getD ""
  target := entry.detailsTarget

/-- The response that an entry makes of a service error. -/
def respond (entry : Entry) (request : ServiceErrorRequest) (error : ErrorResponse)
    (collaborators : Collaborators) : Except ResolveError ErrorResponse := do
  let localizer := collaborators.localizer
  let told := { error with message := entry.text request.language localizer }
  let detailed :=
    if entry.hasDetail then
      told.addDetail (entry.detail error.errorCode request.language localizer)
    else told
  let action ← entry.followUp.action request collaborators
  -- an action that the error brought along stays when the entry asks for none
  return { detailed with clientAction := action.or error.clientAction }

end Entry

end PaymentRules.ErrorRules
