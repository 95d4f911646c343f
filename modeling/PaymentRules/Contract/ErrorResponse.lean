import PaymentRules.Contract.ClientAction

/-!
# Error responses

A service error as it is returned to the client: it comes with the code and the text of the failing
service, and rules put another text, details and a client action in.
-/

namespace PaymentRules

/-- A detail of an error response. -/
structure ErrorDetail where
  errorCode : String
  message : String
  target : Option String
  deriving DecidableEq, Repr

/-- A service error as the client sees it. -/
structure ErrorResponse where
  errorCode : String
  message : String
  details : List ErrorDetail
  clientAction : Option ClientAction

namespace ErrorDetail

/-- The document of a detail. -/
def toJson (detail : ErrorDetail) : Json :=
  .ofFields [("errorCode", some (.string detail.errorCode)),
    ("message", some (.string detail.message)), ("target", detail.target.map .string)]

/-- The detail that a document is. -/
def ofJson? (json : Json) : Option ErrorDetail := do
  match ← json.record? ["errorCode", "message", "target"] with
  | [errorCode, message, target] =>
    return {
      errorCode := ← Json.required Json.text? errorCode
      message := ← Json.required Json.text? message
      target := ← Json.optional Json.text? target }
  | _ => none

end ErrorDetail

namespace ErrorResponse

/-- A response with nothing but a code and a text. -/
def of (errorCode message : String) : ErrorResponse :=
  ⟨errorCode, message, [], none⟩

/-- The response with one more detail at the end. -/
def addDetail (response : ErrorResponse) (detail : ErrorDetail) : ErrorResponse :=
  { response with details := response.details ++ [detail] }

/-- The document of a response. Without details there is no field for them. -/
def toJson (response : ErrorResponse) : Json :=
  .ofFields [("errorCode", some (.string response.errorCode)),
    ("message", some (.string response.message)),
    ("details", if response.details.isEmpty then none
      else some (.array (response.details.map ErrorDetail.toJson))),
    ("clientAction", response.clientAction.map ClientAction.toJson)]

/-- The response that a document is. -/
def ofJson? (json : Json) : Option ErrorResponse := do
  match ← json.record? ["errorCode", "message", "details", "clientAction"] with
  | [errorCode, message, details, clientAction] =>
    return {
      errorCode := ← Json.required Json.text? errorCode
      message := ← Json.orDefault "" Json.text? message
      details := ← Json.orDefault [] (Json.list? ErrorDetail.ofJson?) details
      clientAction := ← Json.optional ClientAction.ofJson? clientAction }
  | _ => none

end ErrorResponse

end PaymentRules
