import PaymentRules.ErrorRules.Kind
import PaymentRules.Text.Pieces

/-!
# Errors while resolving

A query that no rule answers is refused with one cause. The rules themselves are never at fault here
and stay as they are.

## Main definitions

* `MatchDimension` — the property on which candidates are narrowed
* `ResolveError` — every cause
* `ResolveError.message`, `ResolveError.wireCode`, `ResolveError.code` — its text, the code that the
  client is sent, and the diagnostic code
-/

namespace PaymentRules

/-- A property on which candidates are narrowed. -/
inductive MatchDimension where
  | pendingOn
  | requestType
  | partner
  | paymentMethodFamily
  | paymentMethodType
  | country
  deriving DecidableEq, Repr

instance : Named MatchDimension where
  all := [.pendingOn, .requestType, .partner, .paymentMethodFamily, .paymentMethodType, .country]
  name
    | .pendingOn => "PendingOn"
    | .requestType => "RequestType"
    | .partner => "Partner"
    | .paymentMethodFamily => "PaymentMethodFamily"
    | .paymentMethodType => "PaymentMethodType"
    | .country => "Country"

/-- The causes for which a query is refused. -/
inductive ResolveError where
  | noMatchingGroup (family type country : String)
  /-- No candidate accepts the value. A rule may have configured a text for this. -/
  | narrowingExhausted (dimension : MatchDimension) (value : String) (template : Option String)
  | nullPendingOn
  | noMatchingRequestType (action : ErrorRules.ResourceAction)
  | noMatchingError (errorCode : String)
  | accessor (reason : String)
  deriving DecidableEq, Repr

namespace ResolveError

/-- The text of an error. -/
def message : ResolveError → String
  | .noMatchingGroup family type country =>
    "no client action rule covers payment method family '" ++ family ++ "', type '" ++ type ++
      "', country '" ++ country ++ "'"
  | .narrowingExhausted _ value (some template) => Text.fill template value
  | .narrowingExhausted dimension value none =>
    "no configured rule matches " ++ Named.name dimension ++ " '" ++ value ++ "'"
  | .nullPendingOn => "The state of the PI is set to pending but the pendingOn is null"
  | .noMatchingRequestType action =>
    "no service error rules are configured for resource action '" ++ Named.name action ++ "'"
  | .noMatchingError errorCode => "no service error entry matches error code '" ++ errorCode ++ "'"
  | .accessor reason => "payment instrument accessor failed: " ++ reason

/-- The code that goes to the client beside the text. -/
def wireCode : ResolveError → String
  | .noMatchingGroup .. => "NoMatchingClientActionRule"
  | .narrowingExhausted .. => "InvalidPendingOnType"
  | .nullPendingOn => "InvalidPendingOnType"
  | .noMatchingRequestType _ => "NoMatchingServiceErrorRule"
  | .noMatchingError _ => "NoMatchingServiceError"
  | .accessor _ => "PaymentInstrumentAccessorFailure"

/-- The diagnostic code of an error. -/
def code : ResolveError → String
  | .noMatchingGroup .. => "pi_lifecycle::no_matching_group"
  | .narrowingExhausted .. => "pi_lifecycle::narrowing_exhausted"
  | .nullPendingOn => "pi_lifecycle::null_pending_on"
  | .noMatchingRequestType _ => "pi_lifecycle::no_matching_request_type"
  | .noMatchingError _ => "pi_lifecycle::no_matching_error"
  | .accessor _ => "pi_lifecycle::accessor"

end ResolveError

end PaymentRules
