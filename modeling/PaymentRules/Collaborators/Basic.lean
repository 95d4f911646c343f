import PaymentRules.Contract.PaymentInstrument
import PaymentRules.Contract.Uuid
import PaymentRules.ResolveError

/-!
# The surroundings of the rules

The rules decide, and others supply what is shown: descriptions, texts in the client's language, and
payment instruments by account. These are known here by what they answer and by nothing else.

## Main definitions

* `DescriptionKind`, `DescriptionInput`, `DescriptionFactory` — descriptions and what they are made
  from
* `Localizer`, `InstrumentAccessor` — texts and instruments
* `Collaborators` — all three
-/

namespace PaymentRules

/-- The kinds of descriptions that an action can show. -/
inductive DescriptionKind where
  | smsChallenge
  | updateAgreementChallenge
  | static
  | picvChallenge
  | redirect
  | staticRedirect
  | paymentMethod
  deriving DecidableEq, Repr

instance : Named DescriptionKind where
  all := [.smsChallenge, .updateAgreementChallenge, .static, .picvChallenge, .redirect,
    .staticRedirect, .paymentMethod]
  name
    | .smsChallenge => "SmsChallenge"
    | .updateAgreementChallenge => "UpdateAgreementChallenge"
    | .static => "Static"
    | .picvChallenge => "PicvChallenge"
    | .redirect => "Redirect"
    | .staticRedirect => "StaticRedirect"
    | .paymentMethod => "PaymentMethod"

/-- What a description is made from. -/
structure DescriptionInput where
  instrument : Option PaymentInstrument
  method : Option PaymentMethod
  type : Option String
  language : String
  partner : String
  country : String
  classicProduct : Option String
  billableAccountId : Option String
  emailAddress : Option String
  completePrerequisites : Bool
  redirectLink : Option ServiceLink

/-- The input that names a language, a partner and a country only. -/
def DescriptionInput.of (language partner country : String) : DescriptionInput where
  instrument := none
  method := none
  type := none
  language
  partner
  country
  classicProduct := none
  billableAccountId := none
  emailAddress := none
  completePrerequisites := false
  redirectLink := none

/-- What it takes to offer a digitization step. -/
structure DigitizationInput where
  instrument : PaymentInstrument
  accountId : String
  language : String
  partner : String
  pidlBaseUrl : Option String

/-- Makes descriptions, and offers the digitization of an instrument where there is one. -/
structure DescriptionFactory where
  describe : DescriptionKind → DescriptionInput → List Description
  digitize : DigitizationInput → Option ClientAction

/-- Puts a text into a language. -/
abbrev Localizer := (key language : String) → String

/-- Fetches an instrument of an account on behalf of a request. -/
abbrev InstrumentAccessor :=
  (accountId piid : String) → (correlationId : Uuid) → Except ResolveError PaymentInstrument

/-- Everything that the rules are surrounded by. -/
structure Collaborators where
  localizer : Localizer
  descriptions : DescriptionFactory
  accessor : InstrumentAccessor

end PaymentRules
