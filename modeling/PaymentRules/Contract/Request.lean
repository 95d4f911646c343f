import PaymentRules.Contract.PaymentInstrument
import PaymentRules.Contract.Uuid

/-!
# Requests

What a caller says about one query. A request that comes without an identifier is given a fresh one,
so every reading of a document is told which. Fields without a value are written as `null`.
-/

namespace PaymentRules

/-- The language of a request that names none. -/
def defaultLanguage : String := "en-US"

/-- A request for a client action. -/
structure ClientActionRequest where
  correlationId : Uuid
  accountId : String
  billableAccountId : Option String
  country : String
  partner : String
  language : String
  classicProduct : Option String
  completePrerequisites : Bool
  emailAddress : Option String
  pidlBaseUrl : Option String
  requestType : Option String
  deriving DecidableEq

/-- A request to present a service error. -/
structure ServiceErrorRequest where
  correlationId : Uuid
  accountId : String
  billableAccountId : Option String
  methodFamily : String
  methodType : Option String
  country : String
  partner : String
  language : String
  classicProduct : Option String
  completePrerequisites : Bool
  paymentInstrument : Option PaymentInstrument
  piid : Option String

namespace ClientActionRequest

/-- A request from a country and a partner, everything else being left open. -/
def of (correlationId : Uuid) (country partner : String) : ClientActionRequest where
  correlationId
  accountId := ""
  billableAccountId := none
  country
  partner
  language := defaultLanguage
  classicProduct := none
  completePrerequisites := false
  emailAddress := none
  pidlBaseUrl := none
  requestType := none

/-- The document of a request. -/
def toJson (request : ClientActionRequest) : Json :=
  .object [("correlationId", request.correlationId.toJson),
    ("accountId", .string request.accountId),
    ("billableAccountId", .orNull .string request.billableAccountId),
    ("country", .string request.country),
    ("partner", .string request.partner),
    ("language", .string request.language),
    ("classicProduct", .orNull .string request.classicProduct),
    ("completePrerequisites", .bool request.completePrerequisites),
    ("emailAddress", .orNull .string request.emailAddress),
    ("pidlBaseUrl", .orNull .string request.pidlBaseUrl),
    ("requestType", .orNull .string request.requestType)]

/-- The request that a document is, with the identifier to use if it has none. -/
def ofJson? (fresh : Uuid) (json : Json) : Option ClientActionRequest := do
  match ← json.record? ["correlationId", "accountId", "billableAccountId", "country", "partner",
    "language", "classicProduct", "completePrerequisites", "emailAddress", "pidlBaseUrl",
    "requestType"] with
  | [correlationId, accountId, billableAccountId, country, partner, language, classicProduct,
      completePrerequisites, emailAddress, pidlBaseUrl, requestType] =>
    return {
      correlationId := ← Json.orDefault fresh Uuid.ofJson? correlationId
      accountId := ← Json.orDefault "" Json.text? accountId
      billableAccountId := ← Json.optional Json.text? billableAccountId
      country := ← Json.required Json.text? country
      partner := ← Json.required Json.text? partner
      language := ← Json.orDefault defaultLanguage Json.text? language
      classicProduct := ← Json.optional Json.text? classicProduct
      completePrerequisites := ← Json.orDefault false Json.flag? completePrerequisites
      emailAddress := ← Json.optional Json.text? emailAddress
      pidlBaseUrl := ← Json.optional Json.text? pidlBaseUrl
      requestType := ← Json.optional Json.text? requestType }
  | _ => none

end ClientActionRequest

namespace ServiceErrorRequest

/-- A request for a payment method, everything else being left open. -/
def of (correlationId : Uuid) (methodFamily : String) (methodType : Option String) :
    ServiceErrorRequest where
  correlationId
  accountId := ""
  billableAccountId := none
  methodFamily
  methodType
  country := ""
  partner := ""
  language := defaultLanguage
  classicProduct := none
  completePrerequisites := false
  paymentInstrument := none
  piid := none

/-- The document of a request. -/
def toJson (request : ServiceErrorRequest) : Json :=
  .object [("correlationId", request.correlationId.toJson),
    ("accountId", .string request.accountId),
    ("billableAccountId", .orNull .string request.billableAccountId),
    ("paymentMethodFamily", .string request.methodFamily),
    ("paymentMethodType", .orNull .string request.methodType),
    ("country", .string request.country),
    ("partner", .string request.partner),
    ("language", .string request.language),
    ("classicProduct", .orNull .string request.classicProduct),
    ("completePrerequisites", .bool request.completePrerequisites),
    ("paymentInstrument", .orNull PaymentInstrument.toJson request.paymentInstrument),
    ("piid", .orNull .string request.piid)]

/-- The request that a document is, with the identifier to use if it has none. -/
def ofJson? (fresh : Uuid) (json : Json) : Option ServiceErrorRequest := do
  match ← json.record? ["correlationId", "accountId", "billableAccountId", "paymentMethodFamily",
    "paymentMethodType", "country", "partner", "language", "classicProduct",
    "completePrerequisites", "paymentInstrument", "piid"] with
  | [correlationId, accountId, billableAccountId, methodFamily, methodType, country, partner,
      language, classicProduct, completePrerequisites, paymentInstrument, piid] =>
    return {
      correlationId := ← Json.orDefault fresh Uuid.ofJson? correlationId
      accountId := ← Json.orDefault "" Json.text? accountId
      billableAccountId := ← Json.optional Json.text? billableAccountId
      methodFamily := ← Json.required Json.text? methodFamily
      methodType := ← Json.optional Json.text? methodType
      country := ← Json.orDefault "" Json.text? country
      partner := ← Json.orDefault "" Json.text? partner
      language := ← Json.orDefault defaultLanguage Json.text? language
      classicProduct := ← Json.optional Json.text? classicProduct
      completePrerequisites := ← Json.orDefault false Json.flag? completePrerequisites
      paymentInstrument := ← Json.optional PaymentInstrument.ofJson? paymentInstrument
      piid := ← Json.optional Json.text? piid }
  | _ => none

end ServiceErrorRequest

end PaymentRules
