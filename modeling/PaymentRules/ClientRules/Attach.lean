import PaymentRules.ClientRules.Basic
import PaymentRules.Collaborators.Basic
import PaymentRules.Contract.Request
import PaymentRules.Settings

/-!
# Attaching a client action

The action of a selected filter is built and attached to the instrument, in place of one that is
there. Nothing is attached when a redirect has no address to go to, or when no digitization is
offered; the instrument then stays as it is.

A redirect comes with descriptions of its own, except for inline partners, which show it within
their page. Some of those may ask for the frame of the page: its descriptions without the members of
the first page.

## Main definitions

* `Dispatch` — whether an action was attached
* `Filter.build` — the action of a filter
* `Filter.attach` — the instrument with the action
-/

namespace PaymentRules.ClientRules

/-- Whether an action was attached. -/
inductive Dispatch where
  | attached
  | skipped
  deriving DecidableEq, Repr

instance : Named Dispatch where
  all := [.attached, .skipped]
  name
    | .attached => "Attached"
    | .skipped => "Skipped"

/-- The description that shows a challenge. -/
def Challenge.descriptionKind : Challenge → DescriptionKind
  | .sms => .smsChallenge
  | .updateAgreement => .updateAgreementChallenge
  | .static => .static
  | .picv => .picvChallenge

/-- The link by which the client comes back from a redirect. -/
def serviceLink (instrument : PaymentInstrument) (address : String) : ServiceLink where
  baseUrl := address
  parameters := .ofPairs
    [("id", instrument.id),
     ("family", instrument.method.family),
     ("type", instrument.method.type.getD ""),
     ("pendingOn", instrument.details.pendingOn.getD ""),
     ("picvRequired", if instrument.details.picvRequired then "true" else "false")]

/-- Descriptions without the members of the first page of the first one. -/
def withoutFirstMembers : List Description → List Description
  | ⟨identity, page :: pages⟩ :: later => ⟨identity, { page with members := [] } :: pages⟩ :: later
  | descriptions => descriptions

namespace Filter

/-- What the descriptions of a filter's action are made from. -/
def input (filter : Filter) (request : ClientActionRequest) (instrument : PaymentInstrument) :
    DescriptionInput :=
  { DescriptionInput.of request.language request.partner request.country with
    instrument := some instrument
    method := some instrument.method
    type := filter.descriptionType
    classicProduct := request.classicProduct
    billableAccountId := request.billableAccountId
    emailAddress := request.emailAddress
    completePrerequisites := request.completePrerequisites }

/-- The descriptions that go with a redirect to an address. -/
def redirectDescriptions (filter : Filter) (request : ClientActionRequest)
    (instrument : PaymentInstrument) (factory : DescriptionFactory) (isStatic : Bool)
    (address : String) : List Description :=
  let input := filter.input request instrument
  if isStatic then
    factory.describe .staticRedirect
      { input with redirectLink := some (serviceLink instrument address) }
  else factory.describe .redirect input

/-- The redirect to an address. -/
def redirect (filter : Filter) (request : ClientActionRequest) (instrument : PaymentInstrument)
    (settings : Settings) (factory : DescriptionFactory) (target : RedirectTarget)
    (isStatic clearsMembers : Bool) (address : String) : ClientAction :=
  let descriptions := filter.redirectDescriptions request instrument factory isStatic address
  { kind := .redirect
    context := some <|
      match target with
      | .url => .url address
      | .serviceLink => .link (serviceLink instrument address)
    redirectPidl :=
      -- a partner that shows redirects inline gets no page, or one without its first members
      if !settings.isInlinePartner request.partner then some descriptions
      else if clearsMembers && isPartnerIn memberClearingPartners request.partner then
        some (withoutFirstMembers descriptions)
      else none }

/-- The action of a filter, if there is one for the instrument. -/
def build (filter : Filter) (request : ClientActionRequest) (instrument : PaymentInstrument)
    (settings : Settings) (factory : DescriptionFactory) : Option ClientAction :=
  match filter.action with
  | .pidl challenge =>
    some (.showing
      (factory.describe challenge.descriptionKind (filter.input request instrument)))
  | .redirect target isStatic clearsMembers =>
    instrument.redirectUrl.map
      (filter.redirect request instrument settings factory target isStatic clearsMembers)
  | .digitization =>
    factory.digitize
      ⟨instrument, request.accountId, request.language, request.partner, request.pidlBaseUrl⟩

/-- The instrument with the action of a filter attached, if there is one for it. -/
def attach (filter : Filter) (request : ClientActionRequest) (instrument : PaymentInstrument)
    (settings : Settings) (factory : DescriptionFactory) : Dispatch × PaymentInstrument :=
  match filter.build request instrument settings factory with
  | some action => (.attached, { instrument with clientAction := some action })
  | none => (.skipped, instrument)

end Filter

end PaymentRules.ClientRules
