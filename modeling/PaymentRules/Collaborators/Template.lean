import PaymentRules.Collaborators.Basic
import PaymentRules.Text.Letters

/-!
# Template descriptions

The plainest descriptions: each names its kind and inputs, and has one page with a heading, what
goes with the kind, and a button. Digitization is offered for credit cards.

## Main definitions

* `Template.describe`, `Template.digitize`, and `Template.factory` of both
-/

namespace PaymentRules.Template

/-- What a kind is called in its descriptions. -/
def kindName : DescriptionKind → String
  | .smsChallenge => "smsChallenge"
  | .updateAgreementChallenge => "updateAgreementChallenge"
  | .static => "static"
  | .picvChallenge => "picvChallenge"
  | .redirect => "redirect"
  | .staticRedirect => "staticRedirect"
  | .paymentMethod => "paymentMethod"

/-- A member of a page with these texts. -/
def member (texts : List (String × String)) : Carried :=
  .object (texts.map fun text => (text.1, .text text.2))

/-- The member that links to a service, with the parameters for the way back. -/
def linkMember (link : ServiceLink) : Carried :=
  .object [("type", .text "hyperlink"), ("href", .text link.baseUrl),
    ("ru", .object (link.parameters.pairs.map fun pair => (pair.1, .text pair.2)))]

/-- The payment method that a description is about. -/
def subject (input : DescriptionInput) : Option PaymentMethod :=
  input.method.or (input.instrument.map (·.method))

/-- The pair of a name and a text, where there is a text. -/
def named (name : String) (text : Option String) : List (String × String) :=
  (text.map (name, ·)).toList

/-- What identifies a description. -/
def identity (kind : DescriptionKind) (input : DescriptionInput) : TextMap :=
  .ofPairs <|
    [("description", kindName kind), ("language", input.language), ("partner", input.partner),
      ("country", input.country)] ++
    named "type" input.type ++
    named "family" ((subject input).map (·.family)) ++
    named "paymentMethodType" ((subject input).bind (·.type)) ++
    named "id" (input.instrument.map (·.id))

/-- The members of a description's page. -/
def members (kind : DescriptionKind) (input : DescriptionInput) : List Carried :=
  [member [("type", "heading"), ("text", kindName kind)]] ++
    (input.redirectLink.map linkMember).toList ++
    (input.emailAddress.map fun address => member [("type", "text"), ("text", address)]).toList ++
    [member [("type", "button"), ("action", "submit")]]

/-- The description of a kind. -/
def describe (kind : DescriptionKind) (input : DescriptionInput) : List Description :=
  [⟨identity kind input, [⟨kindName kind ++ "Page", members kind input⟩]⟩]

/-- The digitization step, for credit cards only. -/
def digitize (input : DigitizationInput) : Option ClientAction :=
  if Text.sameLetters input.instrument.method.family "credit_card" then
    let identity := TextMap.ofPairs <|
      [("description", "digitization"), ("accountId", input.accountId),
        ("id", input.instrument.id), ("language", input.language), ("partner", input.partner)] ++
      named "pidlBaseUrl" input.pidlBaseUrl
    let button := member [("type", "button"), ("action", "digitize")]
    some (.showing [⟨identity, [⟨"digitizationPage", [button]⟩]⟩])
  else none

/-- The factory of template descriptions. -/
def factory : DescriptionFactory :=
  ⟨describe, digitize⟩

end PaymentRules.Template
