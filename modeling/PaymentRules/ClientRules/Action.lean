import PaymentRules.Named

/-!
# The actions of client-action filters

A filter names its action by two words: a kind, and the context to build. Only some pairs make
sense, and `FilterAction` has just those: it is what is left once a pair has been checked.

## Main definitions

* `ClientRules.ActionKind`, `ClientRules.ActionContext` — the two vocabularies
* `ClientRules.FilterAction` — an action whose kind and context agree
* `FilterAction.ofWords?` — the check, with `kind_of_ofWords?` for what it keeps
-/

namespace PaymentRules.ClientRules

/-- The kind of action a filter asks for. -/
inductive ActionKind where
  | pidl
  | redirect
  | digitization
  deriving DecidableEq, Repr

instance : Named ActionKind where
  all := [.pidl, .redirect, .digitization]
  name
    | .pidl => "Pidl"
    | .redirect => "Redirect"
    | .digitization => "Digitization"

/-- What a filter's action is built around. -/
inductive ActionContext where
  | redirectUrl
  | redirectServiceLink
  | smsChallenge
  | updateAgreementChallenge
  | staticDescription
  | picvChallenge
  | digitization
  deriving DecidableEq, Repr

instance : Named ActionContext where
  all := [.redirectUrl, .redirectServiceLink, .smsChallenge, .updateAgreementChallenge,
    .staticDescription, .picvChallenge, .digitization]
  name
    | .redirectUrl => "RedirectUrl"
    | .redirectServiceLink => "RedirectServiceLink"
    | .smsChallenge => "GetSmsChallengeDescriptionForPI"
    | .updateAgreementChallenge => "GetUpdateAgreementChallengeDescriptionForPI"
    | .staticDescription => "GetStaticPidlDescriptions"
    | .picvChallenge => "GetPicvChallengeDescriptionForPI"
    | .digitization => "Digitization"

/-- The description shown by an action of kind `pidl`. -/
inductive Challenge where
  | sms
  | updateAgreement
  | static
  | picv
  deriving DecidableEq, Repr

instance : Named Challenge where
  all := [.sms, .updateAgreement, .static, .picv]
  name
    | .sms => "SmsChallenge"
    | .updateAgreement => "UpdateAgreementChallenge"
    | .static => "Static"
    | .picv => "PicvChallenge"

/-- Where an action of kind `redirect` leads: the bare address, or a link with return parameters. -/
inductive RedirectTarget where
  | url
  | serviceLink
  deriving DecidableEq, Repr

instance : Named RedirectTarget where
  all := [.url, .serviceLink]
  name
    | .url => "Url"
    | .serviceLink => "ServiceLink"

/-- The action of a filter, its kind and context already found to agree. -/
inductive FilterAction where
  | pidl (challenge : Challenge)
  | redirect (target : RedirectTarget) (isStatic clearsMembers : Bool)
  | digitization
  deriving DecidableEq, Repr

namespace FilterAction

/-- The kind an action belongs to. -/
def kind : FilterAction → ActionKind
  | .pidl _ => .pidl
  | .redirect .. => .redirect
  | .digitization => .digitization

/-- The context an action is built around. -/
def context : FilterAction → ActionContext
  | .pidl .sms => .smsChallenge
  | .pidl .updateAgreement => .updateAgreementChallenge
  | .pidl .static => .staticDescription
  | .pidl .picv => .picvChallenge
  | .redirect .url .. => .redirectUrl
  | .redirect .serviceLink .. => .redirectServiceLink
  | .digitization => .digitization

/-- The action of a kind and a context, if the two agree. The flags concern redirects only. -/
def ofWords? (kind : ActionKind) (context : ActionContext) (isStatic clearsMembers : Bool) :
    Option FilterAction :=
  match kind, context with
  | .pidl, .smsChallenge => some (.pidl .sms)
  | .pidl, .updateAgreementChallenge => some (.pidl .updateAgreement)
  | .pidl, .staticDescription => some (.pidl .static)
  | .pidl, .picvChallenge => some (.pidl .picv)
  | .redirect, .redirectUrl => some (.redirect .url isStatic clearsMembers)
  | .redirect, .redirectServiceLink => some (.redirect .serviceLink isStatic clearsMembers)
  | .digitization, .digitization => some .digitization
  | _, _ => none

/-- An accepted pair is the pair of the action it makes. -/
theorem kind_of_ofWords? {kind : ActionKind} {context : ActionContext} {s c : Bool}
    {action : FilterAction} (h : ofWords? kind context s c = some action) :
    action.kind = kind ∧ action.context = context := by
  cases kind <;> cases context <;> simp [ofWords?] at h <;> subst h <;> exact ⟨rfl, rfl⟩

end FilterAction

end PaymentRules.ClientRules
