import PaymentRules.Contract.Description

/-!
# Client actions

A client action tells the client what to do next: to show descriptions, or to follow a redirect. Its
context is an address, a link, or descriptions. A document does not name which; it is tried as each,
in this order. All of it has to be readable for that.
-/

namespace PaymentRules

/-- Whether the client shows something or goes elsewhere. -/
inductive ClientAction.Kind where
  | pidl
  | redirect
  deriving DecidableEq, Repr

instance ClientAction.Kind.named : Named ClientAction.Kind where
  all := [.pidl, .redirect]
  name
    | .pidl => "Pidl"
    | .redirect => "Redirect"

/-- What a client action is about. -/
inductive ClientAction.Context where
  | url (address : String)
  | link (target : ServiceLink)
  | descriptions (list : List Description)

/-- What the client does next. -/
structure ClientAction where
  kind : ClientAction.Kind
  context : Option ClientAction.Context
  /-- The descriptions that go with a redirect. -/
  redirectPidl : Option (List Description)

namespace ClientAction

namespace Context

/-- The document of a context. -/
def toJson : Context → Json
  | .url address => .string address
  | .link target => target.toJson
  | .descriptions list => Description.listToJson list

/-- The context that a document is. -/
def ofJson? (json : Json) : Option Context :=
  if json.isReadable then
    (.url <$> json.text?) <|> (.link <$> ServiceLink.ofJson? json) <|>
      (.descriptions <$> Description.listOfJson? json)
  else none

end Context

/-- The action that shows these descriptions. -/
def showing (descriptions : List Description) : ClientAction :=
  ⟨.pidl, some (.descriptions descriptions), none⟩

/-- The document of a client action. -/
def toJson (action : ClientAction) : Json :=
  .ofFields [("type", some (.string (Named.name action.kind))),
    ("context", action.context.map Context.toJson),
    ("redirectPidl", action.redirectPidl.map Description.listToJson)]

/-- The client action that a document is. -/
def ofJson? (json : Json) : Option ClientAction := do
  match ← json.record? ["type", "context", "redirectPidl"] with
  | [kind, context, redirectPidl] =>
    return {
      kind := ← Json.required Json.word? kind
      context := ← Json.optional Context.ofJson? context
      redirectPidl := ← Json.optional Description.listOfJson? redirectPidl }
  | _ => none

end ClientAction

end PaymentRules
