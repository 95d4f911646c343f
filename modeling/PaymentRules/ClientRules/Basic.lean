import PaymentRules.ClientRules.Action
import PaymentRules.Dimension

/-!
# Client-action rules

After an operation leaves a payment instrument pending, the client is told what to do next. The
rules are groups in file order. A group names the payment methods it is for, and holds filters, each
with an action and with the circumstances in which it applies.

## Main definitions

* `ClientRules.Filter`, `ClientRules.Methods`, `ClientRules.Group`, `ClientRules`
* `ClientRules.Query` — what is known about the payment at hand
* `Methods.accepts`, `Filter.accepts` — whether a group, a filter applies, all properties at once
-/

namespace PaymentRules

namespace ClientRules

/-- What is known about the payment at hand. -/
structure Query where
  family : String
  type : Option String
  country : Option String
  pendingOn : Option String
  requestType : Option String
  partner : Option String
  deriving DecidableEq, Repr

/-- An action and the circumstances in which it applies. `line` is the source line of the filter. -/
structure Filter where
  line : Nat
  pendingOn : Dimension
  requestType : Dimension
  partner : Dimension
  action : FilterAction
  /-- The type of description to show, where the action needs one. -/
  descriptionType : Option String
  deriving DecidableEq, Repr

/-- The payment methods that a group is for. -/
structure Methods where
  family : Dimension
  type : Dimension
  country : Dimension
  deriving DecidableEq, Repr

/-- A group of filters for some payment methods, with the texts for the case that none applies. -/
structure Group where
  name : String
  line : Nat
  methods : Methods
  /-- Whether an instrument that is pending on nothing is an error. -/
  rejectsNullPendingOn : Bool
  unmatchedPendingOn : Option String
  unmatchedRequestType : Option String
  filters : List Filter
  deriving DecidableEq, Repr

namespace Filter

/-- Whether the filter applies. -/
def accepts (filter : Filter) (query : Query) : Bool :=
  filter.pendingOn.accepts query.pendingOn && filter.requestType.accepts query.requestType &&
    filter.partner.accepts query.partner

/-- Whether each dimension covers that of the other filter. -/
def covers (filter other : Filter) : Bool :=
  filter.pendingOn.covers other.pendingOn && filter.requestType.covers other.requestType &&
    filter.partner.covers other.partner

end Filter

namespace Methods

/-- Every payment method. -/
def all : Methods :=
  ⟨.any, .any, .any⟩

/-- Whether the payment method of a query is among them. -/
def accepts (methods : Methods) (query : Query) : Bool :=
  methods.family.accepts (some query.family) && methods.type.accepts query.type &&
    methods.country.accepts query.country

/-- Whether each dimension covers that of the others. -/
def covers (methods other : Methods) : Bool :=
  methods.family.covers other.family && methods.type.covers other.type &&
    methods.country.covers other.country

/-- Whether nothing is constrained. -/
def isCatchAll (methods : Methods) : Bool :=
  methods.family.isAny && methods.type.isAny && methods.country.isAny

end Methods

end ClientRules

/-- The client-action rules of a file, in file order. -/
structure ClientRules where
  groups : List ClientRules.Group
  deriving DecidableEq, Repr

namespace ClientRules

instance : Inhabited ClientRules := ⟨⟨[]⟩⟩

/-- The number of filters in all groups. -/
def filterCount (rules : ClientRules) : Nat :=
  (rules.groups.flatMap (·.filters)).length

end ClientRules

end PaymentRules
