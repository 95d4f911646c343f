import PaymentRules.ClientRules.Attach
import PaymentRules.ClientRules.Resolve
import PaymentRules.ClientRules.Sheet
import PaymentRules.Engine.RuleStore
import PaymentRules.ErrorRules.Resolve
import PaymentRules.ErrorRules.Respond
import PaymentRules.ErrorRules.Sheet
import PaymentRules.Review
import PaymentRules.Sheet.Reader

/-!
# The engine

The engine holds the published rules of both families. It answers with the rules that are published
when it is asked. Loading rules again publishes them only if they can be built, and both families
together only if both can; otherwise the rules stay as they were.

A rule file is given by its bytes, or by nothing when it is missing. Loading is done to an engine in
place, and what it did before a failure is not undone: that nothing is published by half rests on
the order of its steps.

## Main definitions

* `Engine`, `Engine.initialise` — an engine and its first rules
* `Engine.Change` — something done to an engine that may fail
* `Engine.reload`, `Engine.reloadClientActions`, `Engine.reloadServiceErrors`
* `Engine.resolveClientAction`, `Engine.resolveServiceError`, `Engine.review`
-/

namespace PaymentRules

/-- The contents of a file, if it exists. -/
abbrev File := Option ByteArray

/-- The contents of files by their paths, at one moment. -/
abbrev Files := String → File

/-- The published rules and the settings they are used with. -/
structure Engine where
  settings : Settings
  clientActions : RuleStore ClientRules
  serviceErrors : RuleStore ErrorRules

/-- The sheet in a rule file. -/
def Sheet.ofFile (delimiter : Delimiter) : File → Except LoadError Sheet
  | some bytes => ofBytes delimiter bytes
  | none => .error .unreadable

/-- The client-action rules in a file. -/
def ClientRules.ofFile (delimiter : Delimiter) (file : File) : Except LoadError ClientRules := do
  ofSheet (← Sheet.ofFile delimiter file)

/-- The service-error rules in a file. -/
def ErrorRules.ofFile (delimiter : Delimiter) (file : File) : Except LoadError ErrorRules := do
  ofSheet (← Sheet.ofFile delimiter file)

/-- How a client action was resolved. -/
structure Outcome where
  rule : String
  filterLine : Nat
  survivors : Nat
  dispatch : ClientRules.Dispatch
  deriving DecidableEq, Repr

namespace Engine

/-- The rules of both families in their files. The delimiter is looked at first. -/
def load (settings : Settings) (clientActions serviceErrors : File) :
    Except LoadError (ClientRules × ErrorRules) := do
  let delimiter ← settings.fileDelimiter
  let clientRules ← ClientRules.ofFile delimiter clientActions
  let errorRules ← ErrorRules.ofFile delimiter serviceErrors
  return (clientRules, errorRules)

/-- The engine with these rules. -/
def ofRules (settings : Settings) (clientRules : ClientRules) (errorRules : ErrorRules) : Engine :=
  ⟨settings, .of clientRules, .of errorRules⟩

/-- The engine with the rules in its files, if they can be built. -/
def initialise (settings : Settings) (clientActions serviceErrors : File) :
    Except LoadError Engine := do
  let (clientRules, errorRules) ← load settings clientActions serviceErrors
  return ofRules settings clientRules errorRules

/-- The engine with client-action rules published. -/
def publishClientActions (engine : Engine) (rules : ClientRules) : Engine :=
  { engine with clientActions := (engine.clientActions.replace rules).2 }

/-- The engine with service-error rules published. -/
def publishServiceErrors (engine : Engine) (rules : ErrorRules) : Engine :=
  { engine with serviceErrors := (engine.serviceErrors.replace rules).2 }

/-- Something done to an engine that may fail. What was done before a failure stays done. -/
abbrev Change := ExceptT LoadError (StateM Engine)

/-- Publishes the rules in the files that the settings name, if both can be built. -/
def reload (files : Files) : Change Unit := do
  let settings := (← get).settings
  -- both files are read before either family is published
  let (clientRules, errorRules) ← liftExcept <|
    load settings (files settings.clientActionPath) (files settings.serviceErrorPath)
  modify (·.publishClientActions clientRules)
  modify (·.publishServiceErrors errorRules)

/-- Publishes the rules in a file, if they can be built. The family is given by how its rules are
read and published. -/
def reloadFamily {α : Type} (read : Delimiter → File → Except LoadError α)
    (publish : Engine → α → Engine) (files : Files) (path : String) : Change Unit := do
  let delimiter ← liftExcept (← get).settings.fileDelimiter
  let rules ← liftExcept (read delimiter (files path))
  modify (publish · rules)

/-- Publishes the client-action rules in a file, if they can be built. -/
def reloadClientActions : Files → (path : String) → Change Unit :=
  reloadFamily ClientRules.ofFile publishClientActions

/-- Publishes the service-error rules in a file, if they can be built. -/
def reloadServiceErrors : Files → (path : String) → Change Unit :=
  reloadFamily ErrorRules.ofFile publishServiceErrors

/-- The findings in the published rules. -/
def review (engine : Engine) : List Finding :=
  engine.clientActions.snapshot.rules.review ++ engine.serviceErrors.snapshot.rules.review

/-- The query for the client action of an instrument. -/
def clientQuery (request : ClientActionRequest) (instrument : PaymentInstrument) :
    ClientRules.Query where
  family := instrument.method.family
  type := instrument.method.type
  country := some request.country
  pendingOn := instrument.pendingOn
  requestType := request.requestType
  partner := some request.partner

/-- Selects the client action for an instrument and attaches it. With an error, or when there is
nothing to attach, the instrument comes back as it was. -/
def resolveClientAction (engine : Engine) (factory : DescriptionFactory)
    (request : ClientActionRequest) (instrument : PaymentInstrument) :
    Except ResolveError Outcome × PaymentInstrument :=
  match engine.clientActions.snapshot.rules.resolve (clientQuery request instrument) with
  | .error e => (.error e, instrument)
  | .ok selection =>
    let (dispatch, after) :=
      selection.filter.attach request instrument engine.settings factory
    (.ok ⟨selection.group.name, selection.filter.line, selection.survivors, dispatch⟩, after)

/-- The query for a service error. An empty country or partner counts as none. -/
def errorQuery (request : ServiceErrorRequest) (error : ErrorResponse) : ErrorRules.Query :=
  .of request.methodFamily request.methodType
    (if request.country = "" then none else some request.country)
    (if request.partner = "" then none else some request.partner) error.errorCode

/-- The response that the client receives for a service error. -/
def resolveServiceError (engine : Engine) (collaborators : Collaborators)
    (action : ErrorRules.ResourceAction) (request : ServiceErrorRequest) (error : ErrorResponse) :
    Except ResolveError ErrorResponse := do
  let selection ← engine.serviceErrors.snapshot.rules.resolve action (errorQuery request error)
  selection.entry.respond request error collaborators

end Engine

end PaymentRules
