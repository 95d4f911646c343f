import PaymentRules.Collaborators.Template
import PaymentRules.Collaborators.Wallet
import PaymentRules.Engine.Basic
import PaymentRules.Json.Writer

/-!
# The command line

Three commands: to check the rule files, to resolve a client action, and to resolve a service error.
The options that concern the rule files may stand before or after the command. An option counts once
at each place, and the one after the command wins. Where an option is missing a variable of the
environment takes its place, and then the settings file.

A command line that cannot be understood ends with status 2, and every other error with status 1.

## Main definitions

* `CommandLine.Invocation` and `CommandLine.parse` — what a command line asks for
* `CommandLine.run` — what is done, with the reading of files left to the caller
-/

namespace PaymentRules.CommandLine

/-- What is to be done. A context is a document that holds the query. -/
inductive Command where
  | validate
  | clientAction (context : String)
  | serviceError (context : String)
  deriving DecidableEq, Repr

/-- The options about rule files. -/
structure Options where
  settings : Option String
  clientActionPath : Option String
  serviceErrorPath : Option String
  delimiter : Option Char
  deriving DecidableEq, Repr

/-- A command with its options. -/
structure Invocation where
  options : Options
  command : Command
  deriving DecidableEq, Repr

/-- The names of the options that take a value. -/
inductive Flag where
  | settings
  | clientActionPath
  | serviceErrorPath
  | delimiter
  | context
  deriving DecidableEq, Repr

instance : Named Flag where
  all := [.settings, .clientActionPath, .serviceErrorPath, .delimiter, .context]
  name
    | .settings => "settings"
    | .clientActionPath => "client-action-config"
    | .serviceErrorPath => "service-error-config"
    | .delimiter => "delimiter"
    | .context => "context"

/-- The options given at one place of the command line. -/
structure Given where
  values : List (Flag × String)
  isVerbose : Bool
  deriving DecidableEq, Repr

/-- No options. -/
def Given.empty : Given :=
  ⟨[], false⟩

/-- Whether a value can be the value of an option. Only a context may be empty, and a delimiter is
one character. -/
def isValueOf (flag : Flag) (value : String) : Bool :=
  match flag with
  | .context => true
  | .delimiter => value.toList.length == 1
  | _ => value ≠ ""

/-- Adds an option, which must not have been given yet. -/
def Given.add? (given : Given) (flag : Flag) (value : String) : Option Given :=
  if (given.values.lookup flag).isNone && isValueOf flag value then
    some { given with values := (flag, value) :: given.values }
  else none

/-- Whether an argument is not a word. The hyphen alone is one. -/
def isOption (argument : String) : Bool :=
  match argument.toList with
  -- a lone hyphen is a word, so that it can be the value of an option
  | ['-'] => false
  | '-' :: _ => true
  | _ => false

/-- What an argument is. The mark `--` counts as a word here. -/
inductive Argument where
  | word
  | verbose
  | option (flag : Flag) (value : Option String)
  | unknown
  deriving DecidableEq, Repr

/-- The option of this name, with what stands behind its equals sign. -/
def longOption (name : String) (value : Option String) : Argument :=
  match Named.ofName? name with
  | some flag => .option flag value
  | none => .unknown

/-- What this argument is. -/
def Argument.of (argument : String) : Argument :=
  if !isOption argument || argument = "--" then .word
  else if argument = "-v" || argument = "--verbose" then .verbose
  else
    match argument.toList with
    | '-' :: '-' :: body =>
      -- a value may itself hold equals signs: the first one parts it from the name
      match body.dropWhile (· != '=') with
      | [] => longOption (String.ofList body) none
      | _ :: value => longOption (String.ofList (body.takeWhile (· != '='))) (String.ofList value)
    | _ => .unknown

/-- The options at one place, up to the first word, and the arguments from there on. Only the
options in `allowed` may be given there. -/
def readOptions (allowed : Flag → Bool) (given : Given) :
    List String → Option (Given × List String)
  | [] => some (given, [])
  | argument :: rest =>
    match Argument.of argument with
    | .word => some (given, argument :: rest)
    | .verbose =>
      if given.isVerbose then none else readOptions allowed { given with isVerbose := true } rest
    | .option flag (some value) =>
      if allowed flag then
        match given.add? flag value with
        | some given => readOptions allowed given rest
        | none => none
      else none
    | .option flag none =>
      -- without an equals sign the value is the next argument, unless that is an option
      match rest with
      | [] => none
      | value :: rest =>
        if allowed flag && !isOption value then
          match given.add? flag value with
          | some given => readOptions allowed given rest
          | none => none
        else none
    | .unknown => none

/-- The value of an option about rule files, from after the command, from before it, or from the
environment. A variable that is empty is no value, and it is an error where it is asked. -/
def pick (before after : Given) (flag : Flag) (variable_ : Option String) :
    Option (Option String) :=
  let first := before.values.lookup flag
  let second := after.values.lookup flag
  -- the variable is asked for at each of the two places that do not give the option
  if variable_ = some "" && (first.isNone || second.isNone) then none
  else some (second.or (first.or variable_))

/-- What a command line asks for, if it can be understood. -/
def parse (environment : String → Option String) (arguments : List String) :
    Option Invocation := do
  let (before, rest) ← readOptions (· ≠ .context) .empty arguments
  let (word, rest) ←
    match rest with
    | word :: rest => some (word, rest)
    | [] => none
  let takesContext ←
    match word with
    | "validate" => some false
    | "client-action" => some true
    | "service-error" => some true
    | _ => none
  let (after, rest) ← readOptions (fun flag => flag ≠ .context || takesContext) .empty rest
  -- no word follows the options of a command, only the mark that would announce one
  guard (rest.isEmpty || rest == ["--"])
  let options : Options := {
    settings := ← pick before after .settings none
    clientActionPath := ←
      pick before after .clientActionPath (environment "PI_CLIENT_ACTION_CONFIG")
    serviceErrorPath := ←
      pick before after .serviceErrorPath (environment "PI_SERVICE_ERROR_CONFIG")
    delimiter := (← pick before after .delimiter none).bind fun value => value.toList.head? }
  let command ←
    match word, after.values.lookup .context with
    | "client-action", some context => some (.clientAction context)
    | "service-error", some context => some (.serviceError context)
    | "validate", _ => some .validate
    | _, _ => none
  return { options, command }

/-- The reasons for which a command that was understood fails. -/
inductive Failure where
  | load (error : LoadError)
  | resolve (error : ResolveError)
  | malformedContext
  | unknownAction (word : String)
  deriving DecidableEq, Repr

/-- The diagnostic code of a failure, for those that have one. -/
def Failure.code : Failure → Option String
  | .load error => some error.code
  | .resolve error => some error.code
  | .malformedContext => none
  | .unknownAction _ => none

/-- The end of a run. -/
structure Result where
  status : Nat
  output : String
  code : Option String
  deriving DecidableEq, Repr

/-- The end of a run that was not understood. -/
def Result.usage : Result :=
  ⟨2, "", none⟩

/-- The end of a run with this document, or with this failure. -/
def Result.of : Except Failure Json → Result
  | .ok json => ⟨0, json.pretty ++ "\n", none⟩
  | .error failure => ⟨1, "", failure.code⟩

/-- The settings with what the command line says in their place. -/
def Options.override (options : Options) (settings : Settings) : Settings where
  clientActionPath := options.clientActionPath.getD settings.clientActionPath
  serviceErrorPath := options.serviceErrorPath.getD settings.serviceErrorPath
  delimiter := options.delimiter.getD settings.delimiter
  inlinePartners := settings.inlinePartners

/-- The document of a finding. -/
def findingToJson (finding : Finding) : Json :=
  .object [("family", .string finding.family), ("line", .integer finding.line),
    ("kind", .string (Named.name finding.kind)), ("message", .string finding.message)]

/-- The numbers of rules in an engine, and the findings of its review. -/
def report (engine : Engine) : Json :=
  let clientRules := engine.clientActions.snapshot.rules
  let errorRules := engine.serviceErrors.snapshot.rules
  .object [("clientActionRules", .integer clientRules.groups.length),
    ("clientActionFilters", .integer clientRules.filterCount),
    ("serviceErrorRequestTypes", .integer errorRules.sections.length),
    ("serviceErrorRules", .integer errorRules.blockCount),
    ("findings", .array (engine.review.map findingToJson))]

/-- The request and the instrument in the context of a client action. -/
def clientContext? (fresh : Uuid) (json : Json) :
    Option (ClientActionRequest × PaymentInstrument) := do
  match ← json.record? ["request", "paymentInstrument"] with
  | [request, instrument] =>
    return (← Json.required (ClientActionRequest.ofJson? fresh) request,
      ← Json.required PaymentInstrument.ofJson? instrument)
  | _ => none

/-- The word for the action, the request and the error in the context of a service error. -/
def errorContext? (fresh : Uuid) (json : Json) :
    Option (String × ServiceErrorRequest × ErrorResponse) := do
  match ← json.record? ["action", "request", "error"] with
  | [action, request, error] =>
    return (← Json.required Json.text? action,
      ← Json.required (ServiceErrorRequest.ofJson? fresh) request,
      ← Json.required ErrorResponse.ofJson? error)
  | _ => none

/-- The instruments that can be fetched for a request: the one that it carries. -/
def walletOf (request : ServiceErrorRequest) : Wallet :=
  match request.paymentInstrument with
  | some instrument => Wallet.empty.put request.accountId instrument
  | none => .empty

/-- The surroundings of the rules on the command line: template descriptions, no texts in other
languages, and the instruments of a wallet. -/
def collaborators (wallet : Wallet) : Collaborators :=
  ⟨fun key _ => key, Template.factory, wallet.accessor⟩

/-- Resolves the client action of a context. -/
def resolveClientAction (engine : Engine) (fresh : Uuid) (context : String) :
    Except Failure Json :=
  match Json.read? context >>= clientContext? fresh with
  | none => .error .malformedContext
  | some (request, instrument) =>
    match engine.resolveClientAction Template.factory request instrument with
    | (.ok _, after) => .ok after.toJson
    | (.error error, _) => .error (.resolve error)

/-- Resolves the service error of a context. -/
def resolveServiceError (engine : Engine) (fresh : Uuid) (context : String) :
    Except Failure Json :=
  match Json.read? context >>= errorContext? fresh with
  | none => .error .malformedContext
  | some (word, request, error) =>
    match (Named.ofName? word : Option ErrorRules.ResourceAction) with
    | none => .error (.unknownAction word)
    | some action =>
      match engine.resolveServiceError (collaborators (walletOf request)) action request error with
      | .ok response => .ok response.toJson
      | .error error => .error (.resolve error)

/-- Carries out a command. -/
def execute (engine : Engine) (fresh : Uuid) : Command → Except Failure Json
  | .validate => .ok (report engine)
  | .clientAction context => resolveClientAction engine fresh context
  | .serviceError context => resolveServiceError engine fresh context

/-- The settings in a file. -/
def settingsOfFile : File → Except LoadError Settings
  | some bytes => Settings.ofBytes bytes
  | none => .error .unreadable

/-- Carries out an invocation, with the settings and the rule files already read. -/
def perform (invocation : Invocation) (settings : Settings) (clientActions serviceErrors : File)
    (fresh : Uuid) : Except Failure Json :=
  match Engine.initialise settings clientActions serviceErrors with
  | .error error => .error (.load error)
  | .ok engine => execute engine fresh invocation.command

/-- Runs a command line. Files are read by `read`, which may be an effect. -/
def run {m : Type → Type} [Monad m] (read : String → m File) (environment : String → Option String)
    (fresh : Uuid) (arguments : List String) : m Result := do
  match parse environment arguments with
  | none => return .usage
  | some invocation =>
    let base ←
      match invocation.options.settings with
      | some path => settingsOfFile <$> read path
      | none => pure (.ok .default)
    match base with
    | .error error => return .of (.error (.load error))
    | .ok base =>
      let settings := invocation.options.override base
      let clientActions ← read settings.clientActionPath
      let serviceErrors ← read settings.serviceErrorPath
      return .of (perform invocation settings clientActions serviceErrors fresh)

end PaymentRules.CommandLine
