import PaymentRules.ClientRules.Action
import PaymentRules.ErrorRules.Kind

/-!
# Errors while loading

A rule file or a settings file that cannot be used is refused as a whole, with one cause. Each cause
that lies in a row of a sheet carries the source line of that row.

## Main definitions

* `ShapeFlaw` — what is wrong when the rows of a sheet do not form rules
* `LoadError` — every cause of refusal
* `LoadError.message`, `LoadError.code` — the text and the diagnostic code of a cause
-/

namespace PaymentRules

/-- A defect in how the rows of a rule sheet fit together. -/
inductive ShapeFlaw where
  | detachedValue (value column : String)
  | unnamedGroup
  | groupWithoutActions (name : String)
  | mismatchedAction (kind : ClientRules.ActionKind) (context : ClientRules.ActionContext)
  | methodsStartLate
  | methodsInterrupted
  | actionWithoutMethods (action : ErrorRules.ResourceAction)
  | blockWithoutEntries
  | secondGenericEntry
  | entryWithoutMessage
  deriving DecidableEq, Repr

/-- What a flaw is reported as. -/
def ShapeFlaw.message : ShapeFlaw → String
  | .detachedValue value column =>
    "value '" ++ value ++ "' in column '" ++ column ++
      "' is separated from its list by a blank cell"
  | .unnamedGroup => "rule group does not start with a PaymentName"
  | .groupWithoutActions name => "rule group '" ++ name ++ "' declares no client actions"
  | .mismatchedAction kind context =>
    "client action type " ++ Named.name kind ++ " cannot build context " ++ Named.name context
  | .methodsStartLate => "payment methods must start on the rule's PaymentName row"
  | .methodsInterrupted => "payment method rows must be contiguous"
  | .actionWithoutMethods action =>
    "resource action " ++ Named.name action ++ " declares no payment methods"
  | .blockWithoutEntries => "payment method block declares no error entries"
  | .secondGenericEntry => "payment method block declares more than one generic error entry"
  | .entryWithoutMessage => "error entry has no Message"

/-- The causes for which a rule file or a settings file is refused. -/
inductive LoadError where
  /-- The file is missing, or it is not text. -/
  | unreadable
  | emptyFile
  | duplicateColumn (name : String)
  | missingColumn (family column : String)
  | shape (family : String) (line : Nat) (flaw : ShapeFlaw)
  | invalidValue (column value : String) (line : Nat)
  | unknownConstant (name : String) (line : Nat)
  | malformedSettings
  | wideDelimiter (value : Char)
  deriving DecidableEq, Repr

namespace LoadError

/-- The text of an error. Where a file cannot be read or parsed, the text is not ours to give. -/
def message : LoadError → Option String
  | .unreadable => none
  | .malformedSettings => none
  | .emptyFile => some "rule file is empty"
  | .duplicateColumn name => some ("duplicate column '" ++ name ++ "' in header")
  | .missingColumn family column =>
    some (family ++ " configuration is missing required column '" ++ column ++ "'")
  | .shape family line flaw =>
    some (family ++ " configuration is malformed at row " ++ line.repr ++ ": " ++ flaw.message)
  | .invalidValue column value line =>
    some ("invalid value '" ++ value ++ "' in column '" ++ column ++ "' at row " ++ line.repr)
  | .unknownConstant name line =>
    some ("unknown named constant '" ++ name ++ "' at row " ++ line.repr)
  | .wideDelimiter value =>
    some ("delimiter '" ++ value.toString ++ "' is not a single ASCII character")

/-- The diagnostic code of an error. -/
def code : LoadError → String
  | .unreadable => "pi_lifecycle::config::io"
  | .emptyFile => "pi_lifecycle::config::empty_file"
  | .duplicateColumn _ => "pi_lifecycle::config::duplicate_column"
  | .missingColumn .. => "pi_lifecycle::config::missing_column"
  | .shape .. => "pi_lifecycle::config::shape"
  | .invalidValue .. => "pi_lifecycle::config::invalid_value"
  | .unknownConstant .. => "pi_lifecycle::config::unknown_constant"
  | .malformedSettings => "pi_lifecycle::config::settings"
  | .wideDelimiter _ => "pi_lifecycle::config::delimiter"

/-- Advice that goes with an error. -/
def help : LoadError → Option String
  | .wideDelimiter _ => some "use ',', ';', '\\t' or '|'"
  | _ => none

end LoadError

end PaymentRules
