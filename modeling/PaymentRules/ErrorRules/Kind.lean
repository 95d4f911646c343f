import PaymentRules.Named

/-!
# The vocabularies of service-error rules

## Main definitions

* `ErrorRules.ResourceAction` — the operation that a service error was raised from
* `ErrorRules.FollowUp` — the client action that an error entry asks for
-/

namespace PaymentRules.ErrorRules

/-- The operation on a payment instrument that a service error was raised from. -/
inductive ResourceAction where
  | postModernPI
  | updateModernPI
  | resumePendingOperation
  deriving DecidableEq, Repr

instance : Named ResourceAction where
  all := [.postModernPI, .updateModernPI, .resumePendingOperation]
  name
    | .postModernPI => "PostModernPI"
    | .updateModernPI => "UpdateModernPI"
    | .resumePendingOperation => "ResumePendingOperation"

/-- The client action that an error entry attaches to the response. -/
inductive FollowUp where
  | none
  | directDebitAch
  | directDebitSepa
  | jumpback
  deriving DecidableEq, Repr

instance : Named FollowUp where
  all := [.none, .directDebitAch, .directDebitSepa, .jumpback]
  name
    | .none => "None"
    | .directDebitAch => "DirectDebitAch"
    | .directDebitSepa => "DirectDebitSepa"
    | .jumpback => "Jumpback"

/-- The follow-up a cell asks for. An empty cell asks for none. -/
def FollowUp.ofCell? (cell : String) : Option FollowUp :=
  if cell = "" then some .none else Named.ofName? cell

end PaymentRules.ErrorRules
