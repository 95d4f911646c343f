import PaymentRules.CommandLine

/-!
# The program

Runs the command line on the files and the environment of the machine.
-/

namespace PaymentRules.Main

/-- The contents of a file, nothing if it cannot be read. -/
def readFile (path : String) : IO File := do
  try
    return some (← IO.FS.readBinFile path)
  catch _ =>
    return none

/-- An identifier that was not used before, by all likelihood. -/
def freshId : IO Uuid := do
  let mut digits : List (Fin 16) := []
  for _ in [0:32] do
    let drawn ← IO.rand 0 15
    digits := ⟨drawn % 16, Nat.mod_lt drawn (by decide)⟩ :: digits
  if h : digits.length = 32 then return ⟨digits, h⟩ else return .zero

end PaymentRules.Main

/-- Runs the command line. -/
def main (arguments : List String) : IO UInt32 := do
  let clientActions ← IO.getEnv "PI_CLIENT_ACTION_CONFIG"
  let serviceErrors ← IO.getEnv "PI_SERVICE_ERROR_CONFIG"
  let environment (name : String) : Option String :=
    if name = "PI_CLIENT_ACTION_CONFIG" then clientActions
    else if name = "PI_SERVICE_ERROR_CONFIG" then serviceErrors
    else none
  let result ← PaymentRules.CommandLine.run PaymentRules.Main.readFile environment
    (← PaymentRules.Main.freshId) arguments
  IO.print result.output
  match result.code with
  | some code => IO.eprintln ("Error: " ++ code)
  | none => if result.status = 0 then pure () else IO.eprintln "Error"
  return UInt32.ofNat result.status
