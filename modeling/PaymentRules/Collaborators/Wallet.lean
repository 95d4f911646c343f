import PaymentRules.Collaborators.Basic

/-!
# Wallets

A wallet holds payment instruments under an account and the instrument's own identifier.
-/

namespace PaymentRules

/-- Instruments under an account and an identifier. A later instrument comes first. -/
structure Wallet where
  entries : List ((String × String) × PaymentInstrument)

namespace Wallet

/-- No instruments. -/
def empty : Wallet :=
  ⟨[]⟩

/-- The wallet with one more instrument, in place of any with the same account and identifier. -/
def put (wallet : Wallet) (accountId : String) (instrument : PaymentInstrument) : Wallet :=
  ⟨((accountId, instrument.id), instrument) :: wallet.entries⟩

/-- The instrument of an account. -/
def get? (wallet : Wallet) (accountId piid : String) : Option PaymentInstrument :=
  wallet.entries.lookup (accountId, piid)

/-- Fetches instruments from the wallet. -/
def accessor (wallet : Wallet) : InstrumentAccessor := fun accountId piid _ =>
  match wallet.get? accountId piid with
  | some instrument => .ok instrument
  | none =>
    .error (.accessor
      ("payment instrument '" ++ piid ++ "' not found for account '" ++ accountId ++ "'"))

@[simp] theorem get?_put_self (wallet : Wallet) (accountId : String)
    (instrument : PaymentInstrument) :
    (wallet.put accountId instrument).get? accountId instrument.id = some instrument := by
  simp [get?, put]

end Wallet

end PaymentRules
