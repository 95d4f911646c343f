import PaymentRules.CommandLine
import PaymentRules.Proofs.ErrorRules.Rewriting

/-!
# Challenges for direct debits

A direct debit is followed up by a challenge about an instrument that is fetched anew. A request
that names no instrument is about the one that it carries, and this one can be fetched, since it is
put into the wallet under the account of the request before anything is resolved. A request that
names an instrument is about that one, whatever it carries.

A request may also name an instrument by an empty identifier. Everywhere else an empty text counts
as a missing one. Here it does not: the instrument that the request carries is no longer asked for
its identifier, so that there is nothing to fetch.

## Main definitions

* `Wallet.receive` — a wallet with the instrument that a request carries
* `FollowUp.ChallengesBy` — the follow-ups of direct debits, with the type of their challenge
* `IsChallenged` — an answer that is a challenge about an instrument

## Main results

* `direct_debit_is_challenged` — the answer to a direct debit, by the identifier in the request
* `carried_instrument_is_not_challenged` — an instrument that is carried beside an empty identifier
-/

namespace PaymentRules

/-- The wallet with the instrument that a request carries, under the account of the request. -/
def Wallet.receive (wallet : Wallet) (request : ServiceErrorRequest) : Wallet :=
  match request.paymentInstrument with
  | some instrument => wallet.put request.accountId instrument
  | none => wallet

/-- On the command line there are no other instruments. -/
theorem CommandLine.walletOf_eq (request : ServiceErrorRequest) :
    walletOf request = Wallet.empty.receive request := rfl

namespace ErrorRules

/-- The follow-ups of direct debits, with the type of the challenge. -/
inductive FollowUp.ChallengesBy : FollowUp → String → Prop
  | ach : ChallengesBy .directDebitAch "ach_picv"
  | sepa : ChallengesBy .directDebitSepa "sepa_picv"

/-- The answer is a response with one client action: it shows the challenge of a type that is made
for an instrument. -/
def IsChallenged (request : ServiceErrorRequest) (factory : DescriptionFactory) (type : String)
    (instrument : PaymentInstrument) (answer : Except ResolveError ErrorResponse) : Prop :=
  ∃ response, answer = .ok response ∧
    response.clientAction = some ⟨.pidl, some (.descriptions (factory.describe .picvChallenge
      { input request with
        instrument := some instrument
        method := some instrument.method
        type := some type })), none⟩

theorem FollowUp.ChallengesBy.challengeType?_eq {followUp : FollowUp} {type : String}
    (asked : followUp.ChallengesBy type) : followUp.challengeType? = some type := by
  cases asked <;> rfl

/-! ## The identifier -/

section

variable {request : ServiceErrorRequest} {instrument : PaymentInstrument} {piid : String}

/-- A request that names no instrument is about the one that it carries. -/
theorem instrumentId?_of_carried (unnamed : request.piid = none)
    (carried : request.paymentInstrument = some instrument) (nonempty : instrument.id ≠ "") :
    instrumentId? request = some instrument.id := by
  simp [instrumentId?, unnamed, carried, nonempty]

/-- The identifier in a request goes before that of the instrument that it carries. -/
theorem instrumentId?_of_named (named : request.piid = some piid) (nonempty : piid ≠ "") :
    instrumentId? request = some piid := by
  simp [instrumentId?, named, nonempty]

/-- So does an empty one, although it is no identifier. -/
theorem instrumentId?_of_empty (empty : request.piid = some "") :
    instrumentId? request = none := by
  simp [instrumentId?, empty]

/-- The instrument that a request carries is in the wallet. -/
theorem get?_receive_of_carried (wallet : Wallet)
    (carried : request.paymentInstrument = some instrument) :
    (wallet.receive request).get? request.accountId instrument.id = some instrument := by
  rw [Wallet.receive, carried]
  exact Wallet.get?_put_self wallet request.accountId instrument

end

/-! ## The response -/

section

variable {entry : Entry} {request : ServiceErrorRequest} {collaborators : Collaborators}
  {type : String}

/-- An entry for direct debits puts its challenge in place of any other client action, and fails
when there is no challenge. -/
theorem Entry.respond_of_challengesBy (asked : entry.followUp.ChallengesBy type)
    (error : ErrorResponse) :
    entry.respond request error collaborators =
      (challenge request type collaborators).map fun made => {
        errorCode := error.errorCode
        message :=
          if entry.message = "[]" then "[]"
          else collaborators.localizer entry.message request.language
        details := error.details ++
          entry.addedDetails error.errorCode request.language collaborators.localizer
        clientAction := some made } := by
  rw [Entry.respond_eq, FollowUp.action_of_challengeType? asked.challengeType?_eq]
  cases challenge request type collaborators <;> rfl

variable {wallet : Wallet} {piid : String} (asked : entry.followUp.ChallengesBy type)
  (stored : collaborators.accessor = wallet.accessor)
  (named : instrumentId? request = some piid) (error : ErrorResponse)

include asked stored named

/-- What the wallet holds under the identifier is what the challenge is about. -/
theorem isChallenged_of_get?_eq_some {instrument : PaymentInstrument}
    (found : wallet.get? request.accountId piid = some instrument) :
    IsChallenged request collaborators.descriptions type instrument
      (entry.respond request error collaborators) := by
  have fetched : collaborators.accessor request.accountId piid request.correlationId =
      .ok instrument := by
    rw [stored, Wallet.accessor, found]
  rw [Entry.respond_of_challengesBy asked,
    challenge_eq_ok_iff.mpr ⟨piid, instrument, named, fetched, rfl⟩]
  exact ⟨_, rfl, rfl⟩

theorem respond_of_get?_eq_none (missing : wallet.get? request.accountId piid = none) :
    entry.respond request error collaborators = .error (.accessor ("payment instrument '" ++ piid ++
      "' not found for account '" ++ request.accountId ++ "'")) := by
  rw [Entry.respond_of_challengesBy asked, challenge, named]
  simp only [stored, Wallet.accessor, missing]
  rfl

end

/-- Without an identifier there is nothing to fetch. -/
theorem respond_of_instrumentId?_eq_none {entry : Entry} {request : ServiceErrorRequest}
    {type : String} (asked : entry.followUp.ChallengesBy type)
    (unnamed : instrumentId? request = none) (error : ErrorResponse)
    (collaborators : Collaborators) :
    entry.respond request error collaborators =
      .error (.accessor "no payment instrument id to re-acquire") := by
  rw [Entry.respond_of_challengesBy asked, challenge, unnamed]
  rfl

end ErrorRules

open ErrorRules

/-- A direct debit is answered with a challenge about the instrument that the request carries, when
the request names none. An instrument that it names is looked up under its account, and the
challenge is about what is found. When the identifier is there but empty, no instrument is looked
up. -/
theorem direct_debit_is_challenged (engine : Engine) {collaborators : Collaborators}
    {wallet : Wallet} {action : ResourceAction} {request : ServiceErrorRequest}
    {error : ErrorResponse} {selection : Selection} {type : String}
    (stored : collaborators.accessor = (wallet.receive request).accessor)
    (selected : engine.serviceErrors.snapshot.rules.resolve action
      (Engine.errorQuery request error) = .ok selection)
    (asked : selection.entry.followUp.ChallengesBy type) :
    (∀ instrument, request.piid = none → request.paymentInstrument = some instrument →
      instrument.id ≠ "" →
        IsChallenged request collaborators.descriptions type instrument
          (engine.resolveServiceError collaborators action request error)) ∧
    (∀ piid, request.piid = some piid → piid ≠ "" →
      match (wallet.receive request).get? request.accountId piid with
      | some instrument =>
        IsChallenged request collaborators.descriptions type instrument
          (engine.resolveServiceError collaborators action request error)
      | none =>
        engine.resolveServiceError collaborators action request error =
          .error (.accessor ("payment instrument '" ++ piid ++ "' not found for account '" ++
            request.accountId ++ "'"))) ∧
    (request.piid = some "" →
      engine.resolveServiceError collaborators action request error =
        .error (.accessor "no payment instrument id to re-acquire")) := by
  have answered : engine.resolveServiceError collaborators action request error =
      selection.entry.respond request error collaborators := by
    rw [Engine.resolveServiceError, selected, Except.ok_bind]
  rw [answered]
  refine ⟨?_, ?_, ?_⟩
  · intro instrument unnamed carried nonempty
    have named := instrumentId?_of_carried unnamed carried nonempty
    exact isChallenged_of_get?_eq_some asked stored named error
      (get?_receive_of_carried wallet carried)
  · intro piid given nonempty
    have named := instrumentId?_of_named given nonempty
    split
    · next found => exact isChallenged_of_get?_eq_some asked stored named error found
    · next missing => exact respond_of_get?_eq_none asked stored named error missing
  · intro empty
    exact respond_of_instrumentId?_eq_none asked (instrumentId?_of_empty empty) error collaborators

/-- A bank account with an identifier. -/
def bankAccount : PaymentInstrument where
  id := "pi-1"
  method := ⟨"direct_debit", some "ach"⟩
  details := .empty
  clientAction := none

/-- A request that carries the bank account and may name an instrument besides. -/
def debitRequest (piid : Option String) : ServiceErrorRequest :=
  { achRequest "cart" with
    accountId := "acc-1"
    paymentInstrument := some bankAccount
    piid }

/-- The rules of `debitRules` on the command line. -/
def debitEngine : Engine :=
  .ofRules .default ⟨[]⟩ debitRules

/-- What is answered to the request when its debit has expired. -/
def debitAnswer (piid : Option String) : Except ResolveError ErrorResponse :=
  debitEngine.resolveServiceError
    (CommandLine.collaborators (CommandLine.walletOf (debitRequest piid))) .postModernPI
    (debitRequest piid) (.of "Expired" "")

/-- An expired debit is answered by the generic entry, whatever instrument the request names. -/
theorem exists_resolve_debitRequest (piid : Option String) :
    ∃ selection, debitEngine.serviceErrors.snapshot.rules.resolve .postModernPI
        (Engine.errorQuery (debitRequest piid) (.of "Expired" "")) = .ok selection ∧
      selection.entry.followUp = .directDebitAch := by
  -- The query for the rules has no place for an instrument.
  have asked : (debitRules.resolve .postModernPI
      (Engine.errorQuery (achRequest "cart") (.of "Expired" ""))).map (·.entry.followUp) =
        .ok .directDebitAch := by
    decide +kernel
  exact Except.map_eq_ok_iff.mp asked

/-- The bank account is challenged when the request names no instrument or this one, and another one
is not in the wallet. -/
theorem direct_debit_is_challenged_of_bankAccount :
    IsChallenged (debitRequest none) Template.factory "ach_picv" bankAccount (debitAnswer none) ∧
    IsChallenged (debitRequest (some "pi-1")) Template.factory "ach_picv" bankAccount
      (debitAnswer (some "pi-1")) ∧
    debitAnswer (some "pi-2") =
      .error (.accessor "payment instrument 'pi-2' not found for account 'acc-1'") ∧
    debitAnswer (some "") = .error (.accessor "no payment instrument id to re-acquire") := by
  have stored (piid : Option String) :
      (CommandLine.collaborators (CommandLine.walletOf (debitRequest piid))).accessor =
        (Wallet.empty.receive (debitRequest piid)).accessor := by
    rw [CommandLine.walletOf_eq]
    rfl
  have challenged (piid : Option String) : ∃ selection,
      debitEngine.serviceErrors.snapshot.rules.resolve .postModernPI
        (Engine.errorQuery (debitRequest piid) (.of "Expired" "")) = .ok selection ∧
      selection.entry.followUp.ChallengesBy "ach_picv" := by
    obtain ⟨selection, selected, asked⟩ := exists_resolve_debitRequest piid
    exact ⟨selection, selected, asked ▸ .ach⟩
  refine ⟨?_, ?_, ?_, ?_⟩
  · obtain ⟨selection, selected, asked⟩ := challenged none
    exact (direct_debit_is_challenged debitEngine (stored none) selected asked).1 bankAccount rfl
      rfl (by decide)
  · obtain ⟨selection, selected, asked⟩ := challenged (some "pi-1")
    exact (direct_debit_is_challenged debitEngine (stored _) selected asked).2.1 "pi-1" rfl
      (by decide)
  · obtain ⟨selection, selected, asked⟩ := challenged (some "pi-2")
    exact (direct_debit_is_challenged debitEngine (stored _) selected asked).2.1 "pi-2" rfl
      (by decide)
  · obtain ⟨selection, selected, asked⟩ := challenged (some "")
    exact (direct_debit_is_challenged debitEngine (stored _) selected asked).2.2 rfl

/-- The bank account has an identifier, and yet it is not challenged when the request names an
instrument by an empty one. -/
theorem carried_instrument_is_not_challenged :
    (∃ selection, debitEngine.serviceErrors.snapshot.rules.resolve .postModernPI
        (Engine.errorQuery (debitRequest (some "")) (.of "Expired" "")) = .ok selection ∧
      selection.entry.followUp = .directDebitAch) ∧
    (debitRequest (some "")).paymentInstrument = some bankAccount ∧ bankAccount.id ≠ "" ∧
    ¬ IsChallenged (debitRequest (some "")) Template.factory "ach_picv" bankAccount
      (debitAnswer (some "")) := by
  refine ⟨exists_resolve_debitRequest (some ""), rfl, by decide, ?_⟩
  rintro ⟨response, answered, -⟩
  have refused : debitAnswer (some "") =
      .error (.accessor "no payment instrument id to re-acquire") := rfl
  rw [refused] at answered
  cases answered

end PaymentRules
