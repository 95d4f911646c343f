import PaymentRules.Collaborators.Wallet
import PaymentRules.Engine.Basic
import PaymentRules.Proofs.Except

/-!
# What is left of a service error

A response keeps the code of the error that it answers, and every detail that came with it. The text
is always that of the selected entry. One detail may stand behind the others, and a client action
gives way only to a new one.

So the text of the failing service is read nowhere: errors that differ in nothing else are answered
alike. Once an entry is selected, the one thing left that can fail is to fetch an instrument, and
only the entries for direct debits ask for that.

## Main definitions

* `FollowUp.Shows` — the descriptions that a follow-up puts before the client
* `Entry.Rewrites` — the response to an error, field by field

## Main results

* `Entry.respond_eq_ok_iff` — an entry makes the response that it describes, and no other
* `service_error_is_rewritten` — the answer to a service error, whatever the engine has published
-/

namespace PaymentRules

namespace ErrorRules

/-- The challenge that a direct debit is followed up by. -/
def FollowUp.challengeType? : FollowUp → Option String
  | .directDebitAch => some Constant.achPicvChallenge
  | .directDebitSepa => some Constant.sepaPicvChallenge
  | .none | .jumpback => Option.none

/-- What a follow-up shows in the new client action. A challenge is about the instrument as it is
fetched, under the account of the request; nothing else needs an instrument. -/
inductive FollowUp.Shows (request : ServiceErrorRequest) (collaborators : Collaborators) :
    FollowUp → List Description → Prop
  | jumpback : Shows request collaborators .jumpback
      (collaborators.descriptions.describe .paymentMethod
        { input request with
          method := some (methodOf request)
          type := some Constant.paymentMethodDescription })
  | challenge {followUp : FollowUp} {type piid : String} {instrument : PaymentInstrument}
      (asked : followUp.challengeType? = some type) (named : instrumentId? request = some piid)
      (fetched : collaborators.accessor request.accountId piid request.correlationId =
        .ok instrument) :
      Shows request collaborators followUp
        (collaborators.descriptions.describe .picvChallenge
          { input request with
            instrument := some instrument
            method := some instrument.method
            type := some type })

/-- The details that an entry adds to an error with this code: one if it sets any part of a detail,
and else none. -/
def Entry.addedDetails (entry : Entry) (errorCode language : String) (localizer : Localizer) :
    List ErrorDetail :=
  if entry.detailsErrorCode = none ∧ entry.detailsMessage = none ∧ entry.detailsTarget = none then
    []
  else [{
    errorCode := entry.detailsErrorCode.getD errorCode
    message :=
      match entry.detailsMessage with
      | some text => localizer text language
      | none => ""
    target := entry.detailsTarget }]

/-- The response that an entry makes of a service error. -/
structure Entry.Rewrites (entry : Entry) (request : ServiceErrorRequest)
    (collaborators : Collaborators) (error response : ErrorResponse) : Prop where
  errorCode : response.errorCode = error.errorCode
  message : response.message =
    if entry.message = "[]" then "[]" else collaborators.localizer entry.message request.language
  details : response.details =
    error.details ++ entry.addedDetails error.errorCode request.language collaborators.localizer
  keptAction : entry.followUp = .none → response.clientAction = error.clientAction
  newAction : entry.followUp ≠ .none → ∃ descriptions,
    entry.followUp.Shows request collaborators descriptions ∧
      response.clientAction = some ⟨.pidl, some (.descriptions descriptions), none⟩

section

variable {request : ServiceErrorRequest} {collaborators : Collaborators}
  {error response : ErrorResponse} {entry : Entry} {followUp : FollowUp}

/-! ## The client action -/

theorem challenge_eq_ok_iff {type : String} {action : ClientAction} :
    challenge request type collaborators = .ok action ↔
      ∃ piid instrument, instrumentId? request = some piid ∧
        collaborators.accessor request.accountId piid request.correlationId = .ok instrument ∧
        action = .showing (collaborators.descriptions.describe .picvChallenge
          { input request with
            instrument := some instrument
            method := some instrument.method
            type := some type }) := by
  rw [challenge]
  cases instrumentId? request with
  | none => simp
  | some piid => simp [@eq_comm _ _ action]

theorem FollowUp.action_of_challengeType? {type : String}
    (asked : followUp.challengeType? = some type) :
    followUp.action request collaborators =
      (challenge request type collaborators).map some := by
  cases followUp <;> cases asked <;> rfl

/-- A follow-up leaves the action alone, or replaces it by one that shows something new. -/
theorem FollowUp.action_eq_ok_iff {made : Option ClientAction} :
    followUp.action request collaborators = .ok made ↔
      (followUp = FollowUp.none ∧ made = Option.none) ∨
        ∃ descriptions, followUp.Shows request collaborators descriptions ∧
          made = some (.showing descriptions) := by
  constructor
  · intro answered
    cases asked : followUp.challengeType? with
    | none =>
      cases followUp with
      | none => exact .inl ⟨rfl, (Except.ok.inj answered).symm⟩
      | jumpback => exact .inr ⟨_, .jumpback, (Except.ok.inj answered).symm⟩
      | directDebitAch => cases asked
      | directDebitSepa => cases asked
    | some type =>
      rw [FollowUp.action_of_challengeType? asked, Except.map_eq_ok_iff] at answered
      obtain ⟨action, challenged, rfl⟩ := answered
      obtain ⟨_, _, named, fetched, rfl⟩ := challenge_eq_ok_iff.mp challenged
      exact .inr ⟨_, .challenge asked named fetched, rfl⟩
  · rintro (⟨rfl, rfl⟩ | ⟨_, shown, rfl⟩)
    · rfl
    · cases shown with
      | jumpback => rfl
      | challenge asked named fetched =>
        rw [FollowUp.action_of_challengeType? asked, Except.map_eq_ok_iff]
        exact ⟨_, challenge_eq_ok_iff.mpr ⟨_, _, named, fetched, rfl⟩, rfl⟩

/-- Only a challenge can fail. -/
theorem FollowUp.directDebit_of_action_eq_error {failure : ResolveError}
    (failed : followUp.action request collaborators = .error failure) :
    followUp = .directDebitAch ∨ followUp = .directDebitSepa := by
  cases followUp with
  | none => cases failed
  | jumpback => cases failed
  | directDebitAch => exact .inl rfl
  | directDebitSepa => exact .inr rfl

/-! ## The response -/

/-- To set no part of a detail is to have none. -/
theorem Entry.addedDetails_eq (entry : Entry) (errorCode language : String)
    (localizer : Localizer) :
    entry.addedDetails errorCode language localizer =
      if entry.hasDetail then [entry.detail errorCode language localizer] else [] := by
  cases stated : entry.hasDetail with
  | false =>
    have nothing : entry.detailsErrorCode = none ∧ entry.detailsMessage = none ∧
        entry.detailsTarget = none := by simpa [Entry.hasDetail, and_assoc] using stated
    simp [Entry.addedDetails, nothing]
  | true =>
    have something : ¬ (entry.detailsErrorCode = none ∧ entry.detailsMessage = none ∧
        entry.detailsTarget = none) := fun nothing => by simp [Entry.hasDetail, nothing] at stated
    rw [Entry.addedDetails, if_neg something, Entry.detail]
    cases entry.detailsMessage <;> rfl

/-- The response is settled but for its client action before anything can fail. -/
theorem Entry.respond_eq (entry : Entry) (request : ServiceErrorRequest) (error : ErrorResponse)
    (collaborators : Collaborators) :
    entry.respond request error collaborators =
      (entry.followUp.action request collaborators).map fun made => {
        errorCode := error.errorCode
        message :=
          if entry.message = "[]" then "[]"
          else collaborators.localizer entry.message request.language
        details := error.details ++
          entry.addedDetails error.errorCode request.language collaborators.localizer
        clientAction := made.or error.clientAction } := by
  rw [Entry.respond, Entry.addedDetails_eq]
  cases entry.followUp.action request collaborators with
  | error failure => rfl
  | ok made =>
    cases entry.hasDetail with
    | true => rfl
    | false =>
      simp only [Bool.false_eq_true, if_false, List.append_nil]
      rfl

/-- An entry makes the response that it describes, and no other. -/
theorem Entry.respond_eq_ok_iff :
    entry.respond request error collaborators = .ok response ↔
      entry.Rewrites request collaborators error response := by
  rw [Entry.respond_eq, Except.map_eq_ok_iff]
  constructor
  · rintro ⟨made, asked, rfl⟩
    have told := FollowUp.action_eq_ok_iff.mp asked
    refine ⟨rfl, rfl, rfl, fun quiet => ?_, fun active => ?_⟩
    · rcases told with ⟨-, rfl⟩ | ⟨_, shown, -⟩
      · rfl
      · rw [quiet] at shown
        exact nomatch shown
    · rcases told with ⟨quiet, -⟩ | ⟨descriptions, shown, rfl⟩
      · exact absurd quiet active
      · exact ⟨descriptions, shown, rfl⟩
  · intro rewrites
    obtain ⟨code, message, details, clientAction⟩ := response
    obtain ⟨rfl, rfl, rfl, kept, new⟩ := rewrites
    by_cases quiet : entry.followUp = .none
    · obtain rfl := kept quiet
      exact ⟨none, FollowUp.action_eq_ok_iff.mpr (.inl ⟨quiet, rfl⟩), rfl⟩
    · obtain ⟨descriptions, shown, rfl⟩ := new quiet
      exact ⟨some (.showing descriptions),
        FollowUp.action_eq_ok_iff.mpr (.inr ⟨descriptions, shown, rfl⟩), rfl⟩

/-- No response depends on the text that came with the error. -/
theorem Entry.respond_message (entry : Entry) (request : ServiceErrorRequest)
    (error : ErrorResponse) (collaborators : Collaborators) (message : String) :
    entry.respond request { error with message } collaborators =
      entry.respond request error collaborators := by
  rw [Entry.respond_eq, Entry.respond_eq]

end

end ErrorRules

/-! ## The engine -/

open ErrorRules

/-- An engine answers a service error with what the selected entry makes of it. The answer is the
same for every text that the error may have come with. After the selection only a direct debit can
fail. -/
theorem service_error_is_rewritten (engine : Engine) (collaborators : Collaborators)
    (action : ResourceAction) (request : ServiceErrorRequest) (error : ErrorResponse) :
    (∀ response, engine.resolveServiceError collaborators action request error = .ok response ↔
      ∃ selection, engine.serviceErrors.snapshot.rules.resolve action
          (Engine.errorQuery request error) = .ok selection ∧
        selection.entry.Rewrites request collaborators error response) ∧
    (∀ message, engine.resolveServiceError collaborators action request { error with message } =
      engine.resolveServiceError collaborators action request error) ∧
    (∀ selection failure, engine.serviceErrors.snapshot.rules.resolve action
        (Engine.errorQuery request error) = .ok selection →
      engine.resolveServiceError collaborators action request error = .error failure →
        selection.entry.followUp = .directDebitAch ∨
          selection.entry.followUp = .directDebitSepa) := by
  refine ⟨fun response => ?_, fun message => ?_, fun selection failure selected failed => ?_⟩
  · simp only [Engine.resolveServiceError, Except.bind_eq_ok_iff, Entry.respond_eq_ok_iff]
  · -- The query for the rules has no place for a text.
    have query : Engine.errorQuery request { error with message } =
      Engine.errorQuery request error := rfl
    simp only [Engine.resolveServiceError, query, Entry.respond_message]
  · rw [Engine.resolveServiceError, selected, Except.ok_bind, Entry.respond_eq] at failed
    cases asked : selection.entry.followUp.action request collaborators with
    | error cause => exact FollowUp.directDebit_of_action_eq_error asked
    | ok made =>
      rw [asked] at failed
      cases failed

/-- Blocks for direct debits of two types, and for two countries. The last one is for one partner
only. It has an entry for a declined card, and one for every other failure, which asks for the
account to be verified. -/
def debitRules : ErrorRules where
  sections := [{
    action := .postModernPI
    line := 2
    blocks := [{
      line := 2
      family := .ofValues ["direct_debit"] true
      types := .ofValues ["sepa"] true
      countries := .any
      partners := .any
      table := EntryTable.empty.push ⟨2, "[]", [], none, none, none, .directDebitSepa⟩ }, {
      line := 3
      family := .ofValues ["direct_debit"] true
      types := .ofValues ["ach"] true
      countries := .ofValues ["ca"] true
      partners := .any
      table := EntryTable.empty.push ⟨3, "[]", [], none, none, none, .jumpback⟩ }, {
      line := 4
      family := .ofValues ["direct_debit"] true
      types := .ofValues ["ach"] true
      countries := .ofValues ["us"] true
      partners := .ofValues ["cart"] true
      table := (EntryTable.empty.push
        ⟨4, "Card declined", ["Declined"], none, some "Try again", none, .jumpback⟩).push
        ⟨5, "[]", [], none, none, none, .directDebitAch⟩ }] }]

/-- A request for a debit in the United States. -/
def achRequest (partner : String) : ServiceErrorRequest :=
  { ServiceErrorRequest.of .zero "direct_debit" (some "ach") with country := "us", partner }

/-- A declined card is answered in the language of the request and without the text of the service.
An account without an instrument cannot be verified. Without a partner there is no block for the
debit. -/
theorem service_error_is_rewritten_of_debitRules :
    let engine := Engine.ofRules .default ⟨[]⟩ debitRules
    let collaborators : Collaborators :=
      ⟨fun key language => language ++ ": " ++ key, ⟨fun _ _ => [], fun _ => none⟩,
        Wallet.empty.accessor⟩
    let resolve (partner : String) (error : ErrorResponse) :=
      engine.resolveServiceError collaborators .postModernPI (achRequest partner) error
    (∃ (response : ErrorResponse) (selection : Selection),
      resolve "cart" (.of "Declined" "insufficient funds") = .ok response ∧
      response.message = "en-US: Card declined" ∧
      response.details = [⟨"Declined", "en-US: Try again", none⟩] ∧
      selection.entry.line = 4 ∧
      selection.entry.Rewrites (achRequest "cart") collaborators
        (.of "Declined" "insufficient funds") response) ∧
    resolve "cart" (.of "Declined" "") = resolve "cart" (.of "Declined" "insufficient funds") ∧
    (∃ (selection : Selection) (failure : ResolveError),
      debitRules.resolve .postModernPI
        (Engine.errorQuery (achRequest "cart") (.of "Expired" "")) = .ok selection ∧
      selection.entry.line = 5 ∧
      resolve "cart" (.of "Expired" "") = .error failure ∧
      (selection.entry.followUp = .directDebitAch ∨
        selection.entry.followUp = .directDebitSepa)) ∧
    ∀ response, resolve "" (.of "Declined" "") ≠ .ok response := by
  intro engine collaborators resolve
  have told (partner code message : String) :=
    service_error_is_rewritten engine collaborators .postModernPI (achRequest partner)
      (.of code message)
  refine ⟨?_, (told "cart" "Declined" "insufficient funds").2.1 "", ?_, ?_⟩
  · obtain ⟨selection, selected, rewrites⟩ :=
      ((told "cart" "Declined" "insufficient funds").1 _).mp rfl
    refine ⟨_, selection, rfl, by decide +kernel, by decide +kernel, ?_, rewrites⟩
    rw [← Except.ok.inj selected]
  · exact ⟨_, _, rfl, rfl, rfl, (told "cart" "Expired" "").2.2 _ _ rfl rfl⟩
  · intro response answered
    obtain ⟨selection, selected, -⟩ := ((told "" "Declined" "").1 response).mp answered
    cases selected

end PaymentRules
