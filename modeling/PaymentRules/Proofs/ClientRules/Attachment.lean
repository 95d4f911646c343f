import PaymentRules.Engine.Basic
import PaymentRules.Proofs.Except

/-!
# What a resolution does to an instrument

An instrument that is resolved is left as it was but for the client action that is attached to it. A
query that no rule answers attaches nothing, and so does a rule whose action has nothing to go by: a
redirect of an instrument without an address, or a digitization that is not offered. An action that
is there then stays.

## Main definitions

* `Filter.Asks` — the action that a filter asks for, by its kind
* `Filter.HasNothing` — why a filter attaches nothing

## Main results

* `Filter.build_eq_none_iff`, `Filter.asks_of_build` — when an action is built, and which one
* `only_the_action_changes` — an instrument after its resolution, whatever the engine has published
-/

namespace PaymentRules

namespace ClientRules

namespace Filter

/-- The action is one that the filter asks for. The descriptions that go with a redirect are left
open. -/
def Asks (filter : Filter) (request : ClientActionRequest) (instrument : PaymentInstrument)
    (factory : DescriptionFactory) (action : ClientAction) : Prop :=
  match filter.action with
  | .pidl challenge =>
    action = ⟨.pidl, some (.descriptions (factory.describe challenge.descriptionKind
      (filter.input request instrument))), none⟩
  | .redirect target _ _ =>
    ∃ address, instrument.details.redirectUrl = some address ∧ action.kind = .redirect ∧
      action.context =
        match target with
        | .url => some (.url address)
        | .serviceLink => some (.link (serviceLink instrument address))
  | .digitization =>
    factory.digitize ⟨instrument, request.accountId, request.language, request.partner,
      request.pidlBaseUrl⟩ = some action

/-- There is nothing that the action of the filter could be made of. -/
def HasNothing (filter : Filter) (request : ClientActionRequest) (instrument : PaymentInstrument)
    (factory : DescriptionFactory) : Prop :=
  (∃ target isStatic clearsMembers, filter.action = .redirect target isStatic clearsMembers ∧
    (instrument.details.redirectUrl = none ∨ instrument.details.redirectUrl = some "")) ∨
  (filter.action = .digitization ∧
    factory.digitize ⟨instrument, request.accountId, request.language, request.partner,
      request.pidlBaseUrl⟩ = none)

end Filter

section

variable {filter : Filter} {request : ClientActionRequest} {instrument : PaymentInstrument}
  {settings : Settings} {factory : DescriptionFactory}

theorem Filter.build_eq_none_iff :
    filter.build request instrument settings factory = none ↔
      filter.HasNothing request instrument factory := by
  cases asked : filter.action with
  | pidl challenge => simp [Filter.build, Filter.HasNothing, asked]
  | redirect target isStatic clearsMembers =>
    simp [Filter.build, Filter.HasNothing, asked, PaymentInstrument.redirectUrl_eq_none_iff]
  | digitization => simp [Filter.build, Filter.HasNothing, asked]

theorem Filter.asks_of_build {action : ClientAction}
    (built : filter.build request instrument settings factory = some action) :
    filter.Asks request instrument factory action := by
  cases asked : filter.action with
  | pidl challenge =>
    simp only [Filter.build, asked, Option.some.injEq] at built
    simp only [Filter.Asks, asked]
    exact built.symm
  | redirect target isStatic clearsMembers =>
    simp only [Filter.build, asked, Option.map_eq_some_iff] at built
    obtain ⟨address, given, rfl⟩ := built
    simp only [Filter.Asks, asked]
    refine ⟨address, (PaymentInstrument.redirectUrl_eq_some_iff.mp given).1, rfl, ?_⟩
    cases target <;> rfl
  | digitization => simpa only [Filter.build, Filter.Asks, asked] using built

end

end ClientRules

/-! ## The engine -/

open ClientRules

/-- A selected filter is attached, and reported with its place in the rules. -/
theorem resolveClientAction_of_selected (engine : Engine) (factory : DescriptionFactory)
    {request : ClientActionRequest} {instrument : PaymentInstrument} {selection : Selection}
    (selected : engine.clientActions.snapshot.rules.resolve
      (Engine.clientQuery request instrument) = .ok selection) :
    engine.resolveClientAction factory request instrument =
      (.ok ⟨selection.group.name, selection.filter.line, selection.survivors,
          (selection.filter.attach request instrument engine.settings factory).1⟩,
        (selection.filter.attach request instrument engine.settings factory).2) := by
  rw [Engine.resolveClientAction, selected]

/-- When an instrument is resolved, nothing but its client action can change. It stays as it was
when no rule answers the query, and when the selected filter has nothing to attach; otherwise the
action that the filter asks for is attached in place of any other. The outcome tells where the
filter stands in the rules. -/
theorem only_the_action_changes (engine : Engine) (factory : DescriptionFactory)
    (request : ClientActionRequest) (instrument : PaymentInstrument) :
    (∀ failure after,
      engine.resolveClientAction factory request instrument = (.error failure, after) ↔
        engine.clientActions.snapshot.rules.resolve (Engine.clientQuery request instrument) =
          .error failure ∧ after = instrument) ∧
    ∀ selection, engine.clientActions.snapshot.rules.resolve
        (Engine.clientQuery request instrument) = .ok selection →
      ∃ outcome after,
        engine.resolveClientAction factory request instrument = (.ok outcome, after) ∧
        outcome.rule = selection.group.name ∧
        outcome.filterLine = selection.filter.line ∧
        outcome.survivors = selection.survivors ∧
        (outcome.dispatch = .skipped ↔ selection.filter.HasNothing request instrument factory) ∧
        (outcome.dispatch = .skipped → after = instrument) ∧
        (outcome.dispatch = .attached → ∃ action,
          selection.filter.build request instrument engine.settings factory = some action ∧
          selection.filter.Asks request instrument factory action ∧
          after = { instrument with clientAction := some action }) := by
  constructor
  · intro failure after
    rw [Engine.resolveClientAction]
    cases engine.clientActions.snapshot.rules.resolve (Engine.clientQuery request instrument) with
    | error cause => simp [@eq_comm _ _ after]
    | ok selection => simp
  · intro selection selected
    have answered := resolveClientAction_of_selected engine factory selected
    cases built : selection.filter.build request instrument engine.settings factory with
    | none =>
      rw [Filter.attach, built] at answered
      have nothing := Filter.build_eq_none_iff.mp built
      exact ⟨_, _, answered, rfl, rfl, rfl, by simp [nothing], fun _ => rfl, nofun⟩
    | some action =>
      rw [Filter.attach, built] at answered
      have something : ¬ selection.filter.HasNothing request instrument factory :=
        fun nothing => by simp [Filter.build_eq_none_iff.mpr nothing] at built
      exact ⟨_, _, answered, rfl, rfl, rfl, by simp [something], nofun,
        fun _ => ⟨action, rfl, Filter.asks_of_build built, rfl⟩⟩

/-- Cards of two countries. The filters for the second one are told apart by what the card is
pending on, by the type of the request and by the partner. -/
def redirectRules : ClientRules where
  groups := [{
    name := "German cards"
    line := 2
    methods := ⟨.oneOf ["credit_card"] (by decide), .any, .oneOf ["de"] (by decide)⟩
    rejectsNullPendingOn := true
    unmatchedPendingOn := none
    unmatchedRequestType := none
    filters := [⟨2, .any, .any, .any, .pidl .static, none⟩] }, {
    name := "Visa cards"
    line := 3
    methods := ⟨.oneOf ["credit_card"] (by decide), .oneOf ["visa"] (by decide),
      .oneOf ["us"] (by decide)⟩
    rejectsNullPendingOn := true
    unmatchedPendingOn := none
    unmatchedRequestType := none
    filters := [
      ⟨3, .oneOf ["sms"] (by decide), .any, .any, .pidl .sms, none⟩,
      ⟨4, .any, .oneOf ["update"] (by decide), .any, .redirect .serviceLink true false, none⟩,
      ⟨5, .any, .any, .oneOf ["azure"] (by decide), .redirect .serviceLink false false, none⟩,
      ⟨6, .oneOf ["redirect"] (by decide), .oneOf ["add"] (by decide),
        .oneOf ["cart"] (by decide), .redirect .url false false, none⟩] }]

/-- A card that is pending on a redirect to an address and already has an action. -/
def redirectedCard (address : String) : PaymentInstrument where
  id := "1"
  method := ⟨"credit_card", some "visa"⟩
  details := ⟨some "redirect", some address, true⟩
  clientAction := some (.showing [])

/-- A request to add a card, from a partner in the United States. -/
def addRequest (partner : String) : ClientActionRequest :=
  { ClientActionRequest.of .zero "us" partner with requestType := some "add" }

/-- The action that is there gives way to a redirect with an address, and stays when the address is
empty or when no filter is for the partner. -/
theorem only_the_action_changes_of_redirectRules :
    let engine := Engine.ofRules .default redirectRules ⟨[]⟩
    let factory : DescriptionFactory := ⟨fun _ _ => [], fun _ => none⟩
    let card := redirectedCard "https://bank.example"
    (∃ outcome after action,
      engine.resolveClientAction factory (addRequest "cart") card = (.ok outcome, after) ∧
      outcome.rule = "Visa cards" ∧ outcome.filterLine = 6 ∧ outcome.survivors = 1 ∧
      after = { card with clientAction := some action } ∧
      action.kind = .redirect ∧ action.context = some (.url "https://bank.example")) ∧
    (∃ outcome, engine.resolveClientAction factory (addRequest "cart") (redirectedCard "") =
      (.ok outcome, redirectedCard "") ∧ outcome.dispatch = .skipped) ∧
    ∃ failure, engine.resolveClientAction factory (addRequest "bing") card =
      (.error failure, card) := by
  intro engine factory card
  refine ⟨?_, ?_, ?_⟩
  · obtain ⟨outcome, after, answered, rule, line, survivors, -, -, attached⟩ :=
      (only_the_action_changes engine factory (addRequest "cart")
        (redirectedCard "https://bank.example")).2 _ rfl
    obtain ⟨action, -, ⟨address, given, kind, context⟩, rfl⟩ := attached (by
      rw [← Except.ok.inj (congrArg Prod.fst answered)])
    obtain rfl := Option.some.inj given
    exact ⟨outcome, _, action, answered, rule, line, survivors, rfl, kind, context⟩
  · obtain ⟨outcome, after, answered, -, -, -, skips, kept, -⟩ :=
      (only_the_action_changes engine factory (addRequest "cart") (redirectedCard "")).2 _ rfl
    have skipped := skips.mpr (.inl ⟨_, _, _, rfl, .inr rfl⟩)
    rw [kept skipped] at answered
    exact ⟨outcome, answered, skipped⟩
  · have refused := (only_the_action_changes engine factory (addRequest "bing")
      (redirectedCard "https://bank.example")).1
    exact ⟨_, (refused _ _).mpr ⟨rfl, rfl⟩⟩

end PaymentRules
