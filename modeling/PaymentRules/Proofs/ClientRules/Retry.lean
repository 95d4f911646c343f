import PaymentRules.Collaborators.Template
import PaymentRules.Proofs.ClientRules.Attachment

/-!
# Asking again for a client action

A caller that is not sure to have been answered asks again, with the instrument as it came back. The
action that was attached to it is then part of what is resolved. Nothing in a resolution looks at
it: not the query, not the link for the way back, and not the descriptions, as long as their factory
does not. So the second answer is the first, and the instrument stays as the first answer left it.

## Main definitions

* `PaymentInstrument.carrying` — an instrument with another client action, or with none
* `DescriptionFactory.IgnoresAction` — whatever action an instrument carries, the factory makes the
  same of it

## Main results

* `Template.ignoresAction_factory` — template descriptions do not depend on the action
* `Engine.exists_resolveClientAction_carrying` — all that a carried action changes in a resolution
* `resolution_is_repeatable` — a resolution that is asked for again is answered alike
-/

namespace PaymentRules

namespace PaymentInstrument

/-- The instrument with another client action, or with none. -/
def carrying (instrument : PaymentInstrument) (action : Option ClientAction) : PaymentInstrument :=
  { instrument with clientAction := action }

variable (instrument : PaymentInstrument) (action other : Option ClientAction)

@[simp] theorem carrying_clientAction : instrument.carrying instrument.clientAction = instrument :=
  rfl

@[simp] theorem carrying_carrying :
    (instrument.carrying action).carrying other = instrument.carrying other := rfl

@[simp] theorem redirectUrl_carrying :
    (instrument.carrying action).redirectUrl = instrument.redirectUrl := rfl

end PaymentInstrument

/-! ## Descriptions -/

/-- The input with another client action on the instrument, if there is one. -/
def DescriptionInput.carrying (input : DescriptionInput) (action : Option ClientAction) :
    DescriptionInput :=
  { input with instrument := input.instrument.map (·.carrying action) }

/-- The factory makes the same of an instrument whatever client action it carries. -/
structure DescriptionFactory.IgnoresAction (factory : DescriptionFactory) : Prop where
  describe (kind : DescriptionKind) (input : DescriptionInput) (action : Option ClientAction) :
    factory.describe kind (input.carrying action) = factory.describe kind input
  digitize (input : DigitizationInput) (action : Option ClientAction) :
    factory.digitize { input with instrument := input.instrument.carrying action } =
      factory.digitize input

namespace Template

/-- A description names the identifier and the payment method of an instrument and no more of it. -/
theorem identity_carrying (kind : DescriptionKind) (input : DescriptionInput)
    (action : Option ClientAction) :
    identity kind (input.carrying action) = identity kind input := by
  obtain ⟨instrument⟩ := input
  cases instrument <;> rfl

theorem ignoresAction_factory : factory.IgnoresAction where
  describe kind input action := by
    change describe kind (input.carrying action) = describe kind input
    rw [describe, identity_carrying]
    rfl
  digitize input action := rfl

end Template

/-! ## Building -/

namespace ClientRules.Filter

variable {factory : DescriptionFactory} (ignores : factory.IgnoresAction) (filter : Filter)
  (request : ClientActionRequest) (instrument : PaymentInstrument) (action : Option ClientAction)

theorem input_carrying :
    filter.input request (instrument.carrying action) =
      (filter.input request instrument).carrying action := rfl

include ignores

theorem redirectDescriptions_carrying (isStatic : Bool) (address : String) :
    filter.redirectDescriptions request (instrument.carrying action) factory isStatic address =
      filter.redirectDescriptions request instrument factory isStatic address := by
  cases isStatic with
  | false => exact ignores.describe .redirect (filter.input request instrument) action
  | true =>
    -- The link for the way back is made of the same properties.
    exact ignores.describe .staticRedirect
      { filter.input request instrument with
        redirectLink := some (serviceLink instrument address) } action

/-- The action that a filter builds does not depend on one that the instrument carries. -/
theorem build_carrying (settings : Settings) :
    filter.build request (instrument.carrying action) settings factory =
      filter.build request instrument settings factory := by
  -- An action comes from the descriptions, from the address or from the digitization.
  cases asked : filter.action with
  | pidl challenge => simp only [build, asked, input_carrying, ignores.describe]
  | redirect target isStatic clearsMembers =>
    simp only [build, asked, PaymentInstrument.redirectUrl_carrying]
    apply Option.map_congr
    intro address _
    simp only [redirect, redirectDescriptions_carrying ignores]
    rfl
  | digitization =>
    simp only [build, asked]
    exact ignores.digitize ⟨instrument, request.accountId, request.language, request.partner,
      request.pidlBaseUrl⟩ action

/-- The built action is attached over one that is carried, which stays when there is none. -/
theorem attach_carrying (settings : Settings) :
    filter.attach request (instrument.carrying action) settings factory =
      ((filter.attach request instrument settings factory).1,
        instrument.carrying ((filter.build request instrument settings factory).or action)) := by
  rw [attach, attach, build_carrying ignores]
  cases filter.build request instrument settings factory <;> rfl

omit ignores in
theorem isSome_build_of_attached (settings : Settings)
    (attached : (filter.attach request instrument settings factory).1 = .attached) :
    (filter.build request instrument settings factory).isSome := by
  rw [attach] at attached
  cases built : filter.build request instrument settings factory with
  | none => simp [built] at attached
  | some action => rfl

end ClientRules.Filter

/-! ## Resolving -/

open ClientRules

section

variable (engine : Engine) {factory : DescriptionFactory} (ignores : factory.IgnoresAction)
  (request : ClientActionRequest) (instrument : PaymentInstrument)

include ignores

/-- The answer and the action that is attached are settled without the one that an instrument
carries, which shows in the end only where none is attached. -/
theorem Engine.exists_resolveClientAction_carrying :
    ∃ answer, ∃ attached : Option ClientAction,
      (∀ carried, engine.resolveClientAction factory request (instrument.carrying carried) =
        (answer, instrument.carrying (attached.or carried))) ∧
      ∀ outcome, answer = .ok outcome → outcome.dispatch = .attached → attached.isSome := by
  have same_query (carried : Option ClientAction) :
      clientQuery request (instrument.carrying carried) = clientQuery request instrument := rfl
  cases found : engine.clientActions.snapshot.rules.resolve (clientQuery request instrument) with
  | error failure =>
    refine ⟨.error failure, none, fun carried => ?_, nofun⟩
    rw [resolveClientAction, same_query, found]
    rfl
  | ok selection =>
    let dispatch := (selection.filter.attach request instrument engine.settings factory).1
    refine ⟨.ok ⟨selection.group.name, selection.filter.line, selection.survivors, dispatch⟩,
      selection.filter.build request instrument engine.settings factory, fun carried => ?_, ?_⟩
    · rw [resolveClientAction_of_selected engine factory ((same_query carried).symm ▸ found),
        Filter.attach_carrying ignores]
    · rintro outcome ⟨⟩ attached
      exact Filter.isSome_build_of_attached selection.filter request instrument engine.settings
        attached

end

/-- A resolution with the template descriptions that is asked for again, of the instrument as the
first answer left it, is answered alike and leaves the instrument alone. And what an instrument
carries has no influence: two that are the same but for their client actions are answered alike, and
are the same once an action has been attached. -/
theorem resolution_is_repeatable (engine : Engine) (request : ClientActionRequest)
    (instrument : PaymentInstrument) :
    (∀ answer after,
      engine.resolveClientAction Template.factory request instrument = (answer, after) →
        engine.resolveClientAction Template.factory request after = (answer, after)) ∧
    ∀ other : PaymentInstrument, other.carrying none = instrument.carrying none →
      (engine.resolveClientAction Template.factory request other).1 =
        (engine.resolveClientAction Template.factory request instrument).1 ∧
      ∀ outcome, (engine.resolveClientAction Template.factory request instrument).1 = .ok outcome →
        outcome.dispatch = .attached →
        (engine.resolveClientAction Template.factory request other).2 =
          (engine.resolveClientAction Template.factory request instrument).2 := by
  obtain ⟨answer, attached, resolved, is_some⟩ :=
    engine.exists_resolveClientAction_carrying Template.ignoresAction_factory request instrument
  have first := resolved instrument.clientAction
  rw [PaymentInstrument.carrying_clientAction] at first
  rw [first]
  constructor
  · rintro _ _ ⟨⟩
    -- What has been attached is attached once more.
    rw [resolved, ← Option.or_assoc, Option.or_self]
  · intro other same
    -- The other instrument is this one with its own action in place of the one that is carried.
    have carries : other = instrument.carrying other.clientAction := by
      rw [← other.carrying_clientAction, ← other.carrying_carrying none, same]
      rfl
    rw [carries, resolved]
    refine ⟨rfl, fun outcome answered dispatched => ?_⟩
    obtain ⟨action, rfl⟩ := Option.isSome_iff_exists.mp (is_some outcome answered dispatched)
    rfl

/-- A redirect takes the place of the descriptions that a card carries, is attached once more when
it is asked for again, and is the one that a card without an action gets. -/
theorem resolution_is_repeatable_of_redirectRules :
    let engine := Engine.ofRules .default redirectRules ⟨[]⟩
    let request := addRequest "cart"
    let card := redirectedCard "https://bank.example"
    ∃ outcome after,
      engine.resolveClientAction Template.factory request card = (.ok outcome, after) ∧
      outcome.dispatch = .attached ∧ after ≠ card ∧
      engine.resolveClientAction Template.factory request after = (.ok outcome, after) ∧
      engine.resolveClientAction Template.factory request (card.carrying none) =
        (.ok outcome, after) := by
  intro engine request card
  obtain ⟨again, alike⟩ := resolution_is_repeatable engine request card
  obtain ⟨same_answer, same_after⟩ := alike (card.carrying none) rfl
  obtain ⟨outcome, after, answered⟩ : ∃ outcome after,
      engine.resolveClientAction Template.factory (addRequest "cart")
        (redirectedCard "https://bank.example") = (.ok outcome, after) :=
    ⟨_, _, rfl⟩
  have attached : outcome.dispatch = .attached := by
    rw [← Except.ok.inj (congrArg Prod.fst answered)]
  have redirects : (engine.resolveClientAction Template.factory (addRequest "cart")
      (redirectedCard "https://bank.example")).2.clientAction.map (·.kind) = some .redirect := rfl
  rw [answered] at same_answer same_after redirects
  refine ⟨outcome, after, answered, attached, ?_, again _ _ answered,
    Prod.ext same_answer (same_after outcome rfl attached)⟩
  rintro rfl
  cases redirects

end PaymentRules
