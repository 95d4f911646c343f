import PaymentRules.Collaborators.Template
import PaymentRules.Proofs.ClientRules.Attachment

/-!
# Redirects and what goes with them

A redirect goes to the address of the instrument, and most partners show a page along with it. An
inline partner shows the redirect within a page of its own and gets no other one, unless the filter
asks for the frame of the page and the partner is one of those that keep it: the frame has the
resources and the pages of the page, but no members on the first page of the first resource.

The two lists of partners are independent of each other. The settings name the inline partners, and
need not name those that keep a frame; where they do not, such a partner gets the whole page.

## Main definitions

* `IsAmong` — a partner is in a list in any case
* `IsFrame` — descriptions are others without the members of the first page

## Main results

* `isFrame_iff` — what is kept is the frame, and there is only one
* `redirect_is_dispatched` — what is attached for a redirect, to whom and with which descriptions
-/

namespace PaymentRules

/-- The partner is in the list, in any case of the letters A to Z. -/
def IsAmong (partners : List String) (partner : String) : Prop :=
  ∃ member ∈ partners, Text.fold member = Text.fold partner

theorem isPartnerIn_iff {partners : List String} {partner : String} :
    isPartnerIn partners partner = true ↔ IsAmong partners partner := by
  simp only [isPartnerIn, List.any_eq_true, Text.sameLetters_iff, IsAmong]

instance (partners : List String) (partner : String) : Decidable (IsAmong partners partner) :=
  decidable_of_iff _ isPartnerIn_iff

theorem Settings.isInlinePartner_iff {settings : Settings} {partner : String} :
    settings.isInlinePartner partner = true ↔ IsAmong settings.inlinePartners partner :=
  isPartnerIn_iff

/-! ## The frame of a page -/

/-- The page at a position of the description at a position, if there is one. -/
def pageAt? (descriptions : List Description) (i j : Nat) : Option Page :=
  descriptions[i]?.bind (·.pages[j]?)

@[simp] theorem pageAt?_cons_zero (first : Description) (later : List Description) (j : Nat) :
    pageAt? (first :: later) 0 j = first.pages[j]? := rfl

@[simp] theorem pageAt?_cons_succ (first : Description) (later : List Description) (i j : Nat) :
    pageAt? (first :: later) (i + 1) j = pageAt? later i j := rfl

/-- What is kept are the descriptions that are shown, one by one and page by page, except that the
first page of the first one has no members. -/
structure IsFrame (shown kept : List Description) : Prop where
  identities : kept.map (·.identity) = shown.map (·.identity)
  first : pageAt? kept 0 0 = (pageAt? shown 0 0).map fun page => { page with members := [] }
  others : ∀ i j, (i, j) ≠ (0, 0) → pageAt? kept i j = pageAt? shown i j

/-- Descriptions are known by what identifies them and by their pages. -/
theorem eq_of_pageAt? {one other : List Description}
    (identities : one.map (·.identity) = other.map (·.identity))
    (pages : ∀ i j, pageAt? one i j = pageAt? other i j) : one = other := by
  induction one generalizing other with
  | nil => exact (List.map_eq_nil_iff.mp identities.symm).symm
  | cons first later ih =>
    cases other with
    | nil => exact absurd identities (List.cons_ne_nil _ _)
    | cons first' later' =>
      obtain ⟨identity, rest⟩ := List.cons.inj identities
      have first_pages : first.pages = first'.pages :=
        List.ext_getElem? fun j => by simpa using pages 0 j
      have later_pages : ∀ i j, pageAt? later i j = pageAt? later' i j :=
        fun i j => by simpa using pages (i + 1) j
      have first_eq : first = first' := by
        cases first
        cases first'
        exact congr (congrArg Description.mk identity) first_pages
      rw [first_eq, ih rest later_pages]

theorem ClientRules.isFrame_withoutFirstMembers (shown : List Description) :
    IsFrame shown (withoutFirstMembers shown) := by
  -- Nothing is taken away where there is no description, or where the first one has no page.
  match shown with
  | [] => exact ⟨rfl, rfl, fun _ _ _ => rfl⟩
  | ⟨identity, []⟩ :: later => exact ⟨rfl, rfl, fun _ _ _ => rfl⟩
  | ⟨identity, page :: pages⟩ :: later =>
    refine ⟨rfl, rfl, fun i j elsewhere => ?_⟩
    cases i with
    | succ i => rfl
    | zero =>
      cases j with
      | succ j => rfl
      | zero => exact absurd rfl elsewhere

/-- The frame of descriptions is what is left of them without their first members. -/
theorem isFrame_iff {shown kept : List Description} :
    IsFrame shown kept ↔ kept = ClientRules.withoutFirstMembers shown := by
  have frame := ClientRules.isFrame_withoutFirstMembers shown
  refine ⟨fun kept_frame => ?_, fun kept_eq => kept_eq ▸ frame⟩
  -- At the first page both are that page without its members, and elsewhere nothing has changed.
  refine eq_of_pageAt? (kept_frame.identities.trans frame.identities.symm) fun i j => ?_
  by_cases at_first : (i, j) = (0, 0)
  · obtain ⟨rfl, rfl⟩ := Prod.mk.inj at_first
    rw [kept_frame.first, frame.first]
  · rw [kept_frame.others i j at_first, frame.others i j at_first]

/-! ## The redirect of a filter -/

namespace ClientRules

section

variable {filter : Filter} {target : RedirectTarget} {isStatic clearsMembers : Bool}
  {request : ClientActionRequest} {instrument : PaymentInstrument} {address : String}
  {settings : Settings} {factory : DescriptionFactory}

/-- A filter that redirects has an action where there is an address. -/
theorem Filter.build_of_redirect
    (redirects : filter.action = .redirect target isStatic clearsMembers)
    (given : instrument.details.redirectUrl = some address) (nonempty : address ≠ "") :
    filter.build request instrument settings factory =
      some (filter.redirect request instrument settings factory target isStatic clearsMembers
        address) := by
  have redirected : instrument.redirectUrl = some address :=
    PaymentInstrument.redirectUrl_eq_some_iff.mpr ⟨given, nonempty⟩
  simp only [Filter.build, redirects, redirected, Option.map_some]

/-- Partners that are not inline get the whole page. -/
theorem Filter.redirectPidl_of_not_isAmong
    (elsewhere : ¬ IsAmong settings.inlinePartners request.partner) :
    (filter.redirect request instrument settings factory target isStatic clearsMembers
      address).redirectPidl =
        some (filter.redirectDescriptions request instrument factory isStatic address) := by
  have outside : settings.isInlinePartner request.partner = false :=
    Bool.eq_false_iff.mpr (mt Settings.isInlinePartner_iff.mp elsewhere)
  simp [Filter.redirect, outside]

/-- Inline partners get the frame of the page or nothing. -/
theorem Filter.redirectPidl_eq_some_iff_of_isAmong
    (inline : IsAmong settings.inlinePartners request.partner) {kept : List Description} :
    (filter.redirect request instrument settings factory target isStatic clearsMembers
      address).redirectPidl = some kept ↔
        (clearsMembers = true ∧ IsAmong memberClearingPartners request.partner) ∧
        IsFrame (filter.redirectDescriptions request instrument factory isStatic address) kept := by
  have within := Settings.isInlinePartner_iff.mpr inline
  simp only [Filter.redirect, within, Bool.not_true, Bool.false_eq_true, if_false,
    Option.ite_none_right_eq_some, Bool.and_eq_true, isPartnerIn_iff, Option.some.injEq,
    isFrame_iff, eq_comm (a := kept)]

theorem Filter.isSome_redirectPidl_iff_of_isAmong
    (inline : IsAmong settings.inlinePartners request.partner) :
    (filter.redirect request instrument settings factory target isStatic clearsMembers
      address).redirectPidl.isSome = true ↔
        clearsMembers = true ∧ IsAmong memberClearingPartners request.partner := by
  simp only [Option.isSome_iff_exists, redirectPidl_eq_some_iff_of_isAmong inline]
  constructor
  · rintro ⟨_, clears, -⟩
    exact clears
  · intro clears
    exact ⟨_, clears, isFrame_withoutFirstMembers _⟩

end

/-- A filter that redirects attaches a redirect to every instrument that has an address to go to.
The context is the address, or the link by which the client comes back from it, as the filter asks.
The descriptions are made with the link when the redirect is static and without one otherwise.
Whether they go with the redirect depends on the partner: they do unless the partner is inline, and
an inline partner gets their frame, exactly when the filter clears members and the partner is one of
those that members are cleared for. -/
theorem redirect_is_dispatched {filter : Filter} {target : RedirectTarget}
    {isStatic clearsMembers : Bool}
    (redirects : filter.action = .redirect target isStatic clearsMembers)
    (request : ClientActionRequest) {instrument : PaymentInstrument} {address : String}
    (given : instrument.details.redirectUrl = some address) (nonempty : address ≠ "")
    (settings : Settings) (factory : DescriptionFactory) :
    let input := filter.input request instrument
    let link := serviceLink instrument address
    let shown :=
      if isStatic then factory.describe .staticRedirect { input with redirectLink := some link }
      else factory.describe .redirect { input with redirectLink := none }
    ∃ action : ClientAction,
      filter.attach request instrument settings factory =
        (.attached, { instrument with clientAction := some action }) ∧
      action.kind = .redirect ∧
      (target = .url → action.context = some (.url address)) ∧
      (target = .serviceLink → action.context = some (.link link)) ∧
      (¬ IsAmong settings.inlinePartners request.partner → action.redirectPidl = some shown) ∧
      (IsAmong settings.inlinePartners request.partner →
        (action.redirectPidl.isSome = true ↔
          clearsMembers = true ∧ IsAmong memberClearingPartners request.partner) ∧
        ∀ kept, action.redirectPidl = some kept → IsFrame shown kept) := by
  intro input link shown
  have shown_eq : filter.redirectDescriptions request instrument factory isStatic address = shown :=
    rfl
  refine ⟨filter.redirect request instrument settings factory target isStatic clearsMembers
    address, ?_, rfl, fun at_address => ?_, fun at_link => ?_, fun elsewhere => ?_,
    fun inline => ⟨Filter.isSome_redirectPidl_iff_of_isAmong inline, fun kept is_kept => ?_⟩⟩
  · rw [Filter.attach, Filter.build_of_redirect redirects given nonempty]
  · rw [at_address, Filter.redirect]
  · rw [at_link, Filter.redirect]
  · rw [← shown_eq]
    exact Filter.redirectPidl_of_not_isAmong elsewhere
  · rw [← shown_eq]
    exact ((Filter.redirectPidl_eq_some_iff_of_isAmong inline).mp is_kept).2

/-- A static redirect that is reached by a link and clears members. -/
def framingFilter : Filter :=
  ⟨3, .any, .any, .any, .redirect .serviceLink true true, none⟩

/-- The settings name two inline partners, and only one of those may keep a frame. -/
def shopSettings : Settings :=
  { Settings.default with inlinePartners := ["WebPay", "shop"] }

/-- All three partners get the link by which the client comes back from the bank. Of two inline
partners, one gets the frame of the page and the other gets nothing. A partner for whom members are
cleared elsewhere gets the whole page where it is not inline, with the link on it. -/
theorem redirect_is_dispatched_of_shopSettings :
    let card := redirectedCard "https://bank.example"
    let attach (partner : String) :=
      framingFilter.attach (.of .zero "us" partner) card shopSettings Template.factory
    ∃ link : ServiceLink, link.baseUrl = "https://bank.example" ∧
      link.parameters.pairs = [("family", "credit_card"), ("id", "1"), ("pendingOn", "redirect"),
        ("picvRequired", "true"), ("type", "visa")] ∧
      (∃ action kept, attach "WEBPAY" = (.attached, { card with clientAction := some action }) ∧
        action.context = some (.link link) ∧ action.redirectPidl = some kept ∧
        pageAt? kept 0 0 = some ⟨"staticRedirectPage", []⟩) ∧
      (∃ action, attach "Shop" = (.attached, { card with clientAction := some action }) ∧
        action.context = some (.link link) ∧ action.redirectPidl = none) ∧
      ∃ action shown, attach "oxowebdirect" =
          (.attached, { card with clientAction := some action }) ∧
        action.context = some (.link link) ∧ action.redirectPidl = some shown ∧
        ∃ page ∈ pageAt? shown 0 0, Template.linkMember link ∈ page.members := by
  intro card attach
  have redirects : framingFilter.action = .redirect .serviceLink true true := rfl
  have given : card.details.redirectUrl = some "https://bank.example" := rfl
  have dispatched (partner : String) :=
    redirect_is_dispatched redirects (.of .zero "us" partner) given (by decide) shopSettings
      Template.factory
  refine ⟨serviceLink card "https://bank.example", rfl, by decide +kernel, ?_, ?_, ?_⟩
  · obtain ⟨action, attached, -, -, linked, -, inline⟩ := dispatched "WEBPAY"
    obtain ⟨present, frame⟩ := inline (by decide +kernel)
    have clears : IsAmong memberClearingPartners "WEBPAY" := by decide +kernel
    obtain ⟨kept, is_kept⟩ := Option.isSome_iff_exists.mp (present.mpr ⟨rfl, clears⟩)
    exact ⟨action, kept, attached, linked rfl, is_kept, (frame kept is_kept).first⟩
  · obtain ⟨action, attached, -, -, linked, -, inline⟩ := dispatched "Shop"
    obtain ⟨present, -⟩ := inline (by decide +kernel)
    have stays : ¬ IsAmong memberClearingPartners "Shop" := by decide +kernel
    exact ⟨action, attached, linked rfl, Option.not_isSome_iff_eq_none.mp fun there =>
      stays (present.mp there).2⟩
  · obtain ⟨action, attached, -, -, linked, elsewhere, -⟩ := dispatched "oxowebdirect"
    have outside : ¬ IsAmong shopSettings.inlinePartners "oxowebdirect" := by decide +kernel
    refine ⟨action, _, attached, linked rfl, elsewhere outside, _, rfl, ?_⟩
    exact List.mem_cons_of_mem _ List.mem_cons_self

end ClientRules

end PaymentRules
