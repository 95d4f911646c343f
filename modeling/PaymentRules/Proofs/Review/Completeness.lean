import Mathlib.Data.Fin.VecNotation
import Mathlib.Data.List.Forall2
import PaymentRules.Proofs.ClientRules.Cleanup
import PaymentRules.Proofs.Dimension.Covering

/-!
# The review tells of every item that one earlier item replaces

An item is reported when some earlier item of its own list accepts every query that it accepts, and
only then. The review compares dimensions and not queries, but a difference in one dimension always
shows in some query, since the other dimensions accept something. An item is not reported when it
takes several earlier ones together to accept what it accepts.

## Main definitions

* `ItemPlace` — the position of a group or a section, or of an item in it
* `replacedPlaces` — the places of the items that an earlier one replaces

## Main results

* `review_exact` — the findings stand for these places, one for each
-/

namespace PaymentRules

/-- Where an item of some rules stands: at the top level, or in the item at that position there. -/
inductive ItemPlace where
  | item (index : Nat)
  | member (index position : Nat)
  deriving DecidableEq, Repr

section

variable {α β : Type}

/-- What is said of an item and of those in front of it holds of the item at a place, be it at the
top level or within another item. -/
def ItemPlace.Holds (items : List α) (within : α → List β) (ofItem : List α → α → Prop)
    (ofMember : List β → β → Prop) : ItemPlace → Prop
  | .item index => ∃ item, items[index]? = some item ∧ ofItem (items.take index) item
  | .member index position => ∃ item, items[index]? = some item ∧
    ∃ member, (within item)[position]? = some member ∧
      ofMember ((within item).take position) member

/-! ## The places of replaced items -/

variable (replaces : α → α → Bool) (within : α → List β) (replacesIn : β → β → Bool)

/-- The places of the items within an item that an earlier one there replaces. -/
def replacedMembers (index : Nat) (members : List β) : List ItemPlace :=
  members.zipIdx.filterMap fun entry =>
    ((members.take entry.2).find? fun earlier => replacesIn earlier entry.1).map
      fun _ => .member index entry.2

/-- The places of the items that an earlier one of their own list replaces, in the order in which
the review comes across them. -/
def replacedPlaces (items : List α) : List ItemPlace :=
  items.zipIdx.flatMap fun entry =>
    (((items.take entry.2).find? fun earlier => replaces earlier entry.1).map
      fun _ => ItemPlace.item entry.2).toList ++ replacedMembers replacesIn entry.2 (within entry.1)

theorem exists_map_find?_iff {items : List α} {p : α → Bool} {place other : ItemPlace} :
    ((items.find? p).map fun _ => other) = some place ↔
      (∃ earlier ∈ items, p earlier = true) ∧ other = place := by
  rw [Option.map_eq_some_iff, exists_and_right, ← Option.isSome_iff_exists, List.find?_isSome]

theorem mem_replacedMembers {index : Nat} {members : List β} {place : ItemPlace} :
    place ∈ replacedMembers replacesIn index members ↔
      ∃ position, place = .member index position ∧ ∃ member, members[position]? = some member ∧
        ∃ earlier ∈ members.take position, replacesIn earlier member = true := by
  simp only [replacedMembers, List.mem_filterMap, exists_map_find?_iff, Prod.exists,
    List.mk_mem_zipIdx_iff_getElem?]
  constructor
  · rintro ⟨member, position, found, replaced, rfl⟩
    exact ⟨position, rfl, member, found, replaced⟩
  · rintro ⟨position, rfl, member, found, replaced⟩
    exact ⟨member, position, found, replaced, rfl⟩

/-- A place is listed when an earlier item of its list replaces the item there. -/
theorem mem_replacedPlaces {items : List α} {place : ItemPlace} :
    place ∈ replacedPlaces replaces within replacesIn items ↔
      place.Holds items within
        (fun before item => ∃ earlier ∈ before, replaces earlier item = true)
        (fun before member => ∃ earlier ∈ before, replacesIn earlier member = true) := by
  simp only [replacedPlaces, List.mem_flatMap, List.mem_append, Option.mem_toList,
    exists_map_find?_iff, mem_replacedMembers, Prod.exists, List.mk_mem_zipIdx_iff_getElem?]
  constructor
  · rintro ⟨item, index, found, ⟨replaced, rfl⟩ | ⟨position, rfl, member⟩⟩
    · exact ⟨item, found, replaced⟩
    · exact ⟨item, found, member⟩
  · cases place with
    | item index =>
      rintro ⟨item, found, replaced⟩
      exact ⟨item, index, found, .inl ⟨replaced, rfl⟩⟩
    | member index position =>
      rintro ⟨item, found, member⟩
      exact ⟨item, index, found, .inr ⟨position, rfl, member⟩⟩

theorem pairwise_snd_zipIdx (items : List α) :
    items.zipIdx.Pairwise fun one other => one.2 ≠ other.2 := by
  rw [← List.pairwise_map, List.zipIdx_map_snd]
  exact List.nodup_range'

theorem nodup_replacedMembers (index : Nat) (members : List β) :
    (replacedMembers replacesIn index members).Nodup := by
  refine (pairwise_snd_zipIdx members).filterMap _ fun one other apart => ?_
  rintro place at_one place' at_other rfl
  obtain ⟨-, rfl⟩ := exists_map_find?_iff.mp at_one
  obtain ⟨-, same⟩ := exists_map_find?_iff.mp at_other
  exact apart (ItemPlace.member.inj same).2.symm

/-- No place is listed twice. -/
theorem nodup_replacedPlaces (items : List α) :
    (replacedPlaces replaces within replacesIn items).Nodup := by
  refine List.nodup_flatMap.mpr ⟨fun entry _ => List.nodup_append.mpr ⟨?_, ?_, ?_⟩, ?_⟩
  · cases (items.take entry.2).find? fun earlier => replaces earlier entry.1 <;> simp
  · exact nodup_replacedMembers replacesIn entry.2 (within entry.1)
  · rintro place at_item _ at_member rfl
    obtain ⟨-, rfl⟩ := exists_map_find?_iff.mp (Option.mem_toList.mp at_item)
    obtain ⟨position, same, -⟩ := (mem_replacedMembers replacesIn).mp at_member
    cases same
  · -- Places that come from different entries differ in their first position.
    refine (pairwise_snd_zipIdx items).imp fun {one other} apart => ?_
    refine List.disjoint_left.mpr fun {place} at_one at_other => ?_
    simp only [List.mem_append, Option.mem_toList, exists_map_find?_iff, mem_replacedMembers]
      at at_one at_other
    obtain ⟨-, rfl⟩ | ⟨position, rfl, -⟩ := at_one
    · obtain ⟨-, same⟩ | ⟨position, same, -⟩ := at_other
      · exact apart (ItemPlace.item.inj same).symm
      · cases same
    · obtain ⟨-, same⟩ | ⟨position, same, -⟩ := at_other
      · cases same
      · exact apart (ItemPlace.member.inj same).1

/-! ## One finding for each place -/

theorem withEarlierFrom_eq_map (start items : List α) :
    withEarlierFrom replaces start items = items.zipIdx.map fun entry =>
      (entry.1, (start ++ items.take entry.2).find? fun earlier => replaces earlier entry.1) := by
  induction items generalizing start with
  | nil => rfl
  | cons item items ih =>
    rw [withEarlierFrom, ih, List.zipIdx_cons', List.map_cons, List.map_map]
    simp

/-- Each item is listed with the first of those in front of it that replaces it. -/
theorem withEarlier_eq_map (items : List α) :
    withEarlier replaces items = items.zipIdx.map fun entry =>
      (entry.1, (items.take entry.2).find? fun earlier => replaces earlier entry.1) :=
  withEarlierFrom_eq_map replaces [] items

/-- The places and the findings within an item stand for one another. -/
theorem forall₂_replacedMembers {index : Nat} {members : List β} {tell : β → β → Finding}
    {about : ItemPlace → Finding → Prop}
    (told : ∀ position member earlier, members[position]? = some member →
      about (.member index position) (tell member earlier)) :
    List.Forall₂ about (replacedMembers replacesIn index members)
      ((withEarlier replacesIn members).filterMap fun entry => entry.2.map (tell entry.1)) := by
  have same : List.Forall₂ (fun one other => one = other ∧ one ∈ members.zipIdx)
      members.zipIdx members.zipIdx := List.forall₂_same.mpr fun _ listed => ⟨rfl, listed⟩
  rw [withEarlier_eq_map, List.filterMap_map]
  refine List.rel_filterMap ?_ same
  rintro ⟨member, position⟩ _ ⟨rfl, listed⟩
  dsimp only [Function.comp_apply]
  cases (members.take position).find? fun earlier => replacesIn earlier member with
  | none => exact .none
  | some earlier =>
    exact .some (told position member earlier (List.mk_mem_zipIdx_iff_getElem?.mp listed))

/-- The places and the findings of a review stand for one another. -/
theorem forall₂_replacedPlaces {items : List α} {tell : α → α → Finding}
    {tellIn : α → β → β → Finding} {ofItem : α → Finding → Prop} {ofMember : β → Finding → Prop}
    (told : ∀ item earlier, ofItem item (tell item earlier))
    (toldIn : ∀ item member earlier, ofMember member (tellIn item member earlier)) :
    List.Forall₂ (fun place finding => place.Holds items within (fun _ item => ofItem item finding)
        fun _ member => ofMember member finding)
      (replacedPlaces replaces within replacesIn items)
      ((withEarlier replaces items).flatMap fun entry =>
        (entry.2.map (tell entry.1)).toList ++
          (withEarlier replacesIn (within entry.1)).filterMap fun member =>
            member.2.map (tellIn entry.1 member.1)) := by
  have same : List.Forall₂ (fun one other => one = other ∧ one ∈ items.zipIdx)
      items.zipIdx items.zipIdx := List.forall₂_same.mpr fun _ listed => ⟨rfl, listed⟩
  rw [withEarlier_eq_map replaces, List.flatMap_map]
  refine List.rel_flatMap same ?_
  rintro ⟨item, index⟩ _ ⟨rfl, listed⟩
  have found := List.mk_mem_zipIdx_iff_getElem?.mp listed
  refine List.rel_append ?_
    (forall₂_replacedMembers replacesIn fun position member earlier at_place =>
      ⟨item, found, member, at_place, toldIn item member earlier⟩)
  cases (items.take index).find? fun earlier => replaces earlier item with
  | none => exact .nil
  | some earlier => exact .cons ⟨item, found, told item earlier⟩ .nil

end

/-! ## Items that accept more -/

namespace ClientRules

/-- A filter covers another one exactly when it accepts whatever that one accepts. -/
theorem Filter.covers_iff {filter other : Filter} :
    filter.covers other = true ↔
      ∀ query, other.accepts query = true → filter.accepts query = true := by
  have side_by_side := Dimension.covers_all_iff
    ![filter.pendingOn, filter.requestType, filter.partner]
    ![other.pendingOn, other.requestType, other.partner]
  simp only [Filter.covers, Filter.accepts, Bool.and_eq_true, and_assoc]
  constructor
  · rintro ⟨pendingOn, requestType, partner⟩ query ⟨pending, requested, named⟩
    exact ⟨Dimension.accepts_of_covers pendingOn pending,
      Dimension.accepts_of_covers requestType requested, Dimension.accepts_of_covers partner named⟩
  · intro included
    have tried := fun values : Fin 3 → String => included
      ⟨"", none, none, some (values 0), some (values 1), some (values 2)⟩
    simpa [Fin.forall_fin_succ] using side_by_side.mpr (by simpa [Fin.forall_fin_succ] using tried)

/-- Payment methods cover others exactly when they include each of them. -/
theorem Methods.covers_iff {methods other : Methods} :
    methods.covers other = true ↔
      ∀ query, other.accepts query = true → methods.accepts query = true := by
  have side_by_side := Dimension.covers_all_iff
    ![methods.family, methods.type, methods.country] ![other.family, other.type, other.country]
  constructor
  · exact fun covered query => Methods.accepts_of_covers covered
  · intro included
    have tried := fun values : Fin 3 → String => included
      ⟨values 0, some (values 1), some (values 2), none, none, none⟩
    simp only [Methods.covers, Methods.accepts, Bool.and_eq_true, and_assoc] at tried ⊢
    simpa [Fin.forall_fin_succ] using side_by_side.mpr (by simpa [Fin.forall_fin_succ] using tried)

end ClientRules

/-- A block covers another one exactly when it is for whatever that one is for. -/
theorem ErrorRules.Block.covers_iff {block other : ErrorRules.Block} :
    block.covers other = true ↔
      ∀ query, other.accepts query = true → block.accepts query = true := by
  have side_by_side := Dimension.covers_all_iff
    ![block.family, block.types, block.countries, block.partners]
    ![other.family, other.types, other.countries, other.partners]
  simp only [Block.covers, Block.accepts, Bool.and_eq_true, and_assoc]
  constructor
  · rintro ⟨family, types, countries, partners⟩ query ⟨of_family, of_type, in_country, named⟩
    exact ⟨Dimension.accepts_of_covers family of_family,
      Dimension.accepts_of_covers types of_type, Dimension.accepts_of_covers countries in_country,
      Dimension.accepts_of_covers partners named⟩
  · intro included
    have tried := fun values : Fin 4 → String => included
      ⟨values 0, values 1, some (values 2), some (values 3), ""⟩
    simpa [Fin.forall_fin_succ] using side_by_side.mpr (by simpa [Fin.forall_fin_succ] using tried)

/-- The findings of a review stand one for one for the items that a single earlier item of the same
list replaces, by accepting every query that they accept or, among sections, by being for the same
action. Each finding has the line of its item, and no other item is reported. -/
theorem review_exact :
    (∀ rules : ClientRules, ∃ places : List ItemPlace, places.Nodup ∧
      (∀ place, place ∈ places ↔ place.Holds rules.groups (·.filters)
        (fun before group => ∃ earlier ∈ before, ∀ query,
          group.methods.accepts query = true → earlier.methods.accepts query = true)
        (fun before filter => ∃ earlier ∈ before, ∀ query,
          filter.accepts query = true → earlier.accepts query = true)) ∧
      List.Forall₂ (fun place finding => place.Holds rules.groups (·.filters)
        (fun _ group => finding.kind = .shadowedRule ∧ finding.line = group.line)
        (fun _ filter => finding.kind = .shadowedFilter ∧ finding.line = filter.line))
        places rules.review) ∧
    (∀ rules : ErrorRules, ∃ places : List ItemPlace, places.Nodup ∧
      (∀ place, place ∈ places ↔ place.Holds rules.sections (·.blocks)
        (fun before part => ∃ earlier ∈ before, earlier.action = part.action)
        (fun before block => ∃ earlier ∈ before, ∀ query,
          block.accepts query = true → earlier.accepts query = true)) ∧
      List.Forall₂ (fun place finding => place.Holds rules.sections (·.blocks)
        (fun _ part => finding.kind = .duplicateRequestType ∧ finding.line = part.line)
        (fun _ block => finding.kind = .shadowedRule ∧ finding.line = block.line))
        places rules.review) := by
  constructor
  · intro rules
    refine ⟨replacedPlaces (fun one other => one.methods.covers other.methods) (·.filters)
      ClientRules.Filter.covers rules.groups, nodup_replacedPlaces .., fun place => ?_, ?_⟩
    · simp only [mem_replacedPlaces, ClientRules.Methods.covers_iff,
        ClientRules.Filter.covers_iff]
    · exact forall₂_replacedPlaces _ _ _ (fun _ _ => ⟨rfl, rfl⟩) fun _ _ _ => ⟨rfl, rfl⟩
  · intro rules
    refine ⟨replacedPlaces (fun one other => one.action == other.action) (·.blocks)
      ErrorRules.Block.covers rules.sections, nodup_replacedPlaces .., fun place => ?_, ?_⟩
    · simp only [mem_replacedPlaces, beq_iff_eq, ErrorRules.Block.covers_iff]
    · exact forall₂_replacedPlaces _ _ _ (fun _ _ => ⟨rfl, rfl⟩) fun _ _ _ => ⟨rfl, rfl⟩

end PaymentRules
