-- What the relationships of a registry come to. Every entity has its declared relationships in
-- order, then the sides that were added to it, and every side that a relationship names is there.
-- Whether it also leads back is settled by names alone: a declared relationship of that name keeps
-- it, and among those that call for it the first one gets it.
import EntityPipeline.Proofs.Preparation.OtherSides

namespace EntityPipeline

variable {registry : Registry} {link : Link} {place target : Nat} {name : String}

/-! ## Related registries -/

theorem mem_links : link ∈ registry.links ↔ ∃ entity, registry.resolve? link.place = some entity ∧
    link.owner = entity.name ∧ link.relationship ∈ entity.relationships := by
  obtain ⟨place, owner, relationship⟩ := link
  have hplace (entity : Entity) (h : registry.resolve? place = some entity) :
      place ∈ registry.places := by
    obtain ⟨slot, hslot, -⟩ := Option.map_eq_some_iff.1 h
    exact List.mem_range.2 (List.getElem?_eq_some_iff.1 hslot).1
  constructor
  · intro h
    obtain ⟨other, -, hin⟩ := List.mem_flatMap.1 h
    cases hentity : registry.resolve? other with
    | none =>
      rw [hentity] at hin
      cases hin
    | some entity =>
      rw [hentity] at hin
      obtain ⟨_, hr, heq⟩ := List.mem_map.1 hin
      cases heq
      exact ⟨entity, hentity, rfl, hr⟩
  · rintro ⟨entity, hentity, rfl, hr⟩
    refine List.mem_flatMap.2 ⟨place, hplace entity hentity, ?_⟩
    rw [hentity]
    exact List.mem_map_of_mem hr

theorem resolve?_withDeclared (registry : Registry) (place : Nat) :
    registry.withDeclared.resolve? place = (registry.resolve? place).map fun entity =>
      { entity with
        relationships := entity.definition.relationships.map registry.declared } := by
  simp [Registry.resolve?, Registry.withDeclared, Function.comp_def]

/-- The relationships that relating adds to the entity at a place. -/
def Registry.addedSides (registry : Registry) (place : Nat) : List Relationship :=
  addedTo (missingInverses registry.withDeclared) place

/-- What an entity is called, was declared as and relates to. -/
def Entity.outline (entity : Entity) : String × EntityDefinition × List Relationship :=
  (entity.name, entity.definition, entity.relationships)

/-- Every entity keeps its name and its definition and has its declared relationships, then those
that are added. -/
theorem outline_relate (h : (relate registry).2 = .ok ()) (place : Nat) :
    ((relate registry).1.resolve? place).map Entity.outline =
      (registry.resolve? place).map fun entity => (entity.name, entity.definition,
        entity.definition.relationships.map registry.declared ++ registry.addedSides place) := by
  obtain ⟨-, happend, hkeys⟩ := relate_ok h
  have hseen : (relate registry).1.seen (fun slot => slot.entity.outline) =
      (appendAll registry.withDeclared (missingInverses registry.withDeclared)).1.seen
        fun slot => slot.entity.outline := hkeys ▸ seen_deriveKeys fun _ _ => rfl
  have hadded := resolve?_appendAll happend place
  have hmap (ready : Registry) : (ready.resolve? place).map Entity.outline =
      ready.slots[place]?.map fun slot => slot.entity.outline := by
    simp [Registry.resolve?, Function.comp_def]
  rw [hmap, getElem?_of_seen hseen, ← hmap, hadded, resolve?_withDeclared]
  simp [Entity.outline, Function.comp_def, Registry.addedSides]

theorem exists_of_resolve?_relate (h : (relate registry).2 = .ok ()) {entity : Entity}
    (hentity : (relate registry).1.resolve? place = some entity) :
    ∃ former, registry.resolve? place = some former ∧ entity.name = former.name ∧
      entity.definition = former.definition ∧ entity.relationships =
        former.definition.relationships.map registry.declared ++ registry.addedSides place := by
  have houtline := outline_relate h place
  rw [hentity] at houtline
  obtain ⟨former, hformer, heq⟩ := Option.map_eq_some_iff.1 houtline.symm
  exact ⟨former, hformer, by simpa [Entity.outline] using heq.symm⟩

theorem exists_resolve?_relate (h : (relate registry).2 = .ok ()) {former : Entity}
    (hformer : registry.resolve? place = some former) :
    ∃ entity, (relate registry).1.resolve? place = some entity ∧ entity.relationships =
      former.definition.relationships.map registry.declared ++ registry.addedSides place := by
  have houtline := outline_relate h place
  rw [hformer] at houtline
  obtain ⟨entity, hentity, heq⟩ := Option.map_eq_some_iff.1 houtline
  exact ⟨entity, hentity, congrArg (·.2.2) heq⟩

/-- An added side answers the first declared relationship that calls for it, under a name that is
new to its entity. -/
theorem of_mem_addedSides {side : Relationship} (h : side ∈ registry.addedSides place) :
    (∃ link, registry.withDeclared.links.find? (Link.calls place side.name) = some link ∧
      side = link.otherSide side.name) ∧
    ∃ former, registry.resolve? place = some former ∧
      side.name ∉ (former.definition.relationships.map registry.declared).map
        Relationship.name := by
  obtain ⟨addition, hadded, rfl⟩ := List.mem_map.1 h
  obtain ⟨hin, hplace⟩ := List.mem_filter.1 hadded
  obtain rfl := beq_iff_eq.1 hplace
  have hserved := served_missingInverses registry.withDeclared
  obtain ⟨entity, hentity, hnew⟩ := hserved.new addition hin
  rw [resolve?_withDeclared] at hentity
  obtain ⟨former, hformer, rfl⟩ := Option.map_eq_some_iff.1 hentity
  exact ⟨hserved.first addition hin, former, hformer, hnew⟩

theorem nodup_addedSides (registry : Registry) (place : Nat) :
    ((registry.addedSides place).map Relationship.name).Nodup := by
  have hdistinct := (served_missingInverses registry.withDeclared).distinct
  unfold Registry.addedSides addedTo
  rw [List.Nodup, List.map_map, List.pairwise_map]
  refine (hdistinct.filter _).imp_of_mem fun ha hb hne => hne ?_
  exact (beq_iff_eq.1 (List.mem_filter.1 ha).2).trans (beq_iff_eq.1 (List.mem_filter.1 hb).2).symm

theorem size_relate (registry : Registry) : (relate registry).1.size = registry.size := by
  have hseen : (relate registry).1.seen (fun _ => ()) = registry.seen fun _ => () :=
    seen_relate (fun _ _ => rfl) fun _ _ => rfl
  simpa [Registry.seen, Registry.size] using congrArg List.length hseen

/-- The relationships that are not synthesized are the declared ones with their targets. -/
theorem declaredLinks_relate (h : (relate registry).2 = .ok ()) :
    (relate registry).1.declaredLinks = registry.withDeclared.links := by
  unfold Registry.declaredLinks Registry.links Registry.places
  have hsize : registry.withDeclared.size = registry.size := List.length_map _
  rw [List.filter_flatMap, size_relate, hsize]
  refine List.flatMap_congr fun place _ => ?_
  rw [resolve?_withDeclared]
  have houtline := outline_relate h place
  cases hentity : (relate registry).1.resolve? place with
  | none =>
    rw [hentity] at houtline
    rw [Option.map_eq_none_iff.1 houtline.symm]
    rfl
  | some entity =>
    obtain ⟨former, hformer, hname, -, hrelationships⟩ := exists_of_resolve?_relate h hentity
    have hadded : (registry.addedSides place).filter (!·.synthesized) = [] := by
      refine List.filter_eq_nil_iff.2 fun side hside => ?_
      obtain ⟨⟨link, -, heq⟩, -⟩ := of_mem_addedSides hside
      rw [heq]
      exact Bool.false_ne_true
    have hdeclared : (former.definition.relationships.map registry.declared).filter
        (!·.synthesized) = former.definition.relationships.map registry.declared :=
      List.filter_eq_self.2 (List.forall_mem_map.2 fun _ _ => rfl)
    rw [hformer]
    show (entity.relationships.map _).filter _ = _
    rw [List.filter_map, hname, hrelationships]
    show ((_ ++ registry.addedSides place).filter (!·.synthesized)).map _ = _
    rw [List.filter_append, hadded, List.append_nil, hdeclared]
    rfl

/-- A side that has all it should have of the relationship it is the inverse of. -/
structure Relationship.IsInverseOf (side : Relationship) (link : Link) : Prop where
  cardinality : side.cardinality = link.relationship.cardinality.inverse
  target : side.target = some link.place
  other_entity : side.otherEntity = link.owner
  inverse_name : side.inverseName = some link.relationship.name
  owner_side : side.ownerSide = !link.relationship.ownerSide
  no_id : side.id = false
  not_required : side.required = false

theorem Link.isInverseOf_otherSide (link : Link) (name : String) :
    (link.otherSide name).IsInverseOf link :=
  ⟨rfl, rfl, rfl, rfl, rfl, rfl, rfl⟩

/-- What relating makes of the entity at a place: its declared relationships come first, in order,
and then the added ones, each for the first declared relationship that calls for it. -/
structure RelatedAs (before after : Registry) (place : Nat) (former entity : Entity)
    (added : List Relationship) : Prop where
  name : entity.name = former.name
  definition : entity.definition = former.definition
  relationships : entity.relationships =
    former.definition.relationships.map before.declared ++ added
  declared : ∀ r ∈ former.definition.relationships.map before.declared, r.synthesized = false
  synthesized : ∀ side ∈ added, side.synthesized = true
  distinct : (added.map Relationship.name).Nodup
  new : ∀ side ∈ added,
    side.name ∉ (former.definition.relationships.map before.declared).map Relationship.name
  first_call : ∀ side ∈ added, ∃ link,
    after.declaredLinks.find? (Link.calls place side.name) = some link ∧ side.IsInverseOf link

theorem relatedAs_of_ok (h : (relate registry).2 = .ok ()) {entity : Entity}
    (hentity : (relate registry).1.resolve? place = some entity) :
    ∃ former, registry.resolve? place = some former ∧
      RelatedAs registry (relate registry).1 place former entity (registry.addedSides place) := by
  obtain ⟨former, hformer, hname, hdefinition, hrelationships⟩ :=
    exists_of_resolve?_relate h hentity
  refine ⟨former, hformer, hname, hdefinition, hrelationships,
    List.forall_mem_map.2 fun _ _ => rfl, fun side hside => ?_, nodup_addedSides registry place,
    fun side hside => ?_, fun side hside => ?_⟩
  · obtain ⟨⟨link, -, heq⟩, -⟩ := of_mem_addedSides hside
    rw [heq]
    rfl
  · obtain ⟨-, other, hother, hnew⟩ := of_mem_addedSides hside
    rw [hformer] at hother
    obtain rfl := Option.some.inj hother
    exact hnew
  · obtain ⟨⟨link, hlink, heq⟩, -⟩ := of_mem_addedSides hside
    exact ⟨link, declaredLinks_relate h ▸ hlink, heq ▸ link.isInverseOf_otherSide side.name⟩

theorem mem_entities_of_resolve? {entity : Entity} (h : registry.resolve? place = some entity) :
    entity ∈ registry.entities := by
  obtain ⟨slot, hslot, rfl⟩ := Option.map_eq_some_iff.1 h
  exact List.mem_map_of_mem (List.mem_of_getElem? hslot)

theorem isSome_resolve?_of_placeOf? (h : registry.placeOf? name = some place) :
    (registry.resolve? place).isSome = true := by
  obtain ⟨hlt, -⟩ := List.findIdx?_eq_some_iff_getElem.1 h
  simp [Registry.resolve?, hlt]

/-- The target of a relationship has a relationship of the name that it gives to its other side, if
it gives one. -/
def Link.IsAnswered (registry : Registry) (link : Link) : Prop :=
  ∀ name, link.relationship.inverseName = some name →
    ∃ target entity, link.relationship.target = some target ∧
      registry.resolve? target = some entity ∧
      name ∈ entity.relationships.map Relationship.name

theorem isAnswered_of_mem_declaredLinks (h : (relate registry).2 = .ok ())
    (hlink : link ∈ (relate registry).1.declaredLinks) : link.IsAnswered (relate registry).1 := by
  intro name hname
  rw [declaredLinks_relate h] at hlink
  obtain ⟨owner, howner, -, hr⟩ := mem_links.1 hlink
  rw [resolve?_withDeclared] at howner
  obtain ⟨former, hformer, rfl⟩ := Option.map_eq_some_iff.1 howner
  obtain ⟨definition, hdefinition, hr⟩ := List.mem_map.1 hr
  have hfound := (relate_ok h).1 former (mem_entities_of_resolve? hformer) definition hdefinition
  obtain ⟨target, hplace⟩ := Option.isSome_iff_exists.1 hfound
  have htarget : link.relationship.target = some target := by
    rw [← hr, Registry.declared, hplace]
    rfl
  obtain ⟨other, hother⟩ := Option.isSome_iff_exists.1 (isSome_resolve?_of_placeOf? hplace)
  obtain ⟨entity, hentity, hrelationships⟩ := exists_resolve?_relate h hother
  have hready : registry.withDeclared.resolve? target = some { other with
      relationships := other.definition.relationships.map registry.declared } := by
    rw [resolve?_withDeclared, hother]
    rfl
  refine ⟨target, entity, htarget, hentity, ?_⟩
  rw [hrelationships, List.map_append, List.mem_append]
  -- the loop has found the name at the target, or has added it there
  have hside := (served_missingInverses registry.withDeclared).answered link hlink target name
    (Link.calls_iff.2 ⟨htarget, hname⟩) (hready ▸ rfl)
  rcases hasSide_iff.1 hside with ⟨ready, hresolve, hown⟩ | ⟨addition, hin, hplace, hside⟩
  · rw [hready] at hresolve
    obtain rfl := Option.some.inj hresolve
    exact Or.inl hown
  · refine Or.inr (List.mem_map.2 ⟨addition.relationship, ?_, hside⟩)
    exact List.mem_map_of_mem (List.mem_filter.2 ⟨hin, beq_iff_eq.2 hplace⟩)

theorem isAnswered_of_mem_links (h : (relate registry).2 = .ok ())
    (hlink : link ∈ (relate registry).1.links) : link.IsAnswered (relate registry).1 := by
  obtain ⟨owner, howner, -, hr⟩ := mem_links.1 hlink
  obtain ⟨former, -, hrelated⟩ := relatedAs_of_ok h howner
  rw [hrelated.relationships, List.mem_append] at hr
  rcases hr with hr | hr
  · exact isAnswered_of_mem_declaredLinks h
      (List.mem_filter.2 ⟨hlink, by rw [hrelated.declared _ hr]; rfl⟩)
  · -- an added side names the relationship that it was added for
    intro name hname
    obtain ⟨caller, hcaller, hinverse⟩ := hrelated.first_call _ hr
    obtain ⟨entity, hentity, -, hin⟩ :=
      mem_links.1 (List.mem_of_mem_filter (List.mem_of_find?_eq_some hcaller))
    obtain rfl := Option.some.inj (hinverse.inverse_name.symm.trans hname)
    exact ⟨caller.place, entity, hinverse.target, hentity, List.mem_map_of_mem hin⟩

/-- Relating that succeeds leaves every entity with its declared relationships and then one side for
each name that it is first called on for and does not declare; and with that no relationship, added
ones included, names a side that its target does not have. -/
theorem sides_are_added_once (context : Context)
    (h : (prepareRelationships context).result = .ok ()) :
    TargetsResolve context.entities ∧
    (prepareRelationships context).state.entities.names = context.entities.names ∧
    (∀ place entity,
      (prepareRelationships context).state.entities.resolve? place = some entity →
      ∃ former added, context.entities.resolve? place = some former ∧
        RelatedAs context.entities (prepareRelationships context).state.entities place former
          entity added) ∧
    ∀ link ∈ (prepareRelationships context).state.entities.links,
      link.IsAnswered (prepareRelationships context).state.entities := by
  have hrelate : (relate context.entities).2 = .ok () := h
  refine ⟨(relate_ok hrelate).1, ?_, fun place entity hentity => ?_,
    fun link hlink => isAnswered_of_mem_links hrelate hlink⟩
  · exact seen_relate (fun _ _ => rfl) fun _ _ => rfl
  · obtain ⟨former, hformer, hrelated⟩ := relatedAs_of_ok hrelate hentity
    exact ⟨former, _, hformer, hrelated⟩

/-- Books and songs by authors, both to be listed there as works; books have notes of their own, and
reviews are to be listed as notes of their book. -/
def libraryDefinitions : List EntityDefinition := [
  { name := "Book"
    relationships := [
      { cardinality := .manyToOne, otherEntity := "Author", inverseName := some "works" },
      { cardinality := .oneToMany, name := some "notes", otherEntity := "Note" }] },
  { name := "Song"
    relationships := [
      { cardinality := .manyToOne, otherEntity := "Author", inverseName := some "works" }] },
  { name := "Review"
    relationships := [
      { cardinality := .oneToOne, otherEntity := "Book", inverseName := some "notes" }] },
  { name := "Author" },
  { name := "Note"
    relationships := [
      { cardinality := .manyToMany, name := some "next", otherEntity := "Note",
        inverseName := some "previous" }] }]

/-- The library up to where relationships are prepared. -/
def library : Context :=
  (Action.forEach Phase.run [.load, .names, .fields]
    (.ofDefinitions { skipUserManagement := true } libraryDefinitions)).state

theorem library_sides_are_added_once :
    (prepareRelationships library).result = .ok () ∧
    ∀ link ∈ (prepareRelationships library).state.entities.links,
      link.IsAnswered (prepareRelationships library).state.entities :=
  have hok : (prepareRelationships library).result = .ok () := by rfl
  ⟨hok, (sides_are_added_once library hok).2.2.2⟩

/-! ## Sides that lead back -/

/-- Whether the target that is called on has a relationship of the name that leads back. -/
def Link.leadsBack (registry : Registry) (target : Nat) (name : String) (link : Link) : Bool :=
  (registry.resolve? target).any fun entity =>
    entity.relationships.any fun side => side.name == name && side.target == some link.place

theorem Link.leadsBack_iff : link.leadsBack registry target name = true ↔
    ∃ entity, registry.resolve? target = some entity ∧
      ∃ side ∈ entity.relationships, side.name = name ∧ side.target = some link.place := by
  simp [leadsBack, Option.any_eq_true]

theorem mem_declaredLinks {entity : Entity} {r : Relationship}
    (hentity : registry.resolve? place = some entity) (hr : r ∈ entity.relationships)
    (hdeclared : r.synthesized = false) : ⟨place, entity.name, r⟩ ∈ registry.declaredLinks :=
  List.mem_filter.2 ⟨mem_links.2 ⟨entity, hentity, rfl, hr⟩, by rw [hdeclared]; rfl⟩

/-- The declared relationships of an entity are not those that are added to it. -/
theorem RelatedAs.mem_declared {before after : Registry} {former entity : Entity}
    {added : List Relationship} (h : RelatedAs before after link.place former entity added)
    (hentity : after.resolve? link.place = some entity) (hlink : link ∈ after.declaredLinks) :
    link.relationship ∈ former.definition.relationships.map before.declared := by
  obtain ⟨hin, hdeclared⟩ := List.mem_filter.1 hlink
  obtain ⟨other, hother, -, hr⟩ := mem_links.1 hin
  rw [hentity] at hother
  obtain rfl := Option.some.inj hother
  rw [h.relationships, List.mem_append] at hr
  refine hr.resolve_right fun hadded => ?_
  rw [h.synthesized _ hadded] at hdeclared
  cases hdeclared

/-- A declared relationship that names its other side ends up with one of that name at its target.
One of that name leads back if the target declares such a one, or if it declares none of that name
and the first relationship that calls for it belongs to the same entity. -/
theorem an_inverse_leads_back_unless_its_name_is_taken (context : Context)
    (h : (prepareRelationships context).result = .ok ()) (registry : Registry)
    (hregistry : (prepareRelationships context).state.entities = registry) :
    ∀ link ∈ registry.declaredLinks, ∀ target name, link.calls target name = true →
      (∃ entity, registry.resolve? target = some entity ∧
        name ∈ entity.relationships.map Relationship.name) ∧
      (link.leadsBack registry target name = true ↔
        (∃ own ∈ registry.declaredLinks, own.place = target ∧ own.relationship.name = name ∧
          own.relationship.target = some link.place) ∨
        (∀ own ∈ registry.declaredLinks, own.place = target → own.relationship.name ≠ name) ∧
          ∃ first, registry.declaredLinks.find? (Link.calls target name) = some first ∧
            first.place = link.place) := by
  subst hregistry
  have hrelate : (relate context.entities).2 = .ok () := h
  intro link hlink target name hcalls
  obtain ⟨htarget, hname⟩ := Link.calls_iff.1 hcalls
  obtain ⟨_, entity, hother, hentity, hside⟩ :=
    isAnswered_of_mem_declaredLinks hrelate hlink name hname
  obtain rfl := Option.some.inj (htarget.symm.trans hother)
  obtain ⟨former, -, hrelated⟩ := relatedAs_of_ok hrelate hentity
  refine ⟨⟨entity, hentity, hside⟩, fun hleads => ?_, ?_⟩
  · obtain ⟨other, hother, side, hin, rfl, hback⟩ := Link.leadsBack_iff.1 hleads
    obtain rfl := Option.some.inj (hentity.symm.trans hother)
    rcases List.mem_append.1 (hrelated.relationships ▸ hin) with hdeclared | hadded
    · exact Or.inl ⟨_, mem_declaredLinks hentity hin (hrelated.declared _ hdeclared), rfl, rfl,
        hback⟩
    · obtain ⟨first, hfirst, hinverse⟩ := hrelated.first_call _ hadded
      refine Or.inr ⟨fun own hown hplace hname => ?_, first, hfirst,
        Option.some.inj (hinverse.target.symm.trans hback)⟩
      subst hplace
      exact hrelated.new _ hadded
        (hname ▸ List.mem_map_of_mem (hrelated.mem_declared hentity hown))
  · rintro (⟨own, hown, rfl, hname, hback⟩ | ⟨hfree, first, hfirst, hback⟩)
    · have hin := hrelated.mem_declared hentity hown
      exact Link.leadsBack_iff.2 ⟨entity, hentity, own.relationship,
        hrelated.relationships ▸ List.mem_append_left _ hin, hname, hback⟩
    · obtain ⟨side, hin, rfl⟩ := List.mem_map.1 hside
      rcases List.mem_append.1 (hrelated.relationships ▸ hin) with hdeclared | hadded
      · exact absurd rfl
          (hfree _ (mem_declaredLinks hentity hin (hrelated.declared _ hdeclared)) rfl)
      · -- the side was added for the first call, which belongs to the same entity
        obtain ⟨caller, hcaller, hinverse⟩ := hrelated.first_call _ hadded
        obtain rfl := Option.some.inj (hcaller.symm.trans hfirst)
        exact Link.leadsBack_iff.2 ⟨entity, hentity, side, hin, rfl,
          hback ▸ hinverse.target⟩

/-- The relationship of a book to its author. -/
def bookToAuthor : Link where
  place := 0
  owner := "Book"
  relationship := declaredRelationship
    { cardinality := .manyToOne, otherEntity := "Author", inverseName := some "works" } 3

theorem books_are_works_of_their_authors :
    bookToAuthor.leadsBack (prepareRelationships library).state.entities 3 "works" = true := by
  have hok : (prepareRelationships library).result = .ok () := rfl
  have hleads := an_inverse_leads_back_unless_its_name_is_taken library hok _ rfl bookToAuthor
    (by decide +kernel) 3 "works" (by decide)
  exact hleads.2.2 (Or.inr ⟨by decide +kernel, bookToAuthor, by decide +kernel, rfl⟩)

/-- A song is not among the works of its author, which are books, and a review is not among the
notes of its book. -/
theorem songs_and_reviews_are_left_one_sided :
    (prepareRelationships library).result = .ok () ∧
    (∃ link ∈ (prepareRelationships library).state.entities.declaredLinks,
      link.owner = "Song" ∧ link.calls 3 "works" = true ∧
      link.leadsBack (prepareRelationships library).state.entities 3 "works" = false) ∧
    ∃ link ∈ (prepareRelationships library).state.entities.declaredLinks,
      link.owner = "Review" ∧ link.calls 0 "notes" = true ∧
      link.leadsBack (prepareRelationships library).state.entities 0 "notes" = false :=
  ⟨rfl, by decide +kernel, by decide +kernel⟩

end EntityPipeline
