-- Entities once they are related. What the declared relationships say by names, the related
-- entities say by places: who is identified by whom, how many identifiers there are, and which two
-- entities a many-to-many relationship stands between.
import EntityPipeline.Proofs.Preparation.Conditions
import EntityPipeline.Proofs.Preparation.KeyUnfolding
import EntityPipeline.Proofs.Preparation.Sides

namespace EntityPipeline

variable {entities : List Entity} {entity : Entity} {place : Nat} {name other : String}

/-- Entities with their declared relationships and all other sides that were missing. -/
def related (entities : List Entity) : List Entity :=
  withAdded (entities.map (withDeclared entities))
    (missingInverses (.unfrozen (entities.map (withDeclared entities))))

/-- The relationships that are added at a place. -/
def addedAt (entities : List Entity) (place : Nat) : List Relationship :=
  ((missingInverses (.unfrozen (entities.map (withDeclared entities)))).filter
    (·.place == place)).map Addition.relationship

/-- An entity with its declared relationships and those that are added at its place. -/
def relatedEntity (entities : List Entity) (place : Nat) (entity : Entity) : Entity :=
  { entity with relationships :=
      (withDeclared entities entity).relationships ++ addedAt entities place }

theorem getElem?_related (entities : List Entity) (place : Nat) :
    (related entities)[place]? = entities[place]?.map (relatedEntity entities place) := by
  rw [related, getElem?_withAdded, List.getElem?_map, Option.map_map]
  rfl

theorem getElem?_related_of (h : entities[place]? = some entity) :
    (related entities)[place]? = some (relatedEntity entities place entity) := by
  rw [getElem?_related, h]
  rfl

@[simp] theorem length_related (entities : List Entity) :
    (related entities).length = entities.length := by
  rw [related, length_withAdded, List.length_map]

/-- A related entity is what has become of one of the entities. -/
theorem exists_of_mem_related (h : entity ∈ related entities) :
    ∃ (place : Nat) (former : Entity), entities[place]? = some former ∧
      entity = relatedEntity entities place former := by
  obtain ⟨place, hlt, rfl⟩ := List.getElem_of_mem h
  have hrelated := List.getElem?_eq_getElem hlt
  rw [getElem?_related] at hrelated
  obtain ⟨former, hformer, heq⟩ := Option.map_eq_some_iff.1 hrelated
  exact ⟨place, former, hformer, heq.symm⟩

theorem names_withKeys_related (entities : List Entity) (keys : Nat → Option PrimaryKey) :
    (withKeys (related entities) keys).map Entity.name = entities.map Entity.name := by
  apply List.ext_getElem?
  intro place
  rw [List.getElem?_map, getElem?_withKeys, getElem?_related, List.getElem?_map]
  cases entities[place]? <;> rfl

/-- An entity with a key is what has become of one of the entities. -/
theorem exists_of_mem_withKeys_related {keys : Nat → Option PrimaryKey}
    (h : entity ∈ withKeys (related entities) keys) :
    ∃ (place : Nat) (former : Entity), entities[place]? = some former ∧
      entity = (relatedEntity entities place former).keyed (keys place) := by
  obtain ⟨place, hlt, rfl⟩ := List.getElem_of_mem h
  have hat := List.getElem?_eq_getElem hlt
  rw [getElem?_withKeys, getElem?_related, Option.map_map] at hat
  obtain ⟨former, hformer, heq⟩ := Option.map_eq_some_iff.1 hat
  exact ⟨place, former, hformer, heq.symm⟩

/-- An added relationship is the other side of a declared one that leads to where it is added. -/
theorem mem_addedAt {side : Relationship} (h : side ∈ addedAt entities place) :
    ∃ (source : Nat) (owner : Entity) (definition : RelationshipDefinition) (inverse : String),
      entities[source]? = some owner ∧ definition ∈ owner.definition.relationships ∧
      placeIn entities definition.otherEntity = place ∧ place < entities.length ∧
      side = inverseRelationship owner.name source
        (declaredRelationship definition place) inverse := by
  obtain ⟨addition, hadded, rfl⟩ := List.mem_map.1 h
  obtain ⟨hin, hplace⟩ := List.mem_filter.1 hadded
  obtain rfl := beq_iff_eq.1 hplace
  obtain ⟨source, owner, relationship, inverse, hmirror⟩ := isMirror_of_mem_missingInverses _ _ hin
  have howner := hmirror.at_place
  rw [List.getElem?_map] at howner
  obtain ⟨entity, hentity, rfl⟩ := Option.map_eq_some_iff.1 howner
  obtain ⟨definition, hdefinition, rfl⟩ := List.mem_map.1 hmirror.of_source
  have htarget : placeIn entities definition.otherEntity = addition.place :=
    Option.some.inj hmirror.leads_there
  refine ⟨source, entity, definition, inverse, hentity, hdefinition, htarget, ?_, ?_⟩
  · simpa using hmirror.inside
  · rw [hmirror.is_inverse, htarget]
    rfl

/-- The identifying relationships of an entity are declared ones. -/
theorem idRelationships_relatedEntity (entities : List Entity) (place : Nat) (entity : Entity) :
    (relatedEntity entities place entity).idRelationships =
      (entity.definition.relationships.filter RelationshipDefinition.isId).map fun definition =>
        declaredRelationship definition (placeIn entities definition.otherEntity) := by
  have hadded : (addedAt entities place).filter (·.id) = [] := by
    rw [List.filter_eq_nil_iff]
    intro side hside
    obtain ⟨_, _, _, _, _, _, _, _, rfl⟩ := mem_addedAt hside
    simp [inverseRelationship, namedRelationship]
  unfold Entity.idRelationships relatedEntity
  rw [List.filter_append, hadded, List.append_nil, withDeclared, List.filter_map]
  rfl

/-! ## Names and places -/

/-- An entity stands at the place of its name. -/
theorem placeIn_name (hn : (entities.map Entity.name).Nodup) (h : entities[place]? = some entity) :
    placeIn entities entity.name = place := by
  obtain ⟨hlt, rfl⟩ := List.getElem?_eq_some_iff.1 h
  have hidx := hn.idxOf_getElem place (by simpa using hlt)
  rw [List.getElem_map, List.idxOf, List.findIdx_map] at hidx
  exact hidx

/-- A name is that of the entity at its place. -/
theorem getElem?_placeIn (h : name ∈ entities.map Entity.name) :
    ∃ entity, entities[placeIn entities name]? = some entity ∧ entity.name = name := by
  obtain ⟨found, hin, rfl⟩ := List.mem_map.1 h
  have hlt : placeIn entities found.name < entities.length :=
    List.findIdx_lt_length_of_exists ⟨found, hin, beq_self_eq_true _⟩
  refine ⟨_, List.getElem?_eq_getElem hlt, ?_⟩
  have hfound := List.findIdx_getElem (w := hlt)
  exact beq_iff_eq.1 hfound

/-- The definitions of filled entities declare what stands at the places of their names. -/
theorem declaredBy_iff (hf : ∀ entity ∈ entities, entity.IsFilled)
    {relationship : RelationshipDefinition} :
    DeclaredBy (entities.map Entity.definition) name relationship ↔
      ∃ (place : Nat) (entity : Entity), entities[place]? = some entity ∧ entity.name = name ∧
        relationship ∈ entity.definition.relationships := by
  constructor
  · rintro ⟨definition, hin, rfl, hr⟩
    obtain ⟨entity, hentity, rfl⟩ := List.mem_map.1 hin
    obtain ⟨place, hlt, rfl⟩ := List.getElem_of_mem hentity
    exact ⟨place, _, List.getElem?_eq_getElem hlt, (hf _ hentity).name, hr⟩
  · rintro ⟨place, entity, hentity, rfl, hr⟩
    have hin := List.mem_of_getElem? hentity
    exact ⟨_, List.mem_map_of_mem hin, (hf _ hin).name.symm, hr⟩

/-! ## Circles -/

variable (hf : ∀ entity ∈ entities, entity.IsFilled) (hn : (entities.map Entity.name).Nodup)
  (hr : ∀ name relationship, DeclaredBy (entities.map Entity.definition) name relationship →
    relationship.otherEntity ∈ entities.map Entity.name)

/-- The name at a place. -/
def nameAt (entities : List Entity) (place : Nat) : String :=
  (entities[place]?.map Entity.name).getD ""

theorem nameAt_eq (h : entities[place]? = some entity) : nameAt entities place = entity.name := by
  simp [nameAt, h]

include hf hr in
/-- A place that borrows from another has a name that is identified by the other's. -/
theorem identifiedBy_of_borrowsFrom {target : Nat}
    (h : BorrowsFrom (related entities) place target) :
    IdentifiedBy (entities.map Entity.definition) (nameAt entities place)
      (nameAt entities target) := by
  obtain ⟨e, he, r, hin, htarget⟩ := h
  rw [getElem?_related] at he
  obtain ⟨entity, hentity, rfl⟩ := Option.map_eq_some_iff.1 he
  rw [idRelationships_relatedEntity] at hin
  obtain ⟨definition, hdefinition, rfl⟩ := List.mem_map.1 hin
  obtain ⟨hdefinition, hid⟩ := List.mem_filter.1 hdefinition
  have hdeclared := (declaredBy_iff hf).2 ⟨place, entity, hentity, rfl, hdefinition⟩
  obtain ⟨found, hfound, hname⟩ := getElem?_placeIn (hr _ _ hdeclared)
  rw [Option.some.inj htarget] at hfound
  rw [nameAt_eq hentity, nameAt_eq hfound]
  exact ⟨definition, hdeclared, hid, hname.symm⟩

include hf hn in
/-- A name that is identified by another stands at a place that borrows from the other's. -/
theorem borrowsFrom_of_identifiedBy
    (h : IdentifiedBy (entities.map Entity.definition) name other) :
    BorrowsFrom (related entities) (placeIn entities name) (placeIn entities other) := by
  obtain ⟨relationship, hdeclared, hid, rfl⟩ := h
  obtain ⟨place, entity, hentity, rfl, hin⟩ := (declaredBy_iff hf).1 hdeclared
  rw [placeIn_name hn hentity]
  refine ⟨relatedEntity entities place entity, getElem?_related_of hentity,
    declaredRelationship relationship (placeIn entities relationship.otherEntity), ?_, rfl⟩
  rw [idRelationships_relatedEntity]
  exact List.mem_map_of_mem (List.mem_filter.2 ⟨hin, hid⟩)

include hf hn hr in
/-- Borrowing ends just when no entity is identified by itself. -/
theorem borrowingEnds_related : BorrowingEnds (related entities) ↔
    ∀ name, ¬Relation.TransGen (IdentifiedBy (entities.map Entity.definition)) name name := by
  constructor
  · intro h name hcircle
    exact h _ (hcircle.lift _ fun _ _ hab => borrowsFrom_of_identifiedBy hf hn hab)
  · intro h place hcircle
    exact h _ (hcircle.lift _ fun _ _ hab => identifiedBy_of_borrowsFrom hf hr hab)

/-! ## Counting identifiers -/

include hf in
theorem length_ownIds (h : entities[place]? = some entity) :
    (relatedEntity entities place entity).ownIds.length = ownIdCount entity.definition := by
  rw [← (hf entity (List.mem_of_getElem? h)).ids]
  exact List.length_map _

omit hf hn hr in
theorem length_borrowed (entities : List Entity) (place : Nat) (entity : Entity)
    (ids : Nat → List PrimaryKeyId) :
    ((relatedEntity entities place entity).borrowed ids).length =
      borrowedCount entity.definition fun name => (ids (placeIn entities name)).length := by
  unfold Entity.borrowed borrowedCount
  rw [idRelationships_relatedEntity, List.length_flatMap, List.map_map]
  congr 1
  refine List.map_congr_left fun definition _ => ?_
  simp [declaredRelationship]

include hf hr in
/-- As many identifiers are unfolded as are counted. -/
theorem countsIds_of_unfolds {ids : List PrimaryKeyId}
    (h : Unfolds (related entities) place ids) :
    CountsIds (entities.map Entity.definition) (nameAt entities place) ids.length := by
  induction h with
  | @intro place e all hentity _ _ ih =>
    rw [getElem?_related] at hentity
    obtain ⟨entity, hplace, rfl⟩ := Option.map_eq_some_iff.1 hentity
    have hin := List.mem_of_getElem? hplace
    rw [List.length_append, length_ownIds hf hplace, length_borrowed, nameAt_eq hplace,
      (hf entity hin).name]
    refine CountsIds.intro _ (List.mem_map_of_mem hin) fun relationship hrel hid => ?_
    have hdeclared := (declaredBy_iff hf).2 ⟨place, entity, hplace, rfl, hrel⟩
    obtain ⟨found, hfound, hname⟩ := getElem?_placeIn (hr _ _ hdeclared)
    have hchild := ih (declaredRelationship relationship
      (placeIn entities relationship.otherEntity)) (by
        rw [idRelationships_relatedEntity]
        exact List.mem_map_of_mem (List.mem_filter.2 ⟨hrel, hid⟩)) _ rfl
    rwa [nameAt_eq hfound, hname] at hchild

include hf hn hr in
/-- The composite keys are those with several identifiers. -/
theorem isComposite_iff {keys : Nat → Option PrimaryKey}
    (hs : Settled (related entities) keys []) (h : entities[place]? = some entity) :
    isComposite (.unfrozen (withKeys (related entities) keys)) place = true ↔
      Composite (entities.map Entity.definition) entity.name := by
  have hplace := getElem?_related_of h
  obtain ⟨ids, hunfolds, hne, hkey⟩ := hs.unfolded place _ hplace (by simp)
  have hcounts := countsIds_of_unfolds hf hr hunfolds
  rw [nameAt_eq h] at hcounts
  obtain ⟨key, hsome⟩ := Option.isSome_iff_exists.1 (isSome_ofIds hne)
  rw [Entity.keyOf, hsome] at hkey
  have hcomposite : isComposite (.unfrozen (withKeys (related entities) keys)) place =
      key.composite := by
    unfold isComposite
    rw [Registry.resolve?_unfrozen, getElem?_withKeys, hplace]
    simp [hkey]
  rw [hcomposite, (ids_of_ofIds hsome).2, decide_eq_true_iff]
  constructor
  · exact fun hle => ⟨_, hle, hcounts⟩
  · rintro ⟨count, hle, hcount⟩
    have hnames : ((entities.map Entity.definition).map EntityDefinition.name).Nodup := by
      have heq : (entities.map Entity.definition).map EntityDefinition.name =
          entities.map Entity.name := by
        rw [List.map_map]
        exact List.map_congr_left fun e he => (hf e he).name.symm
      rwa [heq]
    rw [hcounts.unique hnames hcount]
    exact hle

end EntityPipeline
