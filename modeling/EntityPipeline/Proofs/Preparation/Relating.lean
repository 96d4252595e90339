-- Relating entities, step by step. Each step either does its work for all entities, or it fails
-- with one of the declared relationships that stand in its way.
import EntityPipeline.Preparation.Phases
import EntityPipeline.Proofs.Preparation.Related

namespace EntityPipeline

variable {entities : List Entity} {entity : Entity} {place : Nat}

/-! ## Checks of relationships -/

theorem checkIdRelationships_outcome (entities : List Entity) :
    ((∀ entity ∈ entities, entity.unsupportedId = none) ∧
      checkIdRelationships (Registry.unfrozen entities).slots = .ok ()) ∨
    ∃ entity ∈ entities, ∃ relationship, entity.unsupportedId = some relationship ∧
      checkIdRelationships (Registry.unfrozen entities).slots =
        .error (.invalidRelationship entity.name relationship.name
          "an id relationship must be many-to-one or the owner side of a one-to-one") := by
  induction entities with
  | nil => exact Or.inl ⟨by simp, rfl⟩
  | cons entity rest ih =>
    rw [Registry.slots_unfrozen_cons, checkIdRelationships]
    cases hentity : entity.unsupportedId with
    | some relationship => exact Or.inr ⟨entity, List.mem_cons_self, relationship, hentity, rfl⟩
    | none =>
      rcases ih with ⟨hall, hok⟩ | ⟨found, hin, relationship, hfound, herror⟩
      · exact Or.inl ⟨List.forall_mem_cons.2 ⟨hentity, hall⟩, hok⟩
      · exact Or.inr ⟨found, List.mem_cons_of_mem _ hin, relationship, hfound, herror⟩

theorem canIdentify_iff (definition : RelationshipDefinition) (target : Nat) :
    (((declaredRelationship definition target).cardinality == .manyToOne ||
      (declaredRelationship definition target).isOwnerOneToOne) = true) ↔
        definition.CanIdentify := by
  simp only [RelationshipDefinition.CanIdentify, Relationship.isOwnerOneToOne,
    declaredRelationship, namedRelationship, Bool.or_eq_true, Bool.and_eq_true, beq_iff_eq]
  refine or_congr_right (and_congr_right fun hone => ?_)
  rw [hone]
  cases definition.ownerSide with
  | none => simp
  | some side => cases side <;> simp

theorem unsupportedId_eq_none : (relatedEntity entities place entity).unsupportedId = none ↔
    ∀ definition ∈ entity.definition.relationships, definition.isId = true →
      definition.CanIdentify := by
  unfold Entity.unsupportedId
  rw [idRelationships_relatedEntity, List.find?_eq_none, List.forall_mem_map]
  simp only [List.mem_filter, Bool.not_eq_true', Bool.not_eq_false, canIdentify_iff, and_imp]

theorem of_unsupportedId_eq_some {relationship : Relationship}
    (h : (relatedEntity entities place entity).unsupportedId = some relationship) :
    ∃ definition ∈ entity.definition.relationships, definition.isId = true ∧
      ¬definition.CanIdentify ∧ relationship.name = definition.effectiveName := by
  unfold Entity.unsupportedId at h
  have hin := List.mem_of_find?_eq_some h
  have hnot := List.find?_some h
  rw [idRelationships_relatedEntity] at hin
  obtain ⟨definition, hdefinition, rfl⟩ := List.mem_map.1 hin
  obtain ⟨hdefinition, hid⟩ := List.mem_filter.1 hdefinition
  rw [Bool.not_eq_true', ← Bool.not_eq_true, canIdentify_iff] at hnot
  exact ⟨definition, hdefinition, hid, hnot, rfl⟩

/-- A many-to-many relationship has a composite key on one of its sides. -/
def Clashes (registry : Registry) (place : Nat) (relationship : Relationship) : Prop :=
  relationship.cardinality = .manyToMany ∧
    (isComposite registry place = true ∨
      ∃ target, relationship.target = some target ∧ isComposite registry target = true)

theorem checkManyToMany_outcome (registry : Registry) (places : List Nat) :
    ((∀ place ∈ places, ∀ entity, registry.resolve? place = some entity →
        ∀ r ∈ entity.relationships, ¬Clashes registry place r) ∧
      checkManyToMany registry places = .ok ()) ∨
    ∃ place ∈ places, ∃ entity, registry.resolve? place = some entity ∧
      ∃ r ∈ entity.relationships, Clashes registry place r ∧
      checkManyToMany registry places = .error (.invalidRelationship entity.name r.name
        "many-to-many relationships are not supported with composite primary keys") := by
  induction places with
  | nil => exact Or.inl ⟨by simp, rfl⟩
  | cons place rest ih =>
    have hclash : ∀ r : Relationship, (r.cardinality == .manyToMany &&
        (isComposite registry place || r.target.any (isComposite registry))) = true ↔
          Clashes registry place r := by
      intro r
      simp [Clashes, Option.any_eq_true]
    unfold checkManyToMany
    cases hresolve : registry.resolve? place with
    | none =>
      simp only
      rcases ih with ⟨hall, hok⟩ | ⟨found, hin, hbad⟩
      · refine Or.inl ⟨List.forall_mem_cons.2 ⟨fun entity hentity => ?_, hall⟩, hok⟩
        rw [hresolve] at hentity
        cases hentity
      · exact Or.inr ⟨found, List.mem_cons_of_mem _ hin, hbad⟩
    | some entity =>
      simp only
      split
      · rename_i r hfind
        have hbad := List.find?_some hfind
        exact Or.inr ⟨place, List.mem_cons_self, entity, hresolve, r,
          List.mem_of_find?_eq_some hfind, (hclash r).1 hbad, rfl⟩
      · rename_i hfind
        rcases ih with ⟨hall, hok⟩ | ⟨found, hin, hbad⟩
        · refine Or.inl ⟨List.forall_mem_cons.2 ⟨fun other hother r hr => ?_, hall⟩, hok⟩
          rw [hresolve] at hother
          cases hother
          exact fun hc => List.find?_eq_none.1 hfind r hr ((hclash r).2 hc)
        · exact Or.inr ⟨found, List.mem_cons_of_mem _ hin, hbad⟩

/-! ## Relating -/

/-- The relationships of entities lead to entities that are there. -/
def Resolved (entities : List Entity) : Prop :=
  ∀ name relationship, DeclaredBy (entities.map Entity.definition) name relationship →
    relationship.otherEntity ∈ entities.map Entity.name

/-- Relationships are all found, or one is reported that leads nowhere. -/
theorem resolve_outcome (hf : ∀ entity ∈ entities, entity.IsFilled) :
    (Resolved entities ∧ resolveAll (.unfrozen entities) (Registry.unfrozen entities).slots =
      .ok (entities.map fun entity => (withDeclared entities entity).relationships)) ∨
    ∃ name relationship, DeclaredBy (entities.map Entity.definition) name relationship ∧
      relationship.otherEntity ∉ entities.map Entity.name ∧
      (relate (.unfrozen entities)).2 =
        .error (.unresolvedReference name relationship.effectiveName relationship.otherEntity) := by
  rcases resolveAll_outcome entities entities with
    ⟨hall, hok⟩ | ⟨entity, hin, relationship, hr, hmissing, herror⟩
  · refine Or.inl ⟨?_, hok⟩
    intro name relationship hdeclared
    obtain ⟨place, entity, hentity, _, hr⟩ := (declaredBy_iff hf).1 hdeclared
    exact hall entity (List.mem_of_getElem? hentity) relationship hr
  · obtain ⟨place, hlt, rfl⟩ := List.getElem_of_mem hin
    refine Or.inr ⟨_, relationship, (declaredBy_iff hf).2
      ⟨place, _, List.getElem?_eq_getElem hlt, rfl, hr⟩, hmissing, ?_⟩
    unfold relate
    rw [herror]

/-- The last steps of relating: keys are derived, then many-to-many relationships checked. -/
def keyAndCheck (registry : Registry) : Registry × Except Failure Unit :=
  let (registry, result) := deriveKeys registry
  match result with
  | .error e => (registry, .error e)
  | .ok () => (registry, checkManyToMany registry registry.places)

/-- All other sides that were missing are added. -/
theorem appendAll_missingInverses (entities : List Entity) :
    appendAll ⟨(Registry.unfrozen (entities.map (withDeclared entities))).slots⟩
      (missingInverses ⟨(Registry.unfrozen (entities.map (withDeclared entities))).slots⟩) =
        (.unfrozen (related entities), .ok ()) :=
  appendAll_eq fun addition hin => by
    obtain ⟨_, _, _, _, hmirror⟩ := isMirror_of_mem_missingInverses _ addition hin
    exact hmirror.inside

/-- Relationships that are found are related before they are checked. -/
theorem relate_eq (h : resolveAll (.unfrozen entities) (Registry.unfrozen entities).slots =
      .ok (entities.map fun entity => (withDeclared entities entity).relationships)) :
    relate (.unfrozen entities) =
      match checkIdRelationships (Registry.unfrozen (related entities)).slots with
      | .error e => (.unfrozen (related entities), .error e)
      | .ok () => keyAndCheck (.unfrozen (related entities)) := by
  have hset := setRelationships_eq entities entities
  have happend := appendAll_missingInverses entities
  unfold relate
  rw [h]
  dsimp only
  rw [hset]
  dsimp only
  rw [happend]
  rfl

/-- Identifying relationships are all supported, or one that is not is reported. -/
theorem support_outcome (hf : ∀ entity ∈ entities, entity.IsFilled) :
    ((∀ name relationship, DeclaredBy (entities.map Entity.definition) name relationship →
        relationship.isId = true → relationship.CanIdentify) ∧
      checkIdRelationships (Registry.unfrozen (related entities)).slots = .ok ()) ∨
    ∃ name relationship, DeclaredBy (entities.map Entity.definition) name relationship ∧
      relationship.isId = true ∧ ¬relationship.CanIdentify ∧
      checkIdRelationships (Registry.unfrozen (related entities)).slots =
        .error (.invalidRelationship name relationship.effectiveName
          "an id relationship must be many-to-one or the owner side of a one-to-one") := by
  rcases checkIdRelationships_outcome (related entities) with
    ⟨hall, hok⟩ | ⟨e, hin, relationship, hfound, herror⟩
  · refine Or.inl ⟨?_, hok⟩
    intro name relationship hdeclared hid
    obtain ⟨place, entity, hentity, _, hr⟩ := (declaredBy_iff hf).1 hdeclared
    have hsupported := hall _ (List.mem_of_getElem? (getElem?_related_of hentity))
    exact unsupportedId_eq_none.1 hsupported relationship hr hid
  · obtain ⟨place, entity, hentity, rfl⟩ := exists_of_mem_related hin
    obtain ⟨definition, hr, hid, hnot, hname⟩ := of_unsupportedId_eq_some hfound
    refine Or.inr ⟨entity.name, definition, (declaredBy_iff hf).2 ⟨place, entity, hentity, rfl, hr⟩,
      hid, hnot, ?_⟩
    rw [herror, hname]
    rfl

/-- An entity that nothing identifies from outside has an identifier of its own. -/
theorem ownIdCount_pos {definition : EntityDefinition}
    (h : definition.relationships.filter RelationshipDefinition.isId = []) :
    0 < ownIdCount definition := by
  unfold ownIdCount
  split
  · exact Nat.one_pos
  · rename_i hlacks
    have hnone : definition.hasIdRelationship = false := by
      rw [EntityDefinition.hasIdRelationship, List.any_eq_false]
      exact List.filter_eq_nil_iff.1 h
    have hfield : definition.hasIdField = true := by
      simpa [lacksId, hnone] using hlacks
    obtain ⟨field, hin, hid⟩ := List.any_eq_true.1 hfield
    exact List.length_pos_of_mem (List.mem_filter.2 ⟨hin, hid⟩)

theorem keyable_related (hf : ∀ entity ∈ entities, entity.IsFilled) (hr : Resolved entities) :
    Keyable (related entities) := by
  constructor
  · intro e hin r hrel
    obtain ⟨place, entity, hentity, rfl⟩ := exists_of_mem_related hin
    rw [idRelationships_relatedEntity] at hrel
    obtain ⟨definition, hdefinition, rfl⟩ := List.mem_map.1 hrel
    have hdeclared := (declaredBy_iff hf).2
      ⟨place, entity, hentity, rfl, (List.mem_filter.1 hdefinition).1⟩
    obtain ⟨found, hfound, _⟩ := getElem?_placeIn (hr _ _ hdeclared)
    refine ⟨_, rfl, ?_⟩
    rw [length_related]
    exact (List.getElem?_eq_some_iff.1 hfound).1
  · intro e hin hnil hown
    obtain ⟨place, entity, hentity, rfl⟩ := exists_of_mem_related hin
    rw [idRelationships_relatedEntity, List.map_eq_nil_iff] at hnil
    have hlength := length_ownIds hf hentity
    rw [hown] at hlength
    exact absurd (ownIdCount_pos hnil) (by simp [← hlength])

theorem primaryKey_related (hf : ∀ entity ∈ entities, entity.IsFilled) :
    ∀ entity ∈ related entities, entity.primaryKey = none := by
  intro e hin
  obtain ⟨place, entity, hentity, rfl⟩ := exists_of_mem_related hin
  exact (hf entity (List.mem_of_getElem? hentity)).primaryKey

/-- A many-to-many relationship of a related entity stands between two entities of which one
declares it. -/
theorem manyToMany_of_related (hf : ∀ entity ∈ entities, entity.IsFilled)
    (hr : Resolved entities) (hentity : entities[place]? = some entity) {r : Relationship}
    (hin : r ∈ (relatedEntity entities place entity).relationships)
    (hc : r.cardinality = .manyToMany) : ∃ (target : Nat) (other : Entity),
      r.target = some target ∧ entities[target]? = some other ∧
      (ManyToMany (entities.map Entity.definition) entity.name other.name ∨
        ManyToMany (entities.map Entity.definition) other.name entity.name) := by
  rcases List.mem_append.1 hin with hdeclared | hadded
  · obtain ⟨definition, hdefinition, rfl⟩ := List.mem_map.1 hdeclared
    have hby := (declaredBy_iff hf).2 ⟨place, entity, hentity, rfl, hdefinition⟩
    obtain ⟨other, hother, hname⟩ := getElem?_placeIn (hr _ _ hby)
    exact ⟨_, other, rfl, hother, Or.inl (hname ▸ .declared hby hc)⟩
  · -- an added side stands between the same two entities as the one that calls for it
    obtain ⟨source, owner, definition, inverse, howner, hdefinition, hplace, _, rfl⟩ :=
      mem_addedAt hadded
    have hby := (declaredBy_iff hf).2 ⟨source, owner, howner, rfl, hdefinition⟩
    obtain ⟨other, hother, hname⟩ := getElem?_placeIn (hr _ _ hby)
    rw [hplace, hentity] at hother
    cases hother
    have hmany : definition.cardinality = .manyToMany := by
      simp only [inverseRelationship, declaredRelationship, namedRelationship] at hc
      cases hcardinality : definition.cardinality <;> rw [hcardinality] at hc <;> cases hc
    exact ⟨source, owner, rfl, howner, Or.inr (hname ▸ .declared hby hmany)⟩

theorem resolve?_related (entities : List Entity) (keys : Nat → Option PrimaryKey) (place : Nat) :
    (Registry.unfrozen (withKeys (related entities) keys)).resolve? place =
      entities[place]?.map fun entity => (relatedEntity entities place entity).keyed (keys place) := by
  rw [Registry.resolve?_unfrozen, getElem?_withKeys, getElem?_related, Option.map_map]
  rfl

section Composite

variable (hf : ∀ entity ∈ entities, entity.IsFilled) (hn : (entities.map Entity.name).Nodup)
  (hr : Resolved entities) {keys : Nat → Option PrimaryKey}
  (hs : Settled (related entities) keys [])
include hf hn hr hs

/-- If no related relationship clashes, neither side of a many-to-many has a composite key. -/
theorem not_composite_of_not_clashes
    (h : ∀ place entity, entities[place]? = some entity →
      ∀ r ∈ (relatedEntity entities place entity).relationships,
        ¬Clashes (.unfrozen (withKeys (related entities) keys)) place r)
    {name other : String} (hmany : ManyToMany (entities.map Entity.definition) name other) :
    ¬Composite (entities.map Entity.definition) name ∧
      ¬Composite (entities.map Entity.definition) other := by
  have hdeclared : ∀ name relationship,
      DeclaredBy (entities.map Entity.definition) name relationship →
      relationship.cardinality = .manyToMany →
      ¬Composite (entities.map Entity.definition) name ∧
        ¬Composite (entities.map Entity.definition) relationship.otherEntity := by
    intro name relationship hby hc
    obtain ⟨place, entity, hentity, rfl, hdefinition⟩ := (declaredBy_iff hf).1 hby
    obtain ⟨other, hother, hname⟩ := getElem?_placeIn (hr _ _ hby)
    have hclash := h place entity hentity
      (declaredRelationship relationship (placeIn entities relationship.otherEntity))
      (List.mem_append_left _ (List.mem_map_of_mem hdefinition))
    have hone := isComposite_iff hf hn hr hs hentity
    have hotherOne := isComposite_iff hf hn hr hs hother
    rw [← hname]
    exact ⟨fun hcomp => hclash ⟨hc, Or.inl (hone.2 hcomp)⟩,
      fun hcomp => hclash ⟨hc, Or.inr ⟨_, rfl, hotherOne.2 hcomp⟩⟩⟩
  cases hmany with
  | declared hby hc => exact hdeclared _ _ hby hc
  | added hby hc _ _ => exact (hdeclared _ _ hby hc).symm

/-- A related relationship that clashes is a many-to-many with a composite key on a side. -/
theorem composite_of_clashes (hentity : entities[place]? = some entity) {r : Relationship}
    (hin : r ∈ (relatedEntity entities place entity).relationships)
    (h : Clashes (.unfrozen (withKeys (related entities) keys)) place r) :
    ∃ name other, ManyToMany (entities.map Entity.definition) name other ∧
      (Composite (entities.map Entity.definition) name ∨
        Composite (entities.map Entity.definition) other) := by
  obtain ⟨hc, hbad⟩ := h
  obtain ⟨target, other, htarget, hother, hmany⟩ := manyToMany_of_related hf hr hentity hin hc
  have hsides : Composite (entities.map Entity.definition) entity.name ∨
      Composite (entities.map Entity.definition) other.name := by
    refine hbad.imp (isComposite_iff hf hn hr hs hentity).1 ?_
    rintro ⟨target', htarget', hcomp⟩
    rw [htarget] at htarget'
    cases htarget'
    exact (isComposite_iff hf hn hr hs hother).1 hcomp
  rcases hmany with hmany | hmany
  · exact ⟨_, _, hmany, hsides⟩
  · exact ⟨_, _, hmany, hsides.symm⟩

/-- No many-to-many relationship has a composite key on a side, or one that has is reported. -/
theorem simple_outcome :
    ((∀ name other, ManyToMany (entities.map Entity.definition) name other →
        ¬Composite (entities.map Entity.definition) name ∧
          ¬Composite (entities.map Entity.definition) other) ∧
      checkManyToMany (.unfrozen (withKeys (related entities) keys))
        (Registry.unfrozen (withKeys (related entities) keys)).places = .ok ()) ∨
    (∃ name other, ManyToMany (entities.map Entity.definition) name other ∧
      (Composite (entities.map Entity.definition) name ∨
        Composite (entities.map Entity.definition) other)) ∧
    ∃ name relationship, checkManyToMany (.unfrozen (withKeys (related entities) keys))
        (Registry.unfrozen (withKeys (related entities) keys)).places =
      .error (.invalidRelationship name relationship
        "many-to-many relationships are not supported with composite primary keys") := by
  rcases checkManyToMany_outcome (.unfrozen (withKeys (related entities) keys))
      (Registry.unfrozen (withKeys (related entities) keys)).places with
    ⟨hall, hok⟩ | ⟨place, _, e, he, r, hin, hclash, herror⟩
  · refine Or.inl ⟨fun name other => not_composite_of_not_clashes hf hn hr hs ?_, hok⟩
    intro place entity hentity
    have hlt := (List.getElem?_eq_some_iff.1 hentity).1
    have hfound : (Registry.unfrozen (withKeys (related entities) keys)).resolve? place =
        some ((relatedEntity entities place entity).keyed (keys place)) := by
      rw [resolve?_related, hentity]
      rfl
    have hclear := hall place (by simpa using hlt) _ hfound
    exact hclear
  · refine Or.inr ⟨?_, _, _, herror⟩
    rw [resolve?_related] at he
    obtain ⟨entity, hentity, rfl⟩ := Option.map_eq_some_iff.1 he
    exact composite_of_clashes hf hn hr hs hentity hin hclash

end Composite

/-! ## Success -/

/-- Entities that can be related, and the keys that they then have. -/
structure Relates (entities : List Entity) (keys : Nat → Option PrimaryKey) : Prop where
  resolved : Resolved entities
  supported : checkIdRelationships (Registry.unfrozen (related entities)).slots = .ok ()
  settled : Settled (related entities) keys []
  simple : checkManyToMany (.unfrozen (withKeys (related entities) keys))
    (Registry.unfrozen (withKeys (related entities) keys)).places = .ok ()

/-- Relating that succeeds has found all targets, has settled all keys, and no check has refused
anything. -/
theorem relates_of_relate (hf : ∀ entity ∈ entities, entity.IsFilled)
    (h : (relate (.unfrozen entities)).2 = .ok ()) : ∃ keys, Relates entities keys ∧
      relate (.unfrozen entities) = (.unfrozen (withKeys (related entities) keys), .ok ()) := by
  rcases resolve_outcome hf with ⟨hr, hresolve⟩ | ⟨_, _, _, _, herror⟩
  swap
  · rw [herror] at h
    cases h
  rw [relate_eq hresolve] at h ⊢
  rcases support_outcome hf with ⟨-, hsupport⟩ | ⟨_, _, _, _, _, herror⟩
  swap
  · rw [herror] at h
    cases h
  rw [hsupport] at h ⊢
  dsimp only at h ⊢
  unfold keyAndCheck at h ⊢
  rcases deriveKeys_outcome (keyable_related hf hr) (primaryKey_related hf) with
    ⟨-, keys, hderive, hsettled⟩ | ⟨-, _, _, herror⟩
  swap
  · simp only [herror] at h
    cases h
  rw [hderive] at h ⊢
  dsimp only at h ⊢
  exact ⟨keys, ⟨hr, hsupport, hsettled, h⟩, by rw [h]⟩

end EntityPipeline
