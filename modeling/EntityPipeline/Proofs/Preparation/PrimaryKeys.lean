-- Keys by name. Deriving keys comes to an end on every registry, fails just when some entity is
-- identified by itself, and else gives every entity the identifiers that its definition unfolds to.
-- The unfolding looks entities up by name, so no key depends on the order of registration.
import EntityPipeline.Proofs.Preparation.Relating

namespace EntityPipeline

variable {entities : List Entity} {entity : Entity} {place : Nat} {name : String}
  {registry ready : Registry}

/-! ## Unfolding by name -/

/-- The identifiers borrowed over the declared relationships, given those of each name. -/
def EntityDefinition.borrowed (definition : EntityDefinition) (ids : String → List PrimaryKeyId) :
    List PrimaryKeyId :=
  (definition.relationships.filter RelationshipDefinition.isId).flatMap fun relationship =>
    (ids relationship.otherEntity).map (PrimaryKeyId.derived relationship.effectiveName)

/-- The identifiers of the entity of a name, unfolded: its own ones in the order of its fields,
then for each identifying relationship, in the order declared, those of the other entity. -/
inductive UnfoldsTo (entities : List Entity) : String → List PrimaryKeyId → Prop
  | intro {entity : Entity} (ids : String → List PrimaryKeyId) :
      entity ∈ entities →
      (∀ r ∈ entity.definition.relationships, r.isId = true →
        UnfoldsTo entities r.otherEntity (ids r.otherEntity)) →
      UnfoldsTo entities entity.name (entity.ownIds ++ entity.definition.borrowed ids)

theorem EntityDefinition.borrowed_congr {definition : EntityDefinition}
    {ids ids' : String → List PrimaryKeyId}
    (h : ∀ r ∈ definition.relationships, r.isId = true → ids r.otherEntity = ids' r.otherEntity) :
    definition.borrowed ids = definition.borrowed ids' := by
  refine List.flatMap_congr fun r hr => ?_
  obtain ⟨hr, hid⟩ := List.mem_filter.1 hr
  rw [h r hr hid]

theorem UnfoldsTo.elim {ids : List PrimaryKeyId} (h : UnfoldsTo entities name ids) :
    ∃ entity ∈ entities, ∃ all : String → List PrimaryKeyId, entity.name = name ∧
      (∀ r ∈ entity.definition.relationships, r.isId = true →
        UnfoldsTo entities r.otherEntity (all r.otherEntity)) ∧
      ids = entity.ownIds ++ entity.definition.borrowed all := by
  cases h with
  | intro all hin hunfolds => exact ⟨_, hin, all, rfl, hunfolds, rfl⟩

/-- A name unfolds to one list of identifiers at most. -/
theorem UnfoldsTo.unique (hn : (entities.map Entity.name).Nodup) {ids ids' : List PrimaryKeyId}
    (h : UnfoldsTo entities name ids) (h' : UnfoldsTo entities name ids') : ids = ids' := by
  induction h generalizing ids' with
  | @intro entity all hin _ ih =>
    obtain ⟨other, hother, all', hname, hunfolds', rfl⟩ := h'.elim
    obtain rfl := List.inj_on_of_nodup_map hn hother hin hname
    congr 1
    exact EntityDefinition.borrowed_congr fun r hr hid => ih r hr hid (hunfolds' r hr hid)

/-- What a name unfolds to does not depend on the order of the entities. -/
theorem UnfoldsTo.mono {others : List Entity} (h : entities ⊆ others) {ids : List PrimaryKeyId}
    (hunfolds : UnfoldsTo entities name ids) : UnfoldsTo others name ids := by
  induction hunfolds with
  | intro all hin _ ih => exact .intro all (h hin) ih

/-- What related entities borrow over places, their definitions borrow over names. -/
theorem borrowed_relatedEntity (entities : List Entity) (place : Nat) (entity : Entity)
    (ids : Nat → List PrimaryKeyId) :
    (relatedEntity entities place entity).borrowed ids =
      entity.definition.borrowed fun name => ids (placeIn entities name) := by
  unfold Entity.borrowed EntityDefinition.borrowed
  rw [idRelationships_relatedEntity, List.flatMap_map]
  rfl

theorem unfoldsTo_of_unfolds (hf : ∀ entity ∈ entities, entity.IsFilled) (hr : Resolved entities)
    {ids : List PrimaryKeyId} (h : Unfolds (related entities) place ids) :
    UnfoldsTo entities (nameAt entities place) ids := by
  induction h with
  | @intro place e all hentity _ _ ih =>
    rw [getElem?_related] at hentity
    obtain ⟨entity, hplace, rfl⟩ := Option.map_eq_some_iff.1 hentity
    rw [nameAt_eq hplace, borrowed_relatedEntity]
    refine UnfoldsTo.intro _ (List.mem_of_getElem? hplace) fun r hrel hid => ?_
    have hdeclared := (declaredBy_iff hf).2 ⟨place, entity, hplace, rfl, hrel⟩
    obtain ⟨found, hfound, hname⟩ := getElem?_placeIn (hr _ _ hdeclared)
    have hchild := ih (declaredRelationship r (placeIn entities r.otherEntity)) (by
      rw [idRelationships_relatedEntity]
      exact List.mem_map_of_mem (List.mem_filter.2 ⟨hrel, hid⟩)) _ rfl
    rwa [nameAt_eq hfound, hname] at hchild

/-! ## Registries with prepared fields -/

/-- A registry that was loaded afresh and whose fields were prepared without a failure; the
entities may have been named in between. -/
inductive FieldsPrepared : Registry → Prop
  | intro {phases : List Phase} (before : Context) :
      phases = [.load, .fields] ∨ phases = [.load, .names, .fields] →
      (Action.forEach Phase.run phases before).result = .ok () →
      FieldsPrepared (Action.forEach Phase.run phases before).state.entities

/-- Preparing the fields of bare entities leaves filled ones, unless it fails. -/
theorem filled_of_prepareFields {context : Context} (hopen : context.entities = .unfrozen entities)
    (hb : ∀ entity ∈ entities, entity.IsBare) (hn : (entities.map Entity.name).Nodup)
    (h : (Action.forEach Phase.run [.fields] context).result = .ok ()) :
    ∃ filled, (Action.forEach Phase.run [.fields] context).state.entities = .unfrozen filled ∧
      (∀ entity ∈ filled, entity.IsFilled) ∧ (filled.map Entity.name).Nodup := by
  obtain ⟨hok, _, hstate⟩ := forEach_cons_eq_ok h
  rcases prepareFields_outcome hopen hb with
    ⟨filled, heq, hdefs, hfilled, _⟩ | ⟨_, _, _, _, _, herror⟩
  · refine ⟨filled, ?_, hfilled, ?_⟩
    · rw [hstate]
      exact congrArg (·.state.entities) heq
    · have hnames : filled.map Entity.name = entities.map Entity.name := by
        rw [List.map_congr_left fun e he => (hfilled e he).name,
          List.map_congr_left fun e he => (hb e he).name]
        simpa only [List.map_map, Function.comp_def] using
          congrArg (List.map EntityDefinition.name) hdefs
      rwa [hnames]
  · have herror : (Phase.run .fields context).result = _ := herror
    rw [hok] at herror
    cases herror

/-- Prepared fields leave filled entities under distinct names. -/
theorem FieldsPrepared.filled (h : FieldsPrepared registry) :
    ∃ entities, registry = .unfrozen entities ∧ (∀ entity ∈ entities, entity.IsFilled) ∧
      (entities.map Entity.name).Nodup := by
  obtain ⟨before, hphases, hok⟩ := h
  have hbare : ∀ entity ∈ bareEntities before, entity.IsBare := fun _ => isBare_of_mem_bareEntities
  rcases hphases with rfl | rfl
  · obtain ⟨hload, hok, hstate⟩ := forEach_cons_eq_ok hok
    obtain ⟨hnodup, hloaded⟩ := loadEntities_ok hload
    rw [hstate]
    exact filled_of_prepareFields (congrArg (·.state.entities) hloaded) hbare hnodup hok
  · obtain ⟨hload, hok, hstate⟩ := forEach_cons_eq_ok hok
    obtain ⟨_, hok, hstate'⟩ := forEach_cons_eq_ok hok
    obtain ⟨hnodup, hloaded⟩ := loadEntities_ok hload
    rw [hstate, hstate']
    -- naming keeps the names that entities are registered under, and nothing else matters here
    have hnamed := prepareEntities_eq (congrArg (·.state.entities) hloaded)
    refine filled_of_prepareFields (congrArg (·.state.entities) hnamed) ?_ ?_ hok
    · rw [List.forall_mem_map]
      intro entity hin
      obtain ⟨hname, hfields, hrelationships, hkey⟩ := hbare entity hin
      exact ⟨hname, hfields, hrelationships, hkey⟩
    · rw [List.map_map]
      exact hnodup

/-- Where fields are prepared, relating that succeeds leaves the filled entities with all their
relationships and keys. -/
theorem FieldsPrepared.relates {context : Context} (hfields : FieldsPrepared context.entities)
    (h : (prepareRelationships context).result = .ok ()) : ∃ entities keys,
      (∀ entity ∈ entities, entity.IsFilled) ∧ (entities.map Entity.name).Nodup ∧
      Relates entities keys ∧ prepareRelationships context =
        ⟨.ok (), { context with entities := .unfrozen (withKeys (related entities) keys) }, []⟩ := by
  obtain ⟨entities, heq, hf, hn⟩ := hfields.filled
  have h : (relate context.entities).2 = .ok () := h
  rw [heq] at h
  obtain ⟨keys, hrelates, hrelate⟩ := relates_of_relate hf h
  refine ⟨entities, keys, hf, hn, hrelates, ?_⟩
  unfold prepareRelationships
  rw [heq, hrelate]

/-! ## Deriving -/

/-- As many passes as entities wait are enough: more of them change nothing. -/
theorem borrowKeys_congr {passes enough : Nat} {waiting : List Nat} {registry : Registry}
    (hp : waiting.length ≤ passes) (he : waiting.length ≤ enough) :
    borrowKeys passes registry waiting = borrowKeys enough registry waiting := by
  induction passes generalizing enough registry waiting with
  | zero =>
    obtain rfl := List.length_eq_zero_iff.1 (Nat.le_zero.1 hp)
    cases enough <;> rfl
  | succ passes ih =>
    cases waiting with
    | nil => cases enough <;> rfl
    | cons place rest =>
      obtain ⟨enough, rfl⟩ : ∃ n, enough = n + 1 :=
        Nat.exists_eq_add_one_of_ne_zero (Nat.ne_zero_of_lt (Nat.lt_of_succ_le he))
      unfold borrowKeys
      simp only
      split
      · rfl
      · split
        · rename_i hless
          rw [List.length_cons] at hp he
          exact ih (Nat.le_of_lt_succ (Nat.lt_of_lt_of_le hless hp))
            (Nat.le_of_lt_succ (Nat.lt_of_lt_of_le hless he))
        · rfl

/-- What a registry is once its declared relationships have their targets and the other sides that
were missing are added: the registry that keys are derived in. -/
def SidesAdded (registry ready : Registry) : Prop :=
  ∃ relationships slots, resolveAll registry registry.slots = .ok relationships ∧
    setRelationships registry.slots relationships = (slots, .ok ()) ∧
    appendAll ⟨slots⟩ (missingInverses ⟨slots⟩) = (ready, .ok ())

/-- The relationships that the entities of a registry declare all lead to registered entities. -/
def TargetsResolve (registry : Registry) : Prop :=
  ∀ entity ∈ registry.entities, ∀ r ∈ entity.definition.relationships,
    (registry.placeOf? r.otherEntity).isSome = true

theorem resolved_of_targetsResolve (hf : ∀ entity ∈ entities, entity.IsFilled)
    (h : TargetsResolve (.unfrozen entities)) : Resolved entities := by
  intro name relationship hdeclared
  obtain ⟨place, entity, hentity, _, hr⟩ := (declaredBy_iff hf).1 hdeclared
  have hfound := h entity (by simpa using List.mem_of_getElem? hentity) relationship hr
  by_contra hmissing
  rw [placeOf?_unfrozen_eq_none hmissing] at hfound
  cases hfound

theorem sidesAdded_iff (hf : ∀ entity ∈ entities, entity.IsFilled) (hr : Resolved entities) :
    SidesAdded (.unfrozen entities) ready ↔ ready = .unfrozen (related entities) := by
  have hresolve : resolveAll (.unfrozen entities) (Registry.unfrozen entities).slots =
      .ok (entities.map fun entity => (withDeclared entities entity).relationships) := by
    rcases resolve_outcome hf with ⟨_, hok⟩ | ⟨name, relationship, hdeclared, hmissing, _⟩
    · exact hok
    · exact absurd (hr name relationship hdeclared) hmissing
  have hset := setRelationships_eq entities entities
  have happend := appendAll_missingInverses entities
  constructor
  · rintro ⟨relationships, slots, hrelationships, hslots, hready⟩
    rw [hresolve] at hrelationships
    cases hrelationships
    rw [hset] at hslots
    cases hslots
    exact (congrArg Prod.fst (hready.symm.trans happend))
  · rintro rfl
    exact ⟨_, _, hresolve, hset, happend⟩

/-- The key of the entity of a name. -/
def Registry.keyOf? (registry : Registry) (name : String) : Option PrimaryKey :=
  (registry.get? name).bind Entity.primaryKey

/-- The failure of a registry in which some entities borrow from each other in a circle. -/
def IsCircleFailure (failure : Failure) : Prop :=
  ∃ owner relationship, failure = .invalidRelationship owner relationship
    "id relationships form a cycle, no primary key can be derived"

/-- Some entity is identified by itself, directly or through others. -/
def IdentifiesItself (entities : List Entity) : Prop :=
  ∃ name, Relation.TransGen (IdentifiedBy (entities.map Entity.definition)) name name

/-- The key of an entity over the identifiers that its name unfolds to. -/
def HasUnfoldedKey (entities : List Entity) (entity : Entity) : Prop :=
  ∃ key, entity.primaryKey = some key ∧ UnfoldsTo entities entity.name key.ids ∧
    PrimaryKey.ofIds entity.names.className key.ids entity.definition.hasIdRelationship = some key

theorem isEmpty_idRelationships (entities : List Entity) (place : Nat) (entity : Entity) :
    (!(relatedEntity entities place entity).idRelationships.isEmpty) =
      entity.definition.hasIdRelationship := by
  rw [idRelationships_relatedEntity, EntityDefinition.hasIdRelationship, List.isEmpty_map]
  induction entity.definition.relationships with
  | nil => rfl
  | cons r rest ih =>
    rw [List.filter_cons, List.any_cons]
    cases r.isId with
    | true => rfl
    | false => simpa using ih

/-- Where no entity waits any more, every one has the key over what its name unfolds to. -/
theorem Settled.hasUnfoldedKey (hf : ∀ entity ∈ entities, entity.IsFilled)
    (hr : Resolved entities) {keys : Nat → Option PrimaryKey}
    (hs : Settled (related entities) keys []) (h : entities[place]? = some entity) :
    HasUnfoldedKey entities ((relatedEntity entities place entity).keyed (keys place)) := by
  obtain ⟨ids, hunfolds, hne, hkey⟩ := hs.unfolded place _ (getElem?_related_of h) (by simp)
  have hname := unfoldsTo_of_unfolds hf hr hunfolds
  rw [nameAt_eq h] at hname
  obtain ⟨key, hsome⟩ := Option.isSome_iff_exists.1 (isSome_ofIds hne)
  rw [Entity.keyOf, hsome] at hkey
  have hids := (ids_of_ofIds hsome).1
  refine ⟨key, hkey, hids ▸ hname, ?_⟩
  rw [isEmpty_idRelationships] at hsome
  rw [hids]
  exact hsome

/-- What deriving keys comes to: it ends, it fails just where some entity is identified by itself,
it else gives every entity the key that its definition unfolds to, and that key does not depend on
the order of registration. -/
structure DerivesUnfoldedKeys (registry ready : Registry) : Prop where
  ends : ∃ own waiting, ownKeys ready ready.places = (own, waiting, .ok ()) ∧
    ∀ passes, waiting.length ≤ passes → borrowKeys passes own waiting = deriveKeys ready
  fails : (∃ failure, (deriveKeys ready).2 = .error failure ∧ IsCircleFailure failure) ↔
    IdentifiesItself registry.entities
  succeeds : ¬IdentifiesItself registry.entities → (deriveKeys ready).2 = .ok () ∧
    (deriveKeys ready).1.names = registry.names ∧
    ∀ entity ∈ (deriveKeys ready).1.entities, HasUnfoldedKey registry.entities entity
  order_free : ¬IdentifiesItself registry.entities → ∀ other otherReady, FieldsPrepared other →
    other.entities.Perm registry.entities → SidesAdded other otherReady →
    ∀ name, (deriveKeys otherReady).1.keyOf? name = (deriveKeys ready).1.keyOf? name

section Filled

variable (hf : ∀ entity ∈ entities, entity.IsFilled) (hn : (entities.map Entity.name).Nodup)
  (hr : Resolved entities)

include hf hn hr in
/-- Keys are derived in related entities, or the failure tells of a circle. -/
theorem deriveKeys_related :
    (¬IdentifiesItself entities ∧ ∃ keys, deriveKeys (.unfrozen (related entities)) =
        (.unfrozen (withKeys (related entities) keys), .ok ()) ∧
      Settled (related entities) keys []) ∨
    IdentifiesItself entities ∧ ∃ failure,
      (deriveKeys (.unfrozen (related entities))).2 = .error failure ∧ IsCircleFailure failure := by
  have hends := borrowingEnds_related hf hn hr
  rcases deriveKeys_outcome (keyable_related hf hr) (primaryKey_related hf) with
    ⟨hend, hkeys⟩ | ⟨hcircle, owner, relationship, herror⟩
  · refine Or.inl ⟨?_, hkeys⟩
    rintro ⟨name, hname⟩
    exact hends.1 hend name hname
  · refine Or.inr ⟨?_, _, herror, owner, relationship, rfl⟩
    rw [hends] at hcircle
    push Not at hcircle
    exact hcircle

omit hn in
include hf hr in
/-- A registered name has the key over what it unfolds to, and no other name has one. -/
theorem keyOf?_of_settled {keys : Nat → Option PrimaryKey}
    (hs : Settled (related entities) keys []) (name : String) :
    (name ∉ entities.map Entity.name ∧
      (Registry.unfrozen (withKeys (related entities) keys)).keyOf? name = none) ∨
    ∃ entity ∈ entities, entity.name = name ∧ ∃ ids, UnfoldsTo entities name ids ∧
      (Registry.unfrozen (withKeys (related entities) keys)).keyOf? name =
        PrimaryKey.ofIds entity.names.className ids entity.definition.hasIdRelationship := by
  have hnames := names_withKeys_related entities keys
  unfold Registry.keyOf?
  rw [Registry.get?_unfrozen]
  cases hfind : (withKeys (related entities) keys).find? (·.name == name) with
  | none =>
    refine Or.inl ⟨fun hin => ?_, rfl⟩
    rw [← hnames] at hin
    obtain ⟨entity, hentity, hname⟩ := List.mem_map.1 hin
    exact List.find?_eq_none.1 hfind entity hentity (beq_iff_eq.2 hname)
  | some found =>
    have hname : found.name = name := by simpa using List.find?_some hfind
    obtain ⟨place, entity, hentity, rfl⟩ :=
      exists_of_mem_withKeys_related (List.mem_of_find?_eq_some hfind)
    obtain ⟨key, hkey, hunfolds, hids⟩ := hs.hasUnfoldedKey hf hr hentity
    refine Or.inr ⟨entity, List.mem_of_getElem? hentity, hname, key.ids, hname ▸ hunfolds, ?_⟩
    exact hkey.trans hids.symm

end Filled

/-- Entities in another order have the same keys. -/
theorem keyOf?_of_perm {others : List Entity} (h : others.Perm entities)
    (hf : ∀ entity ∈ entities, entity.IsFilled) (hn : (entities.map Entity.name).Nodup)
    (hr : Resolved entities) {keys keys' : Nat → Option PrimaryKey}
    (hs : Settled (related entities) keys [])
    (hr' : Resolved others) (hs' : Settled (related others) keys' []) (name : String) :
    (Registry.unfrozen (withKeys (related others) keys')).keyOf? name =
      (Registry.unfrozen (withKeys (related entities) keys)).keyOf? name := by
  have hf' : ∀ entity ∈ others, entity.IsFilled := fun e he => hf e (h.mem_iff.1 he)
  rcases keyOf?_of_settled hf' hr' hs' name with
      ⟨hout', hnone'⟩ | ⟨entity', hin', hname', ids', hunfolds', hkey'⟩ <;>
    rcases keyOf?_of_settled hf hr hs name with
      ⟨hout, hnone⟩ | ⟨entity, hin, hname, ids, hunfolds, hkey⟩
  · rw [hnone, hnone']
  · exact absurd ((h.map _).mem_iff.2 (hname ▸ List.mem_map_of_mem hin)) hout'
  · exact absurd ((h.map _).mem_iff.1 (hname' ▸ List.mem_map_of_mem hin')) hout
  · have hsame := List.inj_on_of_nodup_map hn (h.mem_iff.1 hin') hin (hname'.trans hname.symm)
    have hids := (hunfolds'.mono h.subset).unique hn hunfolds
    rw [hkey, hkey', hsame, hids]

theorem resolved_of_perm {others : List Entity} (h : others.Perm entities) (hr : Resolved entities) :
    Resolved others := by
  intro name relationship hdeclared
  rw [declaredBy_of_perm (h.map _)] at hdeclared
  exact (h.map _).mem_iff.2 (hr name relationship hdeclared)

theorem identifiesItself_of_perm {others : List Entity} (h : others.Perm entities) :
    IdentifiesItself others ↔ IdentifiesItself entities := by
  unfold IdentifiesItself IdentifiedBy
  rw [declaredBy_of_perm (h.map _)]

/-- Keys are derived by passes, but they are what unfolding the definitions gives: in every
registry with prepared fields whose relationships lead to registered entities. -/
theorem keys_are_unfolded_definitions (registry : Registry) (h : FieldsPrepared registry)
    (htargets : TargetsResolve registry) :
    ∃ ready, SidesAdded registry ready ∧ DerivesUnfoldedKeys registry ready := by
  obtain ⟨entities, rfl, hf, hn⟩ := h.filled
  have hr := resolved_of_targetsResolve hf htargets
  have hderive := deriveKeys_related hf hn hr
  refine ⟨_, (sidesAdded_iff hf hr).2 rfl, ?_, ?_, ?_, ?_⟩
  · obtain ⟨keys, waiting, hown, _⟩ :=
      ownKeys_start (keyable_related hf hr) (primaryKey_related hf)
    refine ⟨_, waiting, hown, fun passes hpasses => ?_⟩
    unfold deriveKeys
    rw [hown]
    exact borrowKeys_congr hpasses (Nat.le_refl _)
  · rw [Registry.entities_unfrozen]
    rcases hderive with ⟨hnone, keys, hok, _⟩ | ⟨hself, hfailure⟩
    · rw [hok]
      refine ⟨?_, fun hself => absurd hself hnone⟩
      rintro ⟨_, herror, _⟩
      cases herror
    · exact ⟨fun _ => hself, fun _ => hfailure⟩
  · rw [Registry.entities_unfrozen]
    intro hnone
    obtain ⟨keys, hok, hsettled⟩ := (hderive.resolve_right fun hself => hnone hself.1).2
    rw [hok, Registry.names_unfrozen, Registry.names_unfrozen, Registry.entities_unfrozen]
    refine ⟨rfl, names_withKeys_related entities keys, fun e he => ?_⟩
    obtain ⟨place, former, hformer, rfl⟩ := exists_of_mem_withKeys_related he
    exact hsettled.hasUnfoldedKey hf hr hformer
  · rw [Registry.entities_unfrozen]
    intro hnone other otherReady hother hperm hsides name
    obtain ⟨others, rfl, hf', hn'⟩ := hother.filled
    rw [Registry.entities_unfrozen] at hperm
    have hr' : Resolved others := resolved_of_perm hperm hr
    obtain rfl := (sidesAdded_iff hf' hr').1 hsides
    have hnone' : ¬IdentifiesItself others := mt (identifiesItself_of_perm hperm).1 hnone
    obtain ⟨keys, hok, hsettled⟩ := (hderive.resolve_right fun hself => hnone hself.1).2
    obtain ⟨keys', hok', hsettled'⟩ :=
      ((deriveKeys_related hf' hn' hr').resolve_right fun hself => hnone' hself.1).2
    rw [hok, hok']
    exact keyOf?_of_perm hperm hf hn hr hsettled hr' hsettled' name

/-- A chain of entities that are identified by each other, the last one first. -/
def parcelDefinitions : List EntityDefinition := [
  { name := "Parcel"
    fields := [{ name := "number", type := "Integer", id := some true }]
    relationships := [{ cardinality := .manyToOne, otherEntity := "Shipment", id := some true }] },
  { name := "Shipment"
    relationships := [{ cardinality := .manyToOne, otherEntity := "Depot", id := some true }] },
  { name := "Depot" }]

/-- The registry of the chain with its fields prepared. -/
def parcelRegistry : Registry :=
  (Action.forEach Phase.run [.load, .names, .fields]
    (.ofDefinitions { skipUserManagement := true } parcelDefinitions)).state.entities

theorem parcels_have_unfolded_keys : FieldsPrepared parcelRegistry ∧
    TargetsResolve parcelRegistry ∧
    ∃ ready, SidesAdded parcelRegistry ready ∧ DerivesUnfoldedKeys parcelRegistry ready :=
  have hfields : FieldsPrepared parcelRegistry := .intro _ (Or.inr rfl) rfl
  have htargets : TargetsResolve parcelRegistry := by
    unfold TargetsResolve
    decide +kernel
  ⟨hfields, htargets, keys_are_unfolded_definitions _ hfields htargets⟩

end EntityPipeline
