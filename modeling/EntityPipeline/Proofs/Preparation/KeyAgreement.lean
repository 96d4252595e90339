-- Keys beside fields and relationships. What identifies an entity is worked out three times: the
-- flags of its fields follow from the declared ones, its relationships get theirs when they are
-- resolved, and the key is derived from identifiers, some of which come from other entities. Where
-- the whole preparation succeeds, the three agree.
import EntityPipeline.Proofs.Preparation.Freezing
import EntityPipeline.Proofs.Preparation.PrimaryKeys
import EntityPipeline.Proofs.Preparation.Views
import EntityPipeline.Proofs.Run.Sequences

namespace EntityPipeline

variable {definition : EntityDefinition} {fields : List Field}
  {relationships : List Relationship} {field : Field} {key : PrimaryKey}

/-! ## What agrees -/

/-- A field that is the whole primary key, and whose values a database can generate. -/
structure Generates (fields : List Field) (relationships : List Relationship) (field : Field) :
    Prop where
  only_id : fields.filter Field.id = [field]
  generatable : field.type = .long ∨ field.type = .integer ∨ field.type = .uuid
  nothing_borrowed : ∀ r ∈ relationships, r.id = false

/-- A key tells of the same identifiers as fields and relationships do. -/
structure PrimaryKey.AgreesWith (key : PrimaryKey) (fields : List Field)
    (relationships : List Relationship) : Prop where
  nonempty : key.ids ≠ []
  composite : key.composite = true ↔ 2 ≤ key.ids.length
  single : ∀ id, key.ids = [id] → key.type = .single id.type
  derived : key.derived = true ↔ ∃ r ∈ relationships, r.id = true
  generated : key.autoGenerate = true ↔ ∃ field, Generates fields relationships field
  generated_field : ∀ field, Generates fields relationships field →
    fields.filter Field.autoGenerate = [field]
  none_generated : (∀ field, ¬Generates fields relationships field) →
    ∀ field ∈ fields, field.autoGenerate = false
  fixed : ∀ field ∈ fields, field.id = true → field.readonly = true ∧ field.nullable = false

/-! ## Fields -/

/-- Fields that have the flags of identifiers that their definition asks for. -/
structure EntityDefinition.Flags (definition : EntityDefinition) (fields : List Field) : Prop where
  fixed : ∀ field ∈ fields, field.id = true → field.readonly = true ∧ field.nullable = false
  generated : ∀ field ∈ fields, field.autoGenerate = true ↔ field.id = true ∧
    (fields.filter Field.id).length = 1 ∧ definition.hasIdRelationship = false ∧
    field.type.isAutoGeneratable = true

theorem isAutoGeneratable_iff {type : FieldType} :
    type.isAutoGeneratable = true ↔ type = .long ∨ type = .integer ∨ type = .uuid := by
  cases type <;> simp [FieldType.isAutoGeneratable]

theorem flags_of_entityFields {entity : Entity} {config : ApplicationConfig}
    (h : entityFields entity config = .ok fields) : entity.definition.Flags fields := by
  unfold entityFields at h
  dsimp only at h
  rw [prepareEach_eq] at h
  have hids := length_ids_of_mapM h
  have hprepared : ∀ field ∈ fields, ∃ definition type builtIn, field =
      preparedField entity config definition type builtIn
        (hasSingleId entity.definition (plannedFields entity.definition config)) := by
    intro field hin
    obtain ⟨planned, -, hfield⟩ := exists_source_of_mapM h field hin
    obtain ⟨type, -, heq⟩ := eq_preparedField hfield
    exact ⟨_, type, _, heq⟩
  constructor
  · intro field hin hid
    obtain ⟨definition, type, builtIn, rfl⟩ := hprepared field hin
    have hid : definition.isId = true := hid
    simp [preparedField, hid]
  · intro field hin
    obtain ⟨definition, type, builtIn, rfl⟩ := hprepared field hin
    rw [hids]
    simp [preparedField, hasSingleId, and_assoc]

theorem Slot.exists_of_mem_changeAll {change : Entity → Except Failure Entity} {slots : List Slot}
    (h : (changeAll change slots).2 = .ok ()) :
    ∀ slot ∈ (changeAll change slots).1, ∃ former, change former = .ok slot.entity := by
  induction slots with
  | nil => exact List.forall_mem_nil _
  | cons slot rest ih =>
    unfold changeAll at h ⊢
    split at h
    · cases h
    · split at h
      · cases h
      · rename_i hopen _ entity hentity
        rw [if_neg hopen]
        show ∀ changed ∈ { slot with entity } :: (changeAll change rest).1, _
        exact List.forall_mem_cons.2 ⟨⟨slot.entity, hentity⟩, ih h⟩

/-- The fields of every entity are prepared from its definition. -/
theorem entityFields_of_prepareFields {context : Context}
    (h : (prepareFields context).result = .ok ()) :
    ∀ entity ∈ (prepareFields context).state.entities.entities, ∃ former,
      former.definition = entity.definition ∧ former.builtIn = entity.builtIn ∧
        entityFields former context.config = .ok entity.fields := by
  refine List.forall_mem_map.2 fun slot hslot => ?_
  obtain ⟨former, hfill⟩ := Slot.exists_of_mem_changeAll h slot hslot
  obtain ⟨fields, hfields, heq⟩ := fill_ok hfill
  rw [heq]
  exact ⟨former, rfl, rfl, hfields⟩

theorem FieldsPrepared.flags {registry : Registry} (h : FieldsPrepared registry) :
    ∀ entity ∈ registry.entities, entity.definition.Flags entity.fields := by
  obtain ⟨before, hphases, hok⟩ := h
  have hlast (context : Context)
      (hok : (Action.forEach Phase.run [.fields] context).result = .ok ()) :
      ∀ entity ∈ (Action.forEach Phase.run [.fields] context).state.entities.entities,
        entity.definition.Flags entity.fields := by
    obtain ⟨hfields, -, hstate⟩ := forEach_cons_eq_ok hok
    rw [hstate]
    intro entity hin
    obtain ⟨former, hdefinition, -, hformer⟩ := entityFields_of_prepareFields hfields entity hin
    exact hdefinition ▸ flags_of_entityFields hformer
  rcases hphases with rfl | rfl
  · obtain ⟨-, hok, hstate⟩ := forEach_cons_eq_ok hok
    rw [hstate]
    exact hlast _ hok
  · obtain ⟨-, hok, hstate⟩ := forEach_cons_eq_ok hok
    obtain ⟨-, hok, hstate'⟩ := forEach_cons_eq_ok hok
    rw [hstate, hstate']
    exact hlast _ hok

section Flags

variable (h : definition.Flags fields)
  (hborrows : definition.hasIdRelationship = true ↔ ∃ r ∈ relationships, r.id = true)
include h hborrows

/-- A field is generated just when it is the whole key and of a type that can be. -/
theorem EntityDefinition.Flags.generates_iff (field : Field) :
    Generates fields relationships field ↔ field ∈ fields ∧ field.autoGenerate = true := by
  have hnone : definition.hasIdRelationship = false ↔ ∀ r ∈ relationships, r.id = false := by
    rw [← Bool.not_eq_true, hborrows]
    simp
  constructor
  · rintro ⟨hone, htype, hrelationships⟩
    have hin : field ∈ fields.filter Field.id := hone ▸ List.mem_singleton_self field
    obtain ⟨hin, hid⟩ := List.mem_filter.1 hin
    exact ⟨hin, (h.generated field hin).2 ⟨hid, by rw [hone]; rfl, hnone.2 hrelationships,
      isAutoGeneratable_iff.2 htype⟩⟩
  · rintro ⟨hin, hauto⟩
    obtain ⟨hid, hlength, hrelationships, htype⟩ := (h.generated field hin).1 hauto
    obtain ⟨other, hone⟩ := List.length_eq_one_iff.1 hlength
    have hfield : field ∈ fields.filter Field.id := List.mem_filter.2 ⟨hin, hid⟩
    rw [hone, List.mem_singleton] at hfield
    exact ⟨hfield ▸ hone, isAutoGeneratable_iff.1 htype, hnone.1 hrelationships⟩

/-- Where one field generates the key, no other field is generated. -/
theorem EntityDefinition.Flags.filter_autoGenerate (hfield : Generates fields relationships field) :
    fields.filter Field.autoGenerate = [field] := by
  have hauto := ((h.generates_iff hborrows field).1 hfield).2
  have hids : (fields.filter Field.id).filter Field.autoGenerate =
      fields.filter Field.autoGenerate := by
    rw [List.filter_filter]
    refine List.filter_congr fun other hin => ?_
    cases hother : other.autoGenerate with
    | false => rfl
    | true => exact ((h.generated other hin).1 hother).1
  rw [← hids, hfield.only_id, List.filter_cons_of_pos hauto, List.filter_nil]

end Flags

/-! ## Keys -/

section Keys

variable {entity : Entity} {entityClass : String} {ids : List PrimaryKeyId}
  (hflags : entity.definition.Flags entity.fields)
  (hborrows : entity.definition.hasIdRelationship = true ↔ ∃ r ∈ entity.relationships, r.id = true)
  (hown : entity.definition.hasIdRelationship = false → ids = entity.ownIds)
  (hkey : PrimaryKey.ofIds entityClass ids entity.definition.hasIdRelationship = some key)
include hflags hborrows hown hkey

/-- A key is generated when one of the fields generates it. -/
theorem autoGenerate_iff :
    key.autoGenerate = true ↔ ∃ field, Generates entity.fields entity.relationships field := by
  constructor
  · intro hauto
    rcases ofIds_cases hkey with ⟨id, rfl, rfl⟩ | ⟨-, rfl⟩
    · obtain ⟨hnone, hid⟩ :
          entity.definition.hasIdRelationship = false ∧ id.autoGenerate = true := by
        simpa [PrimaryKey.build] using hauto
      obtain ⟨field, hone, rfl⟩ := List.map_eq_singleton_iff.1 (hown hnone).symm
      have hin : field ∈ entity.fields.filter Field.id := hone ▸ List.mem_singleton_self field
      exact ⟨field, (hflags.generates_iff hborrows field).2 ⟨(List.mem_filter.1 hin).1, hid⟩⟩
    · cases hauto
  · rintro ⟨field, hfield⟩
    have hnone : entity.definition.hasIdRelationship = false := by
      rw [← Bool.not_eq_true, hborrows]
      rintro ⟨r, hr, hid⟩
      rw [hfield.nothing_borrowed r hr] at hid
      cases hid
    rw [hown hnone, hnone, Entity.ownIds, hfield.only_id] at hkey
    obtain rfl := Option.some.inj hkey
    exact ((hflags.generates_iff hborrows field).1 hfield).2

/-- A key over the identifiers of the fields, or over borrowed ones as well, agrees with the fields
and the relationships. -/
theorem agreesWith_of_ofIds : key.AgreesWith entity.fields entity.relationships := by
  have hgenerates := hflags.generates_iff hborrows
  obtain ⟨hnonempty, hcomposite, hsingle, hderived⟩ : key.ids ≠ [] ∧
      (key.composite = true ↔ 2 ≤ key.ids.length) ∧
      (∀ id, key.ids = [id] → key.type = .single id.type) ∧
      key.derived = entity.definition.hasIdRelationship := by
    rcases ofIds_cases hkey with ⟨id, rfl, rfl⟩ | ⟨hlength, rfl⟩
    · simp [PrimaryKey.build]
    · -- two identifiers or more are neither none nor one
      refine ⟨?_, iff_of_true rfl hlength, ?_, rfl⟩
      · rintro rfl
        simp at hlength
      · rintro id rfl
        simp at hlength
  refine ⟨hnonempty, hcomposite, hsingle, by rw [hderived, hborrows],
    autoGenerate_iff hflags hborrows hown hkey,
    fun field => hflags.filter_autoGenerate hborrows, fun hnone field hin => ?_, hflags.fixed⟩
  rw [← Bool.not_eq_true]
  exact fun hauto => hnone field ((hgenerates field).2 ⟨hin, hauto⟩)

end Keys

/-! ## Relating -/

variable {entities : List Entity} {entity : Entity} {place : Nat} {keys : Nat → Option PrimaryKey}

theorem hasIdRelationship_iff (entities : List Entity) (place : Nat) (entity : Entity) :
    (relatedEntity entities place entity).definition.hasIdRelationship = true ↔
      ∃ r ∈ (relatedEntity entities place entity).relationships, r.id = true := by
  show entity.definition.hasIdRelationship = true ↔ _
  rw [← isEmpty_idRelationships entities place entity]
  simp [Entity.idRelationships]

/-- An entity without identifying relationships unfolds to its own identifiers. -/
theorem eq_ownIds_of_unfoldsTo (hn : (entities.map Entity.name).Nodup) (hin : entity ∈ entities)
    {ids : List PrimaryKeyId} (h : UnfoldsTo entities entity.name ids)
    (hnone : entity.definition.hasIdRelationship = false) : ids = entity.ownIds := by
  obtain ⟨other, hother, all, hname, -, rfl⟩ := h.elim
  obtain rfl := List.inj_on_of_nodup_map hn hother hin hname
  unfold EntityDefinition.borrowed
  rw [List.filter_eq_nil_iff.2 (List.any_eq_false.1 hnone), List.flatMap_nil, List.append_nil]

/-- The key of an entity is over its own identifiers, unless relationships add to them. -/
structure Entity.IsKeyed (entity : Entity) : Prop where
  borrows : entity.definition.hasIdRelationship = true ↔ ∃ r ∈ entity.relationships, r.id = true
  key : ∃ key ids, entity.primaryKey = some key ∧
    PrimaryKey.ofIds entity.names.className ids entity.definition.hasIdRelationship = some key ∧
    (entity.definition.hasIdRelationship = false → ids = entity.ownIds)

/-- Every entity is keyed with what it settles on. -/
theorem Relates.isKeyed (h : Relates entities keys) (hf : ∀ entity ∈ entities, entity.IsFilled)
    (hn : (entities.map Entity.name).Nodup) (hentity : entities[place]? = some entity) :
    ((relatedEntity entities place entity).keyed (keys place)).IsKeyed := by
  obtain ⟨key, hkey, hunfolds, hids⟩ := h.settled.hasUnfoldedKey hf h.resolved hentity
  exact ⟨hasIdRelationship_iff entities place entity, key, key.ids, hkey, hids,
    eq_ownIds_of_unfoldsTo hn (List.mem_of_getElem? hentity) hunfolds⟩

/-! ## The whole preparation -/

/-- Where fields are prepared, relating and freezing that succeed leave the filled entities with their
relationships, keys and sums. -/
theorem finished_of_fieldsPrepared {context : Context} (hfields : FieldsPrepared context.entities)
    (h : (Action.forEach Phase.run [.relationships, .freeze] context).result = .ok ()) :
    ∃ entities keys, (∀ entity ∈ entities, entity.IsFilled) ∧ (entities.map Entity.name).Nodup ∧
      Relates entities keys ∧
      (Action.forEach Phase.run [.relationships, .freeze] context).state.entities =
        ⟨(withKeys (related entities) keys).map
          (finished (.unfrozen (withKeys (related entities) keys)))⟩ := by
  obtain ⟨hrelate, hfreeze, hstate⟩ := forEach_cons_eq_ok h
  obtain ⟨entities, keys, hf, hn, hrelates, hkeyed⟩ := hfields.relates hrelate
  have hopen : (Phase.run .relationships context).state.entities =
      .unfrozen (withKeys (related entities) keys) := congrArg (·.state.entities) hkeyed
  have hdistinct : ((withKeys (related entities) keys).map Entity.name).Nodup :=
    names_withKeys_related entities keys ▸ hn
  obtain ⟨-, -, hstate'⟩ := forEach_cons_eq_ok hfreeze
  have hfinished : (Phase.run .freeze (Phase.run .relationships context).state).state = _ :=
    (postPrepareEntities_eq hopen hdistinct).2
  refine ⟨entities, keys, hf, hn, hrelates, ?_⟩
  rw [hstate, hstate', hfinished]
  rfl

/-- Where fields are prepared, relating and freezing that succeed leave every entity keyed. -/
theorem isKeyed_of_fieldsPrepared {context : Context} (hfields : FieldsPrepared context.entities)
    (h : (Action.forEach Phase.run [.relationships, .freeze] context).result = .ok ()) :
    ∀ entity ∈ (Action.forEach Phase.run [.relationships, .freeze] context).state.entities.entities,
      entity.IsKeyed := by
  obtain ⟨entities, keys, hf, hn, hrelates, hfinished⟩ := finished_of_fieldsPrepared hfields h
  rw [hfinished]
  -- freezing adds sums to the entities and leaves their keys as they are
  refine List.forall_mem_map.2 (List.forall_mem_map.2 fun entity hin => ?_)
  obtain ⟨place, former, hformer, rfl⟩ := exists_of_mem_withKeys_related hin
  obtain ⟨hborrows, hkey⟩ := hrelates.isKeyed hf hn hformer
  exact ⟨hborrows, hkey⟩

/-- What is true of entities whatever relationships, keys and sums they have stays true when they are
related and frozen. -/
theorem forall_related_frozen {context : Context} {P : Entity → Prop}
    (hP : ∀ (entity : Entity) relationships primaryKey aggregates,
      P { entity with relationships, primaryKey, aggregates } ↔ P entity)
    (h : ∀ entity ∈ context.entities.entities, P entity) :
    ∀ entity ∈ (Action.forEach Phase.run [.relationships, .freeze] context).state.entities.entities,
      P entity := by
  have hkept : (Action.forEach Phase.run [.relationships, .freeze]).LeavesAlone fun context =>
      context.entities.seen fun slot => P slot.entity := by
    refine .forEach (List.forall_mem_cons.2 ⟨fun context => ?_, List.forall_mem_singleton.2 ?_⟩)
    · exact seen_relate (fun key slot => propext (hP slot.entity _ (key slot.entity) _))
        fun relationships slot => propext (hP slot.entity (relationships slot.entity) _ _)
    · exact Phase.leavesAlone_freeze
        (seen_finishEntity (fun sums slot => propext (hP slot.entity _ _ sums)) fun _ => rfl)
  exact List.forall_mem_map.2 (forall_of_seen (P := fun holds => holds) (hkept context)
    (List.forall_mem_map.1 h))

/-- Where fields are prepared, relating and freezing that succeed leave every entity with a key that
agrees with its fields and relationships. -/
theorem agreesWith_of_fieldsPrepared {context : Context} (hfields : FieldsPrepared context.entities)
    (h : (Action.forEach Phase.run [.relationships, .freeze] context).result = .ok ()) :
    ∀ entity ∈ (Action.forEach Phase.run [.relationships, .freeze] context).state.entities.entities,
      ∃ key, entity.primaryKey = some key ∧
        key.AgreesWith entity.fields entity.relationships := by
  intro entity hin
  have hflags := forall_related_frozen (fun _ _ _ _ => Iff.rfl) hfields.flags entity hin
  obtain ⟨hborrows, key, ids, hkey, hids, hown⟩ := isKeyed_of_fieldsPrepared hfields h entity hin
  exact ⟨key, hkey, agreesWith_of_ofIds hflags hborrows hown hids⟩

/-- Every entity has a key that agrees with its fields and relationships, once all phases have gone
through without a failure. -/
theorem prepared_keys_agree_with_their_entities (context : Context)
    (h : (prepareAll context).result = .ok ()) :
    ∀ entity ∈ (prepareAll context).state.entities.entities, ∃ key,
      entity.primaryKey = some key ∧ key.AgreesWith entity.fields entity.relationships := by
  obtain ⟨-, hrest, hstate⟩ := forEach_cons_eq_ok h
  have hrest : (Action.forEach Phase.run ([.load, .names, .fields] ++ [.relationships, .freeze])
      (configureEntities context).state).result = .ok () := hrest
  obtain ⟨hok, hlast, hstate'⟩ := Action.forEach_append_eq_ok _ hrest
  have hprepared := FieldsPrepared.intro _ (Or.inr rfl) hok
  have hagrees := agreesWith_of_fieldsPrepared hprepared hlast
  rw [← hstate'] at hagrees
  unfold prepareAll Phase.all
  rw [hstate]
  exact hagrees

/-- The chain of parcels before anything is prepared. -/
def parcels : Context := .ofDefinitions { skipUserManagement := true } parcelDefinitions

theorem parcel_keys_agree : (prepareAll parcels).result = .ok () ∧
    (prepareAll parcels).state.entities.names = ["Parcel", "Shipment", "Depot"] ∧
    ∀ entity ∈ (prepareAll parcels).state.entities.entities, ∃ key,
      entity.primaryKey = some key ∧ key.AgreesWith entity.fields entity.relationships :=
  have hok : (prepareAll parcels).result = .ok () := rfl
  ⟨hok, rfl, prepared_keys_agree_with_their_entities parcels hok⟩

end EntityPipeline
