-- What preparing fields depends on: the declared types alone. Every entity that gets its fields has
-- as many identifiers among them as its definition says, with one added where there would be none.
import EntityPipeline.Preparation.Fields
import EntityPipeline.Preparation.Names
import EntityPipeline.Proofs.Preparation.Loading

namespace EntityPipeline

variable {config : ApplicationConfig} {entity : Entity} {entities : List Entity}
  {definition : EntityDefinition} {e : Failure}

/-- The number of identifiers among the fields of an entity. A missing one counts, as it is
added. -/
def ownIdCount (definition : EntityDefinition) : Nat :=
  if lacksId definition then 1 else (definition.fields.filter FieldDefinition.isId).length

/-! ## Types -/

/-- The type of a primary key is one that can be declared. -/
theorem parse_primaryKeyType (config : ApplicationConfig) (content : Option String)
    (hasValues : Bool) : FieldType.parse config.primaryKeyType.name content hasValues =
      some config.primaryKeyType := by
  unfold ApplicationConfig.primaryKeyType
  split <;> rfl

theorem fieldType_userFields {field : FieldDefinition} (h : field ∈ userFields config) :
    field.fieldType.isSome = true := by
  simp only [userFields, List.mem_cons, List.not_mem_nil, or_false] at h
  rcases h with rfl | rfl | rfl | rfl | rfl | rfl | rfl | rfl
  · simp [FieldDefinition.fieldType, parse_primaryKeyType]
  all_goals rfl

/-- Planned fields are declared ones, but for an identifier of known type. -/
theorem mem_plannedFields {planned : PlannedField} (h : planned ∈ plannedFields definition config) :
    planned.definition ∈ definition.fields ∨ planned.definition.fieldType.isSome = true := by
  have hdeclared : ∀ p ∈ definition.fields.map fun field => (⟨field, false⟩ : PlannedField),
      p.definition ∈ definition.fields := by
    intro p hp
    obtain ⟨field, hfield, rfl⟩ := List.mem_map.1 hp
    exact hfield
  unfold plannedFields at h
  split at h
  · rcases List.mem_cons.1 h with rfl | h
    · exact Or.inr (by simp [FieldDefinition.fieldType, parse_primaryKeyType])
    · exact Or.inl (hdeclared planned h)
  · exact Or.inl (hdeclared planned h)

theorem mem_plannedFields_of_mem {field : FieldDefinition} (h : field ∈ definition.fields) :
    ⟨field, false⟩ ∈ plannedFields definition config := by
  unfold plannedFields
  split <;> simp [h]

/-- The planned fields have as many identifiers as are counted. -/
theorem length_filter_plannedFields (definition : EntityDefinition) (config : ApplicationConfig) :
    ((plannedFields definition config).filter (·.definition.isId)).length =
      ownIdCount definition := by
  have hdeclared : ((definition.fields.map fun field => (⟨field, false⟩ : PlannedField)).filter
      (·.definition.isId)).length = (definition.fields.filter FieldDefinition.isId).length := by
    rw [List.filter_map, List.length_map]
    rfl
  unfold plannedFields ownIdCount
  split
  · rename_i hlacks
    have hnone : definition.fields.filter FieldDefinition.isId = [] := by
      simp only [lacksId, EntityDefinition.hasIdField, Bool.and_eq_true, Bool.not_eq_true',
        List.any_eq_false] at hlacks
      exact List.filter_eq_nil_iff.2 hlacks.1
    rw [hnone] at hdeclared
    rw [List.filter_cons_of_pos rfl, List.length_eq_zero_iff.1 hdeclared]
    rfl
  · exact hdeclared

/-! ## One entity -/

theorem prepareEach_eq {singleId : Bool} (planned : List PlannedField) :
    prepareEach entity config singleId planned =
      planned.mapM (prepareField entity config singleId) := by
  induction planned with
  | nil => rfl
  | cons field rest ih =>
    rw [mapM_cons_eq, prepareEach, ih]
    cases prepareField entity config singleId field with
    | error e => rfl
    | ok prepared => cases rest.mapM (prepareField entity config singleId) <;> rfl

theorem eq_preparedField {singleId : Bool} {planned : PlannedField} {field : Field}
    (h : prepareField entity config singleId planned = .ok field) :
    ∃ type, planned.definition.fieldType = some type ∧ field = preparedField entity config
      planned.definition type (planned.added || entity.builtIn) singleId := by
  unfold prepareField at h
  dsimp only at h
  split at h
  · cases h
  · rename_i type htype
    exact ⟨type, htype, (Except.ok.inj h).symm⟩

theorem prepareField_ok {singleId : Bool} {planned : PlannedField} {field : Field}
    (h : prepareField entity config singleId planned = .ok field) :
    planned.definition.fieldType.isSome = true ∧ field.id = planned.definition.isId := by
  obtain ⟨type, htype, rfl⟩ := eq_preparedField h
  exact ⟨by rw [htype]; rfl, rfl⟩

theorem prepareField_error {singleId : Bool} {planned : PlannedField}
    (h : prepareField entity config singleId planned = .error e) :
    planned.definition.fieldType = none ∧
      e = .unknownFieldType entity.name planned.definition.name planned.definition.type := by
  unfold prepareField at h
  dsimp only at h
  split at h
  · rename_i htype
    cases h
    exact ⟨htype, rfl⟩
  · cases h

/-- Prepared fields have as many identifiers as the planned ones. -/
theorem length_ids_of_mapM {singleId : Bool} {planned : List PlannedField} {fields : List Field}
    (h : planned.mapM (prepareField entity config singleId) = .ok fields) :
    (fields.filter Field.id).length = (planned.filter (·.definition.isId)).length := by
  have hall := mapM_eq_ok.1 h
  clear h
  induction hall with
  | nil => rfl
  | cons hfield _ ih =>
    simp only [List.filter_cons, (prepareField_ok hfield).2]
    split <;> simp [ih]

theorem entityFields_ok {fields : List Field} (h : entityFields entity config = .ok fields) :
    (∀ field ∈ entity.definition.fields, field.fieldType.isSome = true) ∧
      (fields.filter Field.id).length = ownIdCount entity.definition := by
  unfold entityFields at h
  dsimp only at h
  rw [prepareEach_eq] at h
  constructor
  · intro field hfield
    obtain ⟨prepared, _, hp⟩ := exists_of_mapM h _ (mem_plannedFields_of_mem hfield)
    exact (prepareField_ok hp).1
  · rw [length_ids_of_mapM h, length_filter_plannedFields]

theorem entityFields_error (h : entityFields entity config = .error e) :
    ∃ field ∈ entity.definition.fields, field.fieldType = none ∧
      e = .unknownFieldType entity.name field.name field.type := by
  unfold entityFields at h
  dsimp only at h
  rw [prepareEach_eq] at h
  obtain ⟨before, planned, after, heq, _, hp⟩ := failsFirst_of_mapM h
  obtain ⟨hnone, rfl⟩ := prepareField_error hp
  have hin : planned ∈ plannedFields entity.definition config := by simp [heq]
  rcases mem_plannedFields hin with hdeclared | hknown
  · exact ⟨_, hdeclared, hnone, rfl⟩
  · rw [hnone] at hknown
    cases hknown

/-! ## All entities -/

/-- An entity with its fields, and neither relationships nor a key yet. -/
structure Entity.IsFilled (entity : Entity) : Prop where
  name : entity.name = entity.definition.name
  ids : (entity.fields.filter Field.id).length = ownIdCount entity.definition
  relationships : entity.relationships = []
  primaryKey : entity.primaryKey = none

theorem prepareEntities_eq {context : Context} (h : context.entities = .unfrozen entities) :
    prepareEntities context = ⟨.ok (), { context with entities := .unfrozen (entities.map
      fun entity => { entity with names := entityNames entity context.config }) }, []⟩ := by
  let change : Entity → Except Failure Entity := fun entity =>
    .ok { entity with names := entityNames entity context.config }
  have hname : ∀ entity other, change entity = .ok other → other.name = entity.name := by
    intro entity other hother
    cases hother
    rfl
  have hall := changeAll_unfrozen hname entities
  have hmap : entities.mapM change = .ok (entities.map fun entity =>
      { entity with names := entityNames entity context.config }) := List.mapM_pure
  rw [hmap] at hall
  unfold prepareEntities
  rw [h, hall]

/-- An entity with its fields prepared. -/
def fill (config : ApplicationConfig) (entity : Entity) : Except Failure Entity :=
  (entityFields entity config).map fun fields => { entity with fields }

theorem fill_ok {filled : Entity} (h : fill config entity = .ok filled) :
    ∃ fields, entityFields entity config = .ok fields ∧ filled = { entity with fields } := by
  unfold fill at h
  cases hfields : entityFields entity config with
  | error e =>
    rw [hfields] at h
    cases h
  | ok fields =>
    rw [hfields] at h
    cases h
    exact ⟨fields, rfl, rfl⟩

theorem fill_error (h : fill config entity = .error e) : entityFields entity config = .error e := by
  unfold fill at h
  cases hfields : entityFields entity config with
  | error cause =>
    rw [hfields] at h
    cases h
    rfl
  | ok fields =>
    rw [hfields] at h
    cases h

/-- Filled entities keep their definitions, all of whose types are known. -/
theorem filled_of_mapM {filled : List Entity} (h : entities.mapM (fill config) = .ok filled)
    (hb : ∀ entity ∈ entities, entity.IsBare) :
    filled.map Entity.definition = entities.map Entity.definition ∧
      (∀ entity ∈ filled, entity.IsFilled) ∧
      ∀ definition ∈ filled.map Entity.definition, ∀ field ∈ definition.fields,
        field.fieldType.isSome = true := by
  have hall := mapM_eq_ok.1 h
  clear h
  induction hall with
  | nil => simp
  | @cons entity other rest others hfill _ ih =>
    obtain ⟨hbare, hrest⟩ := List.forall_mem_cons.1 hb
    obtain ⟨hdefs, hfilled, htyped⟩ := ih hrest
    obtain ⟨fields, hfields, rfl⟩ := fill_ok hfill
    obtain ⟨hknown, hids⟩ := entityFields_ok hfields
    refine ⟨by simp [hdefs], List.forall_mem_cons.2 ⟨?_, hfilled⟩, ?_⟩
    · exact ⟨hbare.name, hids, hbare.relationships, hbare.primaryKey⟩
    · exact List.forall_mem_cons.2 ⟨hknown, htyped⟩

/-- Preparing the fields of bare entities fills them all when all types are known; else it fails
with a field whose type is not. -/
theorem prepareFields_outcome {context : Context} (h : context.entities = .unfrozen entities)
    (hb : ∀ entity ∈ entities, entity.IsBare) :
    (∃ filled, prepareFields context =
        ⟨.ok (), { context with entities := .unfrozen filled }, []⟩ ∧
      filled.map Entity.definition = entities.map Entity.definition ∧
      (∀ entity ∈ filled, entity.IsFilled) ∧
      ∀ definition ∈ entities.map Entity.definition, ∀ field ∈ definition.fields,
        field.fieldType.isSome = true) ∨
    ∃ definition ∈ entities.map Entity.definition, ∃ field ∈ definition.fields,
      field.fieldType = none ∧ (prepareFields context).result =
        .error (.unknownFieldType definition.name field.name field.type) := by
  have hname : ∀ entity other, fill context.config entity = .ok other →
      other.name = entity.name := by
    intro entity other hother
    obtain ⟨fields, _, rfl⟩ := fill_ok hother
    rfl
  have hall := changeAll_unfrozen hname entities
  -- both results of the phase are those of one pass over the entities
  have hresult : prepareFields context =
      ⟨(Slot.changeAll (fill context.config) (Registry.unfrozen entities).slots).2,
        { context with entities :=
          ⟨(Slot.changeAll (fill context.config) (Registry.unfrozen entities).slots).1⟩ }, []⟩ := by
    rw [← h]
    rfl
  cases hm : entities.mapM (fill context.config) with
  | ok filled =>
    rw [hm] at hall
    simp only at hall
    rw [hall] at hresult
    obtain ⟨hdefs, hfilled, htyped⟩ := filled_of_mapM hm hb
    exact Or.inl ⟨filled, hresult, hdefs, hfilled, hdefs ▸ htyped⟩
  | error cause =>
    rw [hm] at hall
    simp only at hall
    obtain ⟨before, entity, after, rfl, _, hfails⟩ := failsFirst_of_mapM hm
    obtain ⟨field, hfield, hnone, rfl⟩ := entityFields_error (fill_error hfails)
    refine Or.inr ⟨entity.definition, by simp, field, hfield, hnone, ?_⟩
    rw [hresult, hall, (hb entity (by simp)).name]

end EntityPipeline
