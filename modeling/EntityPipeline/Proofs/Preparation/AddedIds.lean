-- The identifier that an entity is given. Where a definition has no part of a primary key, a field
-- `id` is put in front of the declared ones, and the key is over that field alone. Nobody asks
-- whether a declared field has the name already, so names stay distinct unless one has it.
import EntityPipeline.Proofs.Preparation.Given
import EntityPipeline.Proofs.Preparation.KeyAgreement
import EntityPipeline.Proofs.Preparation.Provenance

namespace EntityPipeline

variable {config : ApplicationConfig} {entity : Entity} {definition : EntityDefinition}
  {fields : List Field} {context : Context}

/-! ## Prepared entities -/

/-- A preparation that goes through all phases prepares the fields of entities that are loaded and
named, and then relates and freezes these. -/
theorem stages_of_prepareAll (h : (prepareAll context).result = .ok ()) : ∃ named : Context,
    named.config = context.config ∧ (prepareFields named).result = .ok () ∧
      FieldsPrepared (prepareFields named).state.entities ∧
      (Action.forEach Phase.run [.relationships, .freeze] (prepareFields named).state).result =
        .ok () ∧
      (prepareAll context).state =
        (Action.forEach Phase.run [.relationships, .freeze] (prepareFields named).state).state := by
  obtain ⟨-, hrest, hstate⟩ := forEach_cons_eq_ok h
  have hrest : (Action.forEach Phase.run ([.load, .names, .fields] ++ [.relationships, .freeze])
      (configureEntities context).state).result = .ok () := hrest
  obtain ⟨hok, hlast, hstate'⟩ := Action.forEach_append_eq_ok _ hrest
  have hprepared := FieldsPrepared.intro _ (Or.inr rfl) hok
  have hok : (Action.forEach Phase.run ([.load, .names] ++ [.fields])
      (configureEntities context).state).result = .ok () := hok
  obtain ⟨-, hfields, hready⟩ := Action.forEach_append_eq_ok _ hok
  obtain ⟨hfields, -, hready'⟩ := forEach_cons_eq_ok hfields
  have hready : (Action.forEach Phase.run [.load, .names, .fields]
      (configureEntities context).state).state = _ := hready.trans hready'
  have hconfig : (Action.forEach Phase.run [.load, .names]
      (configureEntities context).state).state.config = context.config :=
    (Action.LeavesAlone.forEach fun phase _ => phase.config_run) _
  rw [hready] at hprepared hlast hstate'
  exact ⟨_, hconfig, hfields, hprepared, hlast, hstate.trans hstate'⟩

/-- Once all phases have gone through, every entity is keyed. -/
theorem isKeyed_of_prepareAll (h : (prepareAll context).result = .ok ()) :
    ∀ entity ∈ (prepareAll context).state.entities.entities, entity.IsKeyed := by
  obtain ⟨named, -, -, hprepared, hlast, hstate⟩ := stages_of_prepareAll h
  rw [hstate]
  exact isKeyed_of_fieldsPrepared hprepared hlast

/-- Once all phases have gone through, the fields of every entity are prepared from its
definition. -/
theorem entityFields_of_prepareAll (h : (prepareAll context).result = .ok ()) :
    ∀ entity ∈ (prepareAll context).state.entities.entities, ∃ former,
      former.definition = entity.definition ∧ former.builtIn = entity.builtIn ∧
        entityFields former context.config = .ok entity.fields := by
  obtain ⟨named, hconfig, hfields, -, -, hstate⟩ := stages_of_prepareAll h
  have hprepared := entityFields_of_prepareFields hfields
  rw [hconfig] at hprepared
  rw [hstate]
  exact forall_related_frozen (fun _ _ _ _ => Iff.rfl) hprepared

/-! ## The managed user -/

theorem suppliedUser_configureEntities (context : Context) :
    suppliedUser (configureEntities context).state = suppliedUser context := by
  have hdeclared (context : Context) (name : String) :
      context.definition? name = context.declared.lookup name :=
    (Json.lookup_map_value EntitySource.definition).symm
  unfold suppliedUser
  rw [hdeclared, hdeclared]
  exact congrArg (fun declared => (declared.lookup userEntity).getD {})
    (Phase.declared_run .configure context)

/-- The managed user is loaded where users are managed. -/
theorem exists_managedUser (h : (prepareAll context).result = .ok ())
    (hmanages : managesUsers context.config = true) :
    ∃ user ∈ (prepareAll context).state.entities.entities, user.builtIn = true ∧
      user.definition = mergeUser (builtInUser context.config) (suppliedUser context) := by
  have hmanages : managesUsers (configureEntities context).state.config = true := hmanages
  have hbare : managedUser (configureEntities context).state ∈
      bareEntities (configureEntities context).state := by
    refine List.mem_append_left _ ?_
    rw [hmanages]
    exact List.mem_singleton_self _
  have hin := List.mem_map_of_mem (f := Entity.provenance) hbare
  rw [← provenance_loaded h] at hin
  obtain ⟨slot, hslot, heq⟩ := List.mem_map.1 hin
  have hdefinition : slot.entity.definition = _ :=
    (congrArg Provenance.definition heq).trans (definition_managedUser _)
  rw [suppliedUser_configureEntities] at hdefinition
  exact ⟨slot.entity, List.mem_map_of_mem hslot, congrArg Provenance.builtIn heq, hdefinition⟩

/-- Of the entities that are loaded, the generator adds the managed user alone. -/
theorem managed_of_builtIn (h : (prepareAll context).result = .ok ())
    (hin : entity ∈ (prepareAll context).state.entities.entities)
    (hbuiltIn : entity.builtIn = true) : managesUsers context.config = true ∧
      entity.definition = mergeUser (builtInUser context.config) (suppliedUser context) := by
  obtain ⟨slot, hslot, rfl⟩ := List.mem_map.1 hin
  have hprovenance : slot.entity.provenance ∈ (prepareAll context).state.entities.provenance :=
    List.mem_map_of_mem hslot
  rw [provenance_loaded h] at hprovenance
  obtain ⟨bare, hbare, heq⟩ := List.mem_map.1 hprovenance
  have hdefinition : bare.definition = slot.entity.definition :=
    congrArg Provenance.definition heq
  have hadded : bare.builtIn = true := (congrArg Provenance.builtIn heq).trans hbuiltIn
  rcases List.mem_append.1 hbare with huser | hother
  · split at huser
    · rename_i hmanages
      obtain rfl := List.mem_singleton.1 huser
      rw [← hdefinition, definition_managedUser, suppliedUser_configureEntities]
      exact ⟨hmanages, rfl⟩
    · cases huser
  · obtain ⟨source, -, rfl⟩ := List.mem_map.1 hother
    cases hadded

theorem definition_of_builtIn (h : (prepareAll context).result = .ok ())
    (hin : entity ∈ (prepareAll context).state.entities.entities)
    (hbuiltIn : entity.builtIn = true) :
    entity.definition = mergeUser (builtInUser context.config) (suppliedUser context) :=
  (managed_of_builtIn h hin hbuiltIn).2

/-- Whatever is supplied for the managed user, its fields have distinct names, and the first one is
an identifier. -/
theorem fields_mergeUser (config : ApplicationConfig) (supplied : EntityDefinition) :
    ((mergeUser (builtInUser config) supplied).fields.map FieldDefinition.name).Nodup ∧
      ∃ new, (∀ field ∈ new, field ∈ supplied.fields) ∧
        (mergeUser (builtInUser config) supplied).fields =
          { name := "id", type := config.primaryKeyType.name } ::
            ((userFields config).tail ++ new) := by
  obtain ⟨new, heq, hnew⟩ := exists_new_addNewFields (userFields config) supplied.fields
  refine ⟨nodup_addNewFields ?_, new, hnew, heq⟩
  show ((userFields config).map FieldDefinition.name).Nodup
  rw [names_userFields]
  decide

/-! ## Names -/

/-- Prepared fields have the names of the planned ones. -/
theorem map_name_of_mapM {singleId : Bool} {planned : List PlannedField}
    (h : planned.mapM (prepareField entity config singleId) = .ok fields) :
    fields.map Field.name = planned.map (·.definition.name) := by
  have hall := mapM_eq_ok.1 h
  clear h
  induction hall with
  | nil => rfl
  | cons hfield _ ih =>
    obtain ⟨type, -, rfl⟩ := eq_preparedField hfield
    rw [List.map_cons, List.map_cons, ih]
    rfl

theorem map_name_plannedFields (definition : EntityDefinition) (config : ApplicationConfig) :
    (plannedFields definition config).map (·.definition.name) =
      (if lacksId definition then ["id"] else []) ++
        definition.fields.map FieldDefinition.name := by
  unfold plannedFields
  split <;> simp

theorem lacksId_iff : lacksId definition = true ↔
    definition.hasIdField = false ∧ definition.hasIdRelationship = false := by
  simp [lacksId]

/-- A definition that has no part of a primary key, although a field has the name `id`: the field
says of itself that it is none. -/
structure EntityDefinition.DisownsId (definition : EntityDefinition) : Prop where
  no_field : definition.hasIdField = false
  no_relationship : definition.hasIdRelationship = false
  disowned : ∃ field ∈ definition.fields, field.name = "id" ∧ field.id = some false

theorem disownsId_iff : definition.DisownsId ↔
    lacksId definition = true ∧ "id" ∈ definition.fields.map FieldDefinition.name := by
  constructor
  · rintro ⟨hfield, hrelationship, field, hin, hname, -⟩
    exact ⟨lacksId_iff.2 ⟨hfield, hrelationship⟩, List.mem_map.2 ⟨field, hin, hname⟩⟩
  · rintro ⟨hnone, hid⟩
    obtain ⟨hfield, hrelationship⟩ := lacksId_iff.1 hnone
    obtain ⟨field, hin, hname⟩ := List.mem_map.1 hid
    -- by its name the field would be an identifier, so its flag speaks against it
    have hnot : field.isId = false := by
      simpa using List.any_eq_false.1 hfield field hin
    refine ⟨hfield, hrelationship, field, hin, hname, ?_⟩
    unfold FieldDefinition.isId at hnot
    cases hflag : field.id with
    | none => simp [hflag, hname] at hnot
    | some flag => simpa [hflag] using hnot

/-- The names of prepared fields beside those of the declared ones. -/
structure EntityDefinition.NamesFields (definition : EntityDefinition) (fields : List Field) :
    Prop where
  in_order : fields.map Field.name = (if lacksId definition then ["id"] else []) ++
    definition.fields.map FieldDefinition.name
  apart : (definition.fields.map FieldDefinition.name).Nodup →
    ((fields.map Field.name).Nodup ↔ ¬definition.DisownsId)

theorem namesFields_of_entityFields (h : entityFields entity config = .ok fields) :
    entity.definition.NamesFields fields := by
  unfold entityFields at h
  dsimp only at h
  rw [prepareEach_eq] at h
  have hnames := map_name_of_mapM h
  rw [map_name_plannedFields] at hnames
  refine ⟨hnames, fun hdistinct => ?_⟩
  rw [hnames, disownsId_iff]
  split
  · rename_i hlacks
    simp [hlacks, hdistinct]
  · rename_i hnot
    simp [hnot, hdistinct]

/-- Prepared fields have the declared names, with that of an added identifier in front. Distinct
names stay distinct unless the definition disowns a field `id`, and those of the managed user always
are, whatever is supplied for it. -/
theorem names_stay_apart_unless_an_id_is_disowned (config : ApplicationConfig) :
    (∀ entity fields, entityFields entity config = .ok fields →
      entity.definition.NamesFields fields) ∧
    ∀ context : Context, context.config = config → (prepareAll context).result = .ok () →
      ∀ entity ∈ (prepareAll context).state.entities.entities,
        entity.definition.NamesFields entity.fields ∧
        (entity.builtIn = true → (entity.fields.map Field.name).Nodup) := by
  refine ⟨fun entity fields => namesFields_of_entityFields, ?_⟩
  rintro context rfl h entity hin
  obtain ⟨former, hdefinition, -, hfields⟩ := entityFields_of_prepareAll h entity hin
  have hnames := hdefinition ▸ namesFields_of_entityFields hfields
  refine ⟨hnames, fun hbuiltIn => ?_⟩
  have huser := definition_of_builtIn h hin hbuiltIn
  obtain ⟨hdistinct, new, -, heq⟩ :=
    fields_mergeUser context.config (suppliedUser context)
  refine (hnames.apart (huser ▸ hdistinct)).2 fun hdisowns => ?_
  have hnone := hdisowns.no_field
  rw [huser, EntityDefinition.hasIdField, heq] at hnone
  cases hnone

/-- A book whose declared field `id` is no part of a primary key. -/
def numberedBook : EntityDefinition where
  name := "Book"
  fields := [{ name := "id", type := "Long", id := some false }]

def numberedBooks (config : ApplicationConfig) : Context := .ofDefinitions config [numberedBook]

theorem numbered_books_and_users_have_their_names :
    (∃ fields, entityFields (bareEntity {} { definition := numberedBook }) {} = .ok fields ∧
      numberedBook.NamesFields fields) ∧
    (prepareAll (numberedBooks {})).result = .ok () ∧
    (prepareAll (numberedBooks {})).state.entities.names = ["User", "Book"] ∧
    ∀ entity ∈ (prepareAll (numberedBooks {})).state.entities.entities,
      entity.definition.NamesFields entity.fields ∧
      (entity.builtIn = true → (entity.fields.map Field.name).Nodup) :=
  have hnames := names_stay_apart_unless_an_id_is_disowned {}
  have hok : (prepareAll (numberedBooks {})).result = .ok () := rfl
  ⟨⟨_, rfl, hnames.1 (bareEntity {} { definition := numberedBook }) _ rfl⟩, hok, rfl,
    hnames.2 (numberedBooks {}) rfl hok⟩

/-- The field is not taken for an identifier, and so the book is given another one of its name. -/
theorem numbered_books_have_two_fields_id :
    (numberedBook.fields.map FieldDefinition.name).Nodup ∧
    (prepareAll (numberedBooks { skipUserManagement := true })).result = .ok () ∧
    ((prepareAll (numberedBooks { skipUserManagement := true })).state.entities.entities.map
      fun entity => (entity.name, entity.fields.map fun field => (field.name, field.id))) =
        [("Book", [("id", true), ("id", false)])] :=
  ⟨by decide, rfl, rfl⟩

/-! ## The identifier -/

/-- Whether keys of the type that a database asks for are generated. -/
def DatabaseType.generatesKeys : DatabaseType → Bool
  | .sql | .no | .cassandra => true
  | .mongodb | .couchbase | .neo4j => false

theorem isAutoGeneratable_primaryKeyType (config : ApplicationConfig) :
    config.primaryKeyType.isAutoGeneratable = config.databaseType.generatesKeys := by
  unfold ApplicationConfig.primaryKeyType
  cases config.databaseType <;> rfl

/-- The field that is put in front of declared ones as an identifier. -/
structure Field.IsAddedId (config : ApplicationConfig) (field : Field) : Prop where
  name : field.name = "id"
  type : field.type = config.primaryKeyType
  id : field.id = true
  builtIn : field.builtIn = true
  autoGenerate : field.autoGenerate = config.databaseType.generatesKeys

/-- A field as it is declared, and no part of a primary key. -/
structure FieldDefinition.IsPlain (definition : FieldDefinition) (field : Field) : Prop where
  name : field.name = definition.name
  type : definition.fieldType = some field.type
  id : field.id = false
  autoGenerate : field.autoGenerate = false

/-- A primary key over an added identifier alone. -/
structure PrimaryKey.IsOverAddedId (config : ApplicationConfig) (key : PrimaryKey) : Prop where
  ids : key.ids = [.own "id" config.primaryKeyType config.databaseType.generatesKeys]
  type : key.type = .single config.primaryKeyType
  derived : key.derived = false
  autoGenerate : key.autoGenerate = config.databaseType.generatesKeys

/-- Fields that start with an added identifier, in front of declared ones in their order. -/
def StartsWithId (config : ApplicationConfig) (declared : List FieldDefinition)
    (fields : List Field) : Prop :=
  ∃ id others, fields = id :: others ∧ id.IsAddedId config ∧
    List.Forall₂ FieldDefinition.IsPlain declared others

/-- An entity whose identifier is an added one, in front of declared fields. -/
structure Entity.HasAddedId (config : ApplicationConfig) (declared : List FieldDefinition)
    (entity : Entity) : Prop where
  fields : StartsWithId config declared entity.fields
  key : ∃ key, entity.primaryKey = some key ∧ key.IsOverAddedId config

/-- A definition whose planned fields start with an identifier that the generator adds, the only
part of a primary key. -/
structure EntityDefinition.PlansId (definition : EntityDefinition) (config : ApplicationConfig)
    (builtIn : Bool) (declared : List FieldDefinition) : Prop where
  planned : ∃ added, (added || builtIn) = true ∧ plannedFields definition config =
    ⟨{ name := "id", type := config.primaryKeyType.name }, added⟩ :: declared.map (⟨·, false⟩)
  plain : ∀ field ∈ declared, field.isId = false
  nothing_borrowed : definition.hasIdRelationship = false

theorem isId_of_lacksId (h : lacksId definition = true) :
    ∀ field ∈ definition.fields, field.isId = false := by
  simpa [EntityDefinition.hasIdField] using (lacksId_iff.1 h).1

theorem plansId_of_lacksId (config : ApplicationConfig) (builtIn : Bool)
    (h : lacksId definition = true) : definition.PlansId config builtIn definition.fields := by
  refine ⟨⟨true, rfl, ?_⟩, isId_of_lacksId h, (lacksId_iff.1 h).2⟩
  rw [plannedFields, if_pos h]

/-- The managed user has its identifier unless another one is supplied for it. -/
theorem plansId_mergeUser (config : ApplicationConfig) {supplied : EntityDefinition}
    (h : lacksId supplied = true) : (mergeUser (builtInUser config) supplied).PlansId config true
      (mergeUser (builtInUser config) supplied).fields.tail := by
  obtain ⟨-, new, hnew, heq⟩ := fields_mergeUser config supplied
  have hid : lacksId (mergeUser (builtInUser config) supplied) = false := by
    rw [lacksId, EntityDefinition.hasIdField, heq]
    rfl
  refine ⟨⟨false, rfl, ?_⟩, ?_, (lacksId_iff.1 h).2⟩
  · rw [plannedFields, hid, if_neg Bool.false_ne_true, heq]
    rfl
  · rw [heq, List.tail_cons]
    refine List.forall_mem_append.2 ⟨?_, fun field hin => isId_of_lacksId h field (hnew field hin)⟩
    simp [userFields, sizedField, FieldDefinition.isId]

theorem startsWithId_of_plansId {declared : List FieldDefinition}
    (h : entityFields entity config = .ok fields)
    (hplans : entity.definition.PlansId config entity.builtIn declared) :
    StartsWithId config declared fields := by
  obtain ⟨⟨added, hadded, hplanned⟩, hnone, hborrowed⟩ := hplans
  -- no declared field counts as an identifier, so the added one is single
  have hsingle : hasSingleId entity.definition (plannedFields entity.definition config) = true := by
    have hothers : (declared.map fun field => (⟨field, false⟩ : PlannedField)).filter
        (·.definition.isId) = [] := by
      simpa [List.filter_eq_nil_iff] using hnone
    rw [hasSingleId, hplanned, List.filter_cons_of_pos rfl, hothers, hborrowed]
    rfl
  unfold entityFields at h
  dsimp only at h
  rw [prepareEach_eq, hsingle] at h
  have hall := mapM_eq_ok.1 h
  rw [hplanned, List.forall₂_cons_left_iff] at hall
  obtain ⟨id, others, hid, hothers, rfl⟩ := hall
  refine ⟨id, others, rfl, ?_, ?_⟩
  · obtain ⟨type, htype, rfl⟩ := eq_preparedField hid
    obtain rfl : config.primaryKeyType = type :=
      Option.some.inj ((parse_primaryKeyType config none false).symm.trans htype)
    exact ⟨rfl, rfl, rfl, hadded, isAutoGeneratable_primaryKeyType config⟩
  · have hplain := (List.forall₂_and_left _ _).2 ⟨hnone, List.forall₂_map_left_iff.1 hothers⟩
    refine hplain.imp fun definition field hfield => ?_
    obtain ⟨hnot, hfield⟩ := hfield
    obtain ⟨type, htype, rfl⟩ := eq_preparedField hfield
    refine ⟨rfl, htype, hnot, ?_⟩
    simp [preparedField, hnot]

/-- An entity that starts with an added identifier has no other one. -/
theorem ownIds_of_startsWithId {declared : List FieldDefinition}
    (h : StartsWithId config declared entity.fields) :
    entity.ownIds = [.own "id" config.primaryKeyType config.databaseType.generatesKeys] := by
  obtain ⟨id, others, heq, hid, hplain⟩ := h
  have hnone : others.filter Field.id = [] := by
    clear heq
    induction hplain with
    | nil => rfl
    | cons hfield _ ih => rw [List.filter_cons_of_neg (by simp [hfield.id]), ih]
  unfold Entity.ownIds
  rw [heq, List.filter_cons_of_pos hid.id, hnone, List.map_singleton, hid.name, hid.type,
    hid.autoGenerate]

theorem hasAddedId_of_plansId {declared : List FieldDefinition}
    (h : (prepareAll context).result = .ok ())
    (hin : entity ∈ (prepareAll context).state.entities.entities)
    (hplans : entity.definition.PlansId context.config entity.builtIn declared) :
    entity.HasAddedId context.config declared := by
  have hnone := hplans.nothing_borrowed
  obtain ⟨former, hdefinition, hbuiltIn, hfields⟩ := entityFields_of_prepareAll h entity hin
  rw [← hdefinition, ← hbuiltIn] at hplans
  have hstarts := startsWithId_of_plansId hfields hplans
  obtain ⟨-, key, ids, hkey, hids, hown⟩ := isKeyed_of_prepareAll h entity hin
  rw [hown hnone, ownIds_of_startsWithId hstarts, hnone] at hids
  obtain rfl := Option.some.inj hids
  exact ⟨hstarts, _, hkey, rfl, rfl, rfl, rfl⟩

/-- A definition without a part of a primary key is given one by a preparation that succeeds: a
field `id` of the type that the database asks for, in front of the declared ones, and a key over it
alone. Both are generated just where keys of that type are. What is supplied for the managed user is
merged into a definition that starts with such a field. -/
theorem entities_without_an_id_start_with_one (context : Context)
    (h : (prepareAll context).result = .ok ()) :
    (∀ entity ∈ (prepareAll context).state.entities.entities, lacksId entity.definition = true →
      entity.HasAddedId context.config entity.definition.fields) ∧
    (∀ name definition, (name, definition) ∈ context.declared →
      (managesUsers context.config && name == userEntity) = false → lacksId definition = true →
      ∃ entity ∈ (prepareAll context).state.entities.entities,
        entity.definition = definition ∧ entity.HasAddedId context.config definition.fields) ∧
    (managesUsers context.config = true → lacksId (suppliedUser context) = true →
      ∃ user ∈ (prepareAll context).state.entities.entities,
        user.definition = mergeUser (builtInUser context.config) (suppliedUser context) ∧
        user.HasAddedId context.config user.definition.fields.tail) := by
  have hlacking : ∀ entity ∈ (prepareAll context).state.entities.entities,
      lacksId entity.definition = true →
      entity.HasAddedId context.config entity.definition.fields :=
    fun entity hin hlacks => hasAddedId_of_plansId h hin (plansId_of_lacksId _ _ hlacks)
  refine ⟨hlacking, fun name definition hdeclared hother hlacks => ?_, fun hmanages hlacks => ?_⟩
  · have hexpected : ⟨definition.name, definition, false⟩ ∈ context.expected :=
      List.mem_map.2 ⟨(name, definition),
        List.mem_filter.2 ⟨hdeclared, by simp only [hother, Bool.not_false]⟩, rfl⟩
    rw [← provenance_expected h] at hexpected
    obtain ⟨slot, hslot, heq⟩ := List.mem_map.1 (List.mem_filter.1 hexpected).1
    obtain rfl : slot.entity.definition = definition := congrArg Provenance.definition heq
    have hin : slot.entity ∈ (prepareAll context).state.entities.entities :=
      List.mem_map_of_mem hslot
    exact ⟨_, hin, rfl, hlacking _ hin hlacks⟩
  · obtain ⟨user, hin, hbuiltIn, hdefinition⟩ := exists_managedUser h hmanages
    refine ⟨user, hin, hdefinition, hasAddedId_of_plansId h hin ?_⟩
    rw [hbuiltIn, hdefinition]
    exact plansId_mergeUser context.config hlacks

/-- A book with a title alone. -/
def titledBooks (config : ApplicationConfig) : Context :=
  .ofDefinitions config [{ name := "Book", fields := [{ name := "title", type := "String" }] }]

theorem titled_books_and_users_start_with_an_id :
    (prepareAll (titledBooks {})).result = .ok () ∧
    (prepareAll (titledBooks {})).state.entities.names = ["User", "Book"] ∧
    (∀ entity ∈ (prepareAll (titledBooks {})).state.entities.entities,
      lacksId entity.definition = true →
      entity.HasAddedId (titledBooks {}).config entity.definition.fields) ∧
    (∃ definition, ("Book", definition) ∈ (titledBooks {}).declared ∧
      ∃ entity ∈ (prepareAll (titledBooks {})).state.entities.entities,
        entity.definition = definition ∧
        entity.HasAddedId (titledBooks {}).config definition.fields) ∧
    ∃ user ∈ (prepareAll (titledBooks {})).state.entities.entities,
      user.HasAddedId (titledBooks {}).config user.definition.fields.tail :=
  have hok : (prepareAll (titledBooks {})).result = .ok () := rfl
  have ⟨hlacking, hdeclared, huser⟩ := entities_without_an_id_start_with_one (titledBooks {}) hok
  have ⟨user, hin, _, hstarts⟩ := huser rfl rfl
  ⟨hok, rfl, hlacking, ⟨_, List.mem_cons_self, hdeclared "Book" _ List.mem_cons_self rfl rfl⟩,
    user, hin, hstarts⟩

/-- A book in an application on a database whose keys are text. -/
def titledDocuments : Context := titledBooks { databaseType := .mongodb, skipUserManagement := true }

/-- Neither the identifier nor the key of the book is generated there. -/
theorem titled_documents_have_no_generated_id : (prepareAll titledDocuments).result = .ok () ∧
    (∀ entity ∈ (prepareAll titledDocuments).state.entities.entities,
      lacksId entity.definition = true) ∧
    ((prepareAll titledDocuments).state.entities.entities.map fun entity =>
      (entity.name, entity.fields.map fun field => (field.name, field.type, field.autoGenerate),
        entity.primaryKey.map PrimaryKey.autoGenerate)) =
      [("Book", [("id", .string, false), ("title", .string, false)], some false)] :=
  ⟨rfl, by decide +kernel, rfl⟩

end EntityPipeline
