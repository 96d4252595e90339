-- Entities as they are loaded. However a project was put together, loading fills the registry anew
-- with one bare entity for each definition. The user that a run manages is made of what is built in
-- and of what is supplied for it, field by field and option by option.
import EntityPipeline.Proofs.Preparation.Conditions
import EntityPipeline.Proofs.Project.Overrides

namespace EntityPipeline

variable {config : ApplicationConfig} {context : Context}

/-! ## Options one at a time -/

/-- One of the options of an entity: what may be declared for it, and what has become of it when
options are resolved, unless it is left out there. -/
structure EntityOptions.Setting where
  Value : Type
  declared : EntityOptions → Option Value
  resolved : Option (ResolvedOptions → Option Value)

namespace EntityOptions

/-- An option that always has a value in the end. -/
def Setting.settled {α : Type} (declared : EntityOptions → Option α)
    (resolved : ResolvedOptions → α) : Setting :=
  ⟨α, declared, some fun options => some (resolved options)⟩

/-- All options with a member of their own. -/
def settings : List Setting := [
  .settled dto ResolvedOptions.dto,
  .settled pagination ResolvedOptions.pagination,
  .settled service ResolvedOptions.service,
  .settled jpaMetamodelFiltering ResolvedOptions.jpaMetamodelFiltering,
  .settled fluentMethods ResolvedOptions.fluentMethods,
  .settled readOnly ResolvedOptions.readOnly,
  .settled embedded ResolvedOptions.embedded,
  .settled searchEngine ResolvedOptions.searchEngine,
  .settled clientRootFolder ResolvedOptions.clientRootFolder,
  ⟨_, microserviceName, some ResolvedOptions.microserviceName⟩,
  ⟨_, angularJSSuffix, some ResolvedOptions.angularJSSuffix⟩,
  .settled skipClient ResolvedOptions.skipClient,
  .settled skipServer ResolvedOptions.skipServer,
  ⟨_, secure, none⟩]

theorem declared_withDefaults (options defaults : EntityOptions) : ∀ setting ∈ settings,
    setting.declared (options.withDefaults defaults) =
      (setting.declared options).or (setting.declared defaults) := by
  simp only [settings, List.forall_mem_cons]
  exact ⟨rfl, rfl, rfl, rfl, rfl, rfl, rfl, rfl, rfl, rfl, rfl, rfl, rfl, rfl,
    List.forall_mem_nil _⟩

/-- An option that the defaults settle needs no other value to fall back to. -/
theorem some_getD_or_some {α : Type} (declared : Option α) (default other : α) :
    some ((declared.or (some default)).getD other) = declared.or (some default) := by
  cases declared <;> rfl

/-- Once resolved, an option has the value declared for it, or else that of the application. -/
theorem resolved_resolve (options : EntityOptions) (config : ApplicationConfig) :
    ∀ setting ∈ settings, ∀ resolved ∈ setting.resolved,
      resolved (.resolve options (ResolvedOptions.defaults config)) =
        (setting.declared options).or (setting.declared (ResolvedOptions.defaults config)) := by
  simp only [settings, List.forall_mem_cons, Setting.settled, Option.mem_def, Option.some.injEq,
    forall_eq', reduceCtorEq, false_implies, implies_true, true_and]
  exact ⟨some_getD_or_some .., some_getD_or_some .., some_getD_or_some .., some_getD_or_some ..,
    some_getD_or_some .., some_getD_or_some .., some_getD_or_some .., some_getD_or_some ..,
    some_getD_or_some .., rfl, rfl, some_getD_or_some .., some_getD_or_some ..,
    List.forall_mem_nil _⟩

end EntityOptions

/-! ## The managed user -/

/-- A user made of what is built in and what is supplied for it: the built-in fields and those
supplied under new names, the first of each; the supplied relationships; and options of which those
supplied come before those built in, and these before those of the application. -/
structure IsUserOf (config : ApplicationConfig) (supplied : EntityDefinition)
    (user : Entity) : Prop where
  bare : user = { Entity.bare user.definition user.options (config.jhiPrefix ++ "_user") with
    builtIn := true
    builtInUser := true }
  name : user.definition.name = userEntity
  built_in : (userFields config).map FieldDefinition.name =
    ["id", "login", "firstName", "lastName", "email", "imageUrl", "activated", "langKey"]
  fields : user.definition.fields = userFields config ++
    (supplied.fields.filter fun field =>
      !((userFields config).map FieldDefinition.name).contains field.name).eraseDupsBy
        fun field other => field.name == other.name
  distinct : (user.definition.fields.map FieldDefinition.name).Nodup
  relationships : user.definition.relationships = supplied.relationships
  texts : user.definition.javadoc = supplied.javadoc ∧
    user.definition.changelogDate = supplied.changelogDate ∧ user.definition.tableName = none
  declared : ∀ setting ∈ EntityOptions.settings, setting.declared user.definition.options =
    (setting.declared supplied.options).or (setting.declared (builtInUser config).options)
  -- further members are kept under distinct keys
  extra : (Json.keys supplied.options.extra).Nodup → ∀ key,
    user.definition.options.extra.lookup key = (supplied.options.extra.lookup key).or
      ((builtInUser config).options.extra.lookup key)
  resolved : ∀ setting ∈ EntityOptions.settings, ∀ resolved ∈ setting.resolved,
    resolved user.options = ((setting.declared supplied.options).or
      (setting.declared (builtInUser config).options)).or
        (setting.declared (ResolvedOptions.defaults config))

theorem isUserOf_managedUser (context : Context) :
    IsUserOf context.config (suppliedUser context) (managedUser context) := by
  have hoptions : (managedUser context).options =
      .resolve (managedUser context).definition.options
        (ResolvedOptions.defaults context.config) := rfl
  have hmerged := definition_managedUser context
  refine ⟨rfl, ?_, names_userFields _, ?_, ?_, ?_, ?_, ?_, ?_, ?_⟩
  · rw [hmerged]
    rfl
  · rw [hmerged]
    exact addNewFields_eq _ _
  · rw [hmerged]
    exact nodup_addNewFields (by rw [builtInUser, names_userFields]; decide)
  · rw [hmerged]
    rfl
  · rw [hmerged]
    exact ⟨Option.or_none, Option.or_none, rfl⟩
  · rw [hmerged]
    exact EntityOptions.declared_withDefaults _ _
  · intro hkeys key
    rw [hmerged]
    exact Json.lookup_overlay hkeys
  · intro setting hin resolved hresolved
    rw [hoptions, EntityOptions.resolved_resolve _ _ setting hin resolved hresolved, hmerged]
    exact congrArg (Option.or · _) (EntityOptions.declared_withDefaults _ _ setting hin)

/-! ## Loading -/

/-- A context that was put together of definitions: of a list of them, of more of them one at a
time, and by blueprints that succeed. -/
inductive Context.Assembled : Context → Prop
  | ofDefinitions (config : ApplicationConfig) (definitions : List EntityDefinition) :
      Assembled (.ofDefinitions config definitions)
  | addDefinition {context : Context} (definition : EntityDefinition) : Assembled context →
      Assembled (context.addDefinition definition)
  | apply {context : Context} (blueprint : Blueprint) : Assembled context →
      (blueprint.apply context).result = .ok () → Assembled (blueprint.apply context).state

theorem Context.Assembled.isGiven (h : context.Assembled) : context.IsGiven := by
  induction h with
  | ofDefinitions config definitions => exact isGiven_ofDefinitions config definitions
  | addDefinition definition _ ih => exact ih.addDefinition definition
  | apply blueprint _ _ ih => exact Blueprint.isGiven_apply blueprint ih

/-- The bare entities of a context are the managed user and those of the definitions. -/
theorem Context.IsGiven.bareEntities_eq (h : context.IsGiven) : bareEntities context =
    (if managesUsers context.config then [managedUser context] else []) ++
      (context.definitions.filter (!isManagedUser context.config ·)).map fun definition =>
        .bare definition
          (.resolve definition.options (ResolvedOptions.defaults context.config))
          (tableName definition context.config) := by
  have hothers : (context.sources.filter fun source =>
        !(managesUsers context.config && source.1 == userEntity)).map (fun source =>
          bareEntity context.config source.2) =
      (context.definitions.filter (!isManagedUser context.config ·)).map fun definition =>
        .bare definition
          (.resolve definition.options (ResolvedOptions.defaults context.config))
          (tableName definition context.config) := by
    rw [← h.sources_eq, List.filter_map, List.map_map]
    rfl
  exact congrArg _ hothers

/-- Entities are registered under the names of the registered definitions. -/
theorem Context.IsGiven.names_bareEntities (h : context.IsGiven) :
    (bareEntities context).map Entity.name =
      (registered context.config context.definitions).map EntityDefinition.name := by
  rw [h.bareEntities_eq, registered, List.map_append, List.map_append, List.map_map]
  refine congrArg (· ++ _) ?_
  split
  · rw [List.map_singleton, List.map_singleton, name_mergedUser]
    exact congrArg (fun name => [name]) (isUserOf_managedUser context).name
  · rfl

/-- Loading takes nothing over from the registry that was there: it leaves an entity for the user
that is managed, if users are, and one for each other definition in order, none of them frozen. -/
structure LoadsBare (context : Context) (registry : Registry) : Prop where
  loads : loadEntities { context with entities := registry } =
    ⟨.ok (), { context with entities := .unfrozen (bareEntities context) }, []⟩
  entities : bareEntities context =
    (if managesUsers context.config then [managedUser context] else []) ++
      (context.definitions.filter (!isManagedUser context.config ·)).map fun definition =>
        .bare definition
          (.resolve definition.options (ResolvedOptions.defaults context.config))
          (tableName definition context.config)
  distinct : ((bareEntities context).map Entity.name).Nodup
  user : IsUserOf context.config (suppliedUser context) (managedUser context)

theorem loading_leaves_bare_entities (h : context.Assembled) (registry : Registry) :
    LoadsBare context registry := by
  have hgiven := h.isGiven
  have hnodup : ((bareEntities context).map Entity.name).Nodup :=
    hgiven.names_bareEntities ▸ nodup_registered hgiven.nodup
  exact ⟨loadEntities_of_nodup hnodup, hgiven.bareEntities_eq, hnodup,
    isUserOf_managedUser context⟩

/-- A club whose members have a nickname. -/
def club : Context := .addDefinition
  (.ofDefinitions {} [{ name := "Team" },
    { name := "User"
      fields := [{ name := "login", type := "String" }, { name := "nickname", type := "String" },
        { name := "nickname", type := "Integer" }] }])
  { name := "Match" }

/-- A change to members of a club, and a further entity. -/
def season : Blueprint where
  name := "season"
  entities := [("User", .object [("readOnly", .bool true)]), ("Goal", .object [])]

theorem the_club_is_loaded_for_a_season : (season.apply club).state.Assembled ∧
    LoadsBare (season.apply club).state (.unfrozen (bareEntities club)) := by
  have hclub : club.Assembled := .addDefinition _ (.ofDefinitions _ _)
  have hseason : (season.apply club).state.Assembled := .apply season hclub (by decide +kernel)
  exact ⟨hseason, loading_leaves_bare_entities hseason _⟩

example : ((bareEntities (season.apply club).state).map fun entity =>
    (entity.name, entity.definition.fields.map FieldDefinition.name)) =
      [("User", ["id", "login", "firstName", "lastName", "email", "imageUrl", "activated",
        "langKey", "nickname"]), ("Team", []), ("Match", []), ("Goal", [])] := by
  decide +kernel

end EntityPipeline
