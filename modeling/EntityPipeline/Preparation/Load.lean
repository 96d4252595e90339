-- Loading entities: the registry is filled anew with bare entities. The built-in `User` comes first
-- unless users are managed elsewhere; a supplied definition of that name is merged into it.
import EntityPipeline.Run.Action

namespace EntityPipeline

/-- The name of the built-in entity. -/
def userEntity : String := "User"

/-- The table of a definition, set apart if its name is reserved. -/
def tableName (definition : EntityDefinition) (config : ApplicationConfig) : String :=
  Text.unreserved config.jhiPrefix (definition.tableName.getD (Text.columnName definition.name))

/-! ## The built-in user -/

/-- A field for text of limited length with further rules. -/
def sizedField (name : String) (maxLength : Int) (rules : List String) : FieldDefinition where
  name := name
  type := "String"
  rules := rules ++ ["maxlength"]
  maxLength := some (.number (.int maxLength))

/-- The fields of the built-in user. -/
def userFields (config : ApplicationConfig) : List FieldDefinition := [
  { name := "id", type := config.primaryKeyType.name },
  sizedField "login" 50 ["required", "unique"],
  sizedField "firstName" 50 [],
  sizedField "lastName" 50 [],
  sizedField "email" 191 ["unique"],
  sizedField "imageUrl" 256 [],
  { name := "activated", type := "Boolean", rules := ["required"] },
  sizedField "langKey" 10 []]

/-- The definition of the built-in user. -/
def builtInUser (config : ApplicationConfig) : EntityDefinition where
  name := userEntity
  fields := userFields config
  options := { dto := some .mapstruct }

/-- Fields with those added whose names are new, the first of each name. -/
def addNewFields (fields : List FieldDefinition) : List FieldDefinition → List FieldDefinition
  | [] => fields
  | field :: rest =>
    if fields.any (·.name == field.name) then addNewFields fields rest
    else addNewFields (fields ++ [field]) rest

/-- The built-in user with a supplied definition merged in: new fields and all relationships are
added, supplied options win. -/
def mergeUser (builtIn supplied : EntityDefinition) : EntityDefinition :=
  { builtIn with
    fields := addNewFields builtIn.fields supplied.fields
    relationships := builtIn.relationships ++ supplied.relationships
    options := supplied.options.withDefaults builtIn.options
    javadoc := supplied.javadoc.or builtIn.javadoc
    changelogDate := supplied.changelogDate.or builtIn.changelogDate }

/-- The built-in user of a context. -/
def managedUser (context : Context) : Entity :=
  let builtIn := builtInUser context.config
  let definition := match context.sources.lookup userEntity with
    | some source => mergeUser builtIn source.definition
    | none => builtIn
  let options := ResolvedOptions.resolve definition.options (ResolvedOptions.defaults context.config)
  { Entity.bare definition options (context.config.jhiPrefix ++ "_user") with
    builtIn := true
    builtInUser := true }

/-! ## Bare entities -/

/-- The bare entity of a source; options that were never resolved are resolved now. -/
def bareEntity (config : ApplicationConfig) (source : EntitySource) : Entity :=
  let options := source.options.getD
    (ResolvedOptions.resolve source.definition.options (ResolvedOptions.defaults config))
  .bare source.definition options (tableName source.definition config)

/-- Whether a run adds the built-in user. -/
def managesUsers (config : ApplicationConfig) : Bool := !config.skipUserManagement

/-- The bare entities of a context in the order of their registration. -/
def bareEntities (context : Context) : List Entity :=
  let managed := managesUsers context.config
  let others := context.sources.filter fun (name, _) => !(managed && name == userEntity)
  (if managed then [managedUser context] else []) ++
    others.map fun (_, source) => bareEntity context.config source

/-- Registers entities in order, up to the first one whose name is taken. -/
def registerAll (registry : Registry) : List Entity → Registry × Except Failure Unit
  | [] => (registry, .ok ())
  | entity :: rest =>
    match registry.insert entity with
    | .error e => (registry, .error e)
    | .ok (grown, _) => registerAll grown rest

/-- Fills the registry anew. -/
def loadEntities : Action Context Unit := fun context =>
  let (entities, result) := registerAll {} (bareEntities context)
  ⟨result, { context with entities }, []⟩

end EntityPipeline
