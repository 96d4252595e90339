-- Preparing the fields of each entity: types, flags and columns. An entity without any part of a
-- primary key first gets an identifier of its own.
import EntityPipeline.Run.Action
import EntityPipeline.Text.Blank
import EntityPipeline.Text.Pieces

namespace EntityPipeline

/-- The values of an enumeration: what stands between commas, without remarks in parentheses. -/
def enumValues (text : String) : List String :=
  let values := (Text.piecesAt ',' text.toList).map fun value => Text.trim (value.takeWhile (· != '('))
  (values.filter fun value => !value.isEmpty).map String.ofList

/-- A field to prepare, and whether the generator adds it. -/
structure PlannedField where
  definition : FieldDefinition
  added : Bool
deriving Repr, Inhabited

/-- Whether an entity declares no part of a primary key. -/
def lacksId (definition : EntityDefinition) : Bool :=
  !definition.hasIdField && !definition.hasIdRelationship

/-- The fields of an entity in order: an identifier if one is missing, then the declared ones. -/
def plannedFields (definition : EntityDefinition) (config : ApplicationConfig) :
    List PlannedField :=
  let declared := definition.fields.map fun field => ⟨field, false⟩
  if lacksId definition then
    ⟨{ name := "id", type := config.primaryKeyType.name }, true⟩ :: declared
  else declared

/-- Whether exactly one field is the whole primary key, so that a database may generate it. -/
def hasSingleId (definition : EntityDefinition) (planned : List PlannedField) : Bool :=
  (planned.filter fun field => field.definition.isId).length == 1 &&
    !definition.hasIdRelationship

/-- The type of a declared field. -/
def FieldDefinition.fieldType (field : FieldDefinition) : Option FieldType :=
  FieldType.parse field.type field.blobContent field.values.isSome

/-- A prepared field of the given type. -/
def preparedField (entity : Entity) (config : ApplicationConfig) (definition : FieldDefinition)
    (type : FieldType) (builtIn singleId : Bool) : Field :=
  let name := definition.name
  let id := definition.isId
  let content := type.blobContent
  let validation := ValidationFlags.ofRules definition.rules
  { name
    type
    javadoc := definition.javadoc
    enumValues := match definition.values with
      | some values => enumValues values
      | none => []
    nameCapitalized := Text.upperFirst name
    nameUnderscored := Text.snake name
    nameHumanized := if name == "id" then "ID" else Text.humanize name
    beanName := Text.beanName name
    columnName := Text.unreserved config.jhiPrefix (Text.columnName name)
    messageKey :=
      if id then "global.field.id" else entity.names.i18nKey ++ "." ++ name
    tsType := type.tsType
    id
    autoGenerate := id && singleId && type.isAutoGeneratable
    readonly := id
    nullable := !validation.required && !id
    unique := validation.unique
    builtIn
    blobAny := content == some .any
    blobImage := content == some .image
    blobText := content == some .text
    withContentType := content == some .any || content == some .image
    typeFlags := .ofType type
    validation
    rules := definition.rules
    minLength := definition.minLength
    maxLength := definition.maxLength
    pattern := definition.pattern
    min := definition.min
    max := definition.max
    minBytes := definition.minBytes
    maxBytes := definition.maxBytes }

/-- A planned field prepared, if its type is known. -/
def prepareField (entity : Entity) (config : ApplicationConfig) (singleId : Bool)
    (planned : PlannedField) : Except Failure Field :=
  let definition := planned.definition
  match definition.fieldType with
  | none => .error (.unknownFieldType entity.name definition.name definition.type)
  | some type =>
    .ok (preparedField entity config definition type (planned.added || entity.builtIn) singleId)

/-- Planned fields prepared in order, up to the first one of unknown type. -/
def prepareEach (entity : Entity) (config : ApplicationConfig) (singleId : Bool) :
    List PlannedField → Except Failure (List Field)
  | [] => .ok []
  | planned :: rest =>
    match prepareField entity config singleId planned with
    | .error e => .error e
    | .ok field =>
      match prepareEach entity config singleId rest with
      | .error e => .error e
      | .ok fields => .ok (field :: fields)

/-- The prepared fields of an entity. -/
def entityFields (entity : Entity) (config : ApplicationConfig) : Except Failure (List Field) :=
  let planned := plannedFields entity.definition config
  prepareEach entity config (hasSingleId entity.definition planned) planned

/-- Prepares the fields of every entity. -/
def prepareFields : Action Context Unit := fun context =>
  let (slots, result) := Slot.changeAll
    (fun entity => (entityFields entity context.config).map fun fields => { entity with fields })
    context.entities.slots
  ⟨result, { context with entities := ⟨slots⟩ }, []⟩

end EntityPipeline
