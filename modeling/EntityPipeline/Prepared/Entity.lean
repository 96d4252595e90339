-- Prepared entities. An entity starts bare, with a name, a table and resolved options, and is
-- filled in phase by phase; its definition stays as it was declared.
import EntityPipeline.ChangelogDate
import EntityPipeline.Config
import EntityPipeline.Prepared.Field
import EntityPipeline.Prepared.PrimaryKey
import EntityPipeline.Prepared.Relationship

namespace EntityPipeline

/-! ## Options and strategies -/

/-- Options with every default applied. -/
structure ResolvedOptions where
  dto : DtoStrategy
  pagination : PaginationStrategy
  service : ServiceStrategy
  fluentMethods : Bool
  jpaMetamodelFiltering : Bool
  readOnly : Bool
  embedded : Bool
  searchEngine : SearchEngine
  skipClient : Bool
  skipServer : Bool
  clientRootFolder : String
  microserviceName : Option String
  angularJSSuffix : Option String
deriving DecidableEq, Repr, Inhabited

namespace ResolvedOptions

/-- The options that an application gives to every entity. -/
def defaults (config : ApplicationConfig) : EntityOptions where
  dto := some .no
  pagination := some .no
  service := some .no
  fluentMethods := some true
  jpaMetamodelFiltering := some false
  readOnly := some false
  embedded := some false
  searchEngine := some config.searchEngine
  skipClient := some config.skipClient
  skipServer := some config.skipServer
  clientRootFolder := some ""

/-- Options resolved against defaults. -/
def resolve (options defaults : EntityOptions) : ResolvedOptions :=
  let merged := options.withDefaults defaults
  { dto := merged.dto.getD .no
    pagination := merged.pagination.getD .no
    service := merged.service.getD .no
    fluentMethods := merged.fluentMethods.getD true
    jpaMetamodelFiltering := merged.jpaMetamodelFiltering.getD false
    readOnly := merged.readOnly.getD false
    embedded := merged.embedded.getD false
    searchEngine := merged.searchEngine.getD .no
    skipClient := merged.skipClient.getD false
    skipServer := merged.skipServer.getD false
    clientRootFolder := merged.clientRootFolder.getD ""
    microserviceName := merged.microserviceName
    angularJSSuffix := merged.angularJSSuffix }

/-- Resolved options as members. -/
def members (options : ResolvedOptions) : Extra :=
  [("dto", .string options.dto.name),
    ("pagination", .string options.pagination.name),
    ("service", .string options.service.name),
    ("fluentMethods", .bool options.fluentMethods),
    ("jpaMetamodelFiltering", .bool options.jpaMetamodelFiltering),
    ("readOnly", .bool options.readOnly),
    ("embedded", .bool options.embedded),
    ("searchEngine", options.searchEngine.toJson),
    ("skipClient", .bool options.skipClient),
    ("skipServer", .bool options.skipServer),
    ("clientRootFolder", .string options.clientRootFolder)] ++
  optionalMember "microserviceName" .string options.microserviceName ++
  optionalMember "angularJsSuffix" .string options.angularJSSuffix

/-- Resolved options as a value of their own. -/
def toJson (options : ResolvedOptions) : Json := .object options.members

end ResolvedOptions

/-- The chosen strategies as flags. -/
structure StrategyFlags where
  paginationNo : Bool
  paginationPagination : Bool
  paginationInfiniteScroll : Bool
  serviceNo : Bool
  serviceImpl : Bool
  dtoMapstruct : Bool
deriving DecidableEq, Repr, Inhabited

namespace StrategyFlags

/-- The flags of resolved options. -/
def ofOptions (options : ResolvedOptions) : StrategyFlags where
  paginationNo := options.pagination == .no
  paginationPagination := options.pagination == .pagination
  paginationInfiniteScroll := options.pagination == .infiniteScroll
  serviceNo := options.service == .no
  serviceImpl := options.service == .serviceImpl
  dtoMapstruct := options.dto == .mapstruct

/-- The flags as members. -/
def members (flags : StrategyFlags) : Extra :=
  [("paginationNo", .bool flags.paginationNo),
    ("paginationPagination", .bool flags.paginationPagination),
    ("paginationInfiniteScroll", .bool flags.paginationInfiniteScroll),
    ("serviceNo", .bool flags.serviceNo),
    ("serviceImpl", .bool flags.serviceImpl),
    ("dtoMapstruct", .bool flags.dtoMapstruct)]

/-- The flags as a value of their own. -/
def toJson (flags : StrategyFlags) : Json := .object flags.members

end StrategyFlags

/-! ## Names -/

/-- The names derived from the name of an entity. -/
structure EntityNames where
  nameCapitalized : String := ""
  namePlural : String := ""
  className : String := ""
  classPlural : String := ""
  classHumanized : String := ""
  classPluralHumanized : String := ""
  instanceName : String := ""
  instancePlural : String := ""
  fileName : String := ""
  folderName : String := ""
  modelFileName : String := ""
  serviceFileName : String := ""
  url : String := ""
  apiUrl : String := ""
  stateName : String := ""
  messageKey : String := ""
  menuMessageKey : String := ""
  angularName : String := ""
  reactName : String := ""
  api : String := ""
  i18nKey : String := ""
  i18nAlertHeader : String := ""
  persistClass : String := ""
  persistInstance : String := ""
  restClass : String := ""
  restInstance : String := ""
  dtoClass : String := ""
  dtoInstance : String := ""
deriving DecidableEq, Repr, Inhabited

/-- The names as members. -/
def EntityNames.members (names : EntityNames) : Extra :=
  [("entityNameCapitalized", .string names.nameCapitalized),
    ("entityNamePlural", .string names.namePlural),
    ("entityClass", .string names.className),
    ("entityClassPlural", .string names.classPlural),
    ("entityClassHumanized", .string names.classHumanized),
    ("entityClassPluralHumanized", .string names.classPluralHumanized),
    ("entityInstance", .string names.instanceName),
    ("entityInstancePlural", .string names.instancePlural),
    ("entityFileName", .string names.fileName),
    ("entityFolderName", .string names.folderName),
    ("entityModelFileName", .string names.modelFileName),
    ("entityServiceFileName", .string names.serviceFileName),
    ("entityUrl", .string names.url),
    ("entityApiUrl", .string names.apiUrl),
    ("entityStateName", .string names.stateName),
    ("entityTranslationKey", .string names.messageKey),
    ("entityTranslationKeyMenu", .string names.menuMessageKey),
    ("entityAngularName", .string names.angularName),
    ("entityReactName", .string names.reactName),
    ("entityApi", .string names.api),
    ("i18nKeyPrefix", .string names.i18nKey),
    ("i18nAlertHeaderPrefix", .string names.i18nAlertHeader),
    ("persistClass", .string names.persistClass),
    ("persistInstance", .string names.persistInstance),
    ("restClass", .string names.restClass),
    ("restInstance", .string names.restInstance),
    ("dtoClass", .string names.dtoClass),
    ("dtoInstance", .string names.dtoInstance)]

/-! ## Aggregates -/

/-- What the fields and relationships of an entity have in common. -/
structure EntityAggregates where
  bigDecimal : Bool := false
  blob : Bool := false
  blobOrImage : Bool := false
  date : Bool := false
  duration : Bool := false
  embedded : Bool := false
  imageBlob : Bool := false
  instant : Bool := false
  localDate : Bool := false
  manyToOne : Bool := false
  noOwnerOneToOne : Bool := false
  oneToMany : Bool := false
  ownerManyToMany : Bool := false
  ownerOneToOne : Bool := false
  textBlob : Bool := false
  uuid : Bool := false
  zonedDateTime : Bool := false
  javadoc : Bool := false
  validation : Bool := false
  blobFields : List String := []
  differentTypes : List String := []
  otherEntities : List String := []
deriving DecidableEq, Repr, Inhabited

/-- The aggregates as members. -/
def EntityAggregates.members (aggregates : EntityAggregates) : Extra :=
  [("fieldsContainBigDecimal", .bool aggregates.bigDecimal),
    ("fieldsContainBlob", .bool aggregates.blob),
    ("fieldsContainBlobOrImage", .bool aggregates.blobOrImage),
    ("fieldsContainDate", .bool aggregates.date),
    ("fieldsContainDuration", .bool aggregates.duration),
    ("fieldsContainEmbedded", .bool aggregates.embedded),
    ("fieldsContainImageBlob", .bool aggregates.imageBlob),
    ("fieldsContainInstant", .bool aggregates.instant),
    ("fieldsContainLocalDate", .bool aggregates.localDate),
    ("fieldsContainManyToOne", .bool aggregates.manyToOne),
    ("fieldsContainNoOwnerOneToOne", .bool aggregates.noOwnerOneToOne),
    ("fieldsContainOneToMany", .bool aggregates.oneToMany),
    ("fieldsContainOwnerManyToMany", .bool aggregates.ownerManyToMany),
    ("fieldsContainOwnerOneToOne", .bool aggregates.ownerOneToOne),
    ("fieldsContainTextBlob", .bool aggregates.textBlob),
    ("fieldsContainUUID", .bool aggregates.uuid),
    ("fieldsContainZonedDateTime", .bool aggregates.zonedDateTime),
    ("haveFieldWithJavadoc", .bool aggregates.javadoc),
    ("validation", .bool aggregates.validation),
    ("blobFields", stringsToJson aggregates.blobFields),
    ("differentTypes", stringsToJson aggregates.differentTypes),
    ("otherEntities", stringsToJson aggregates.otherEntities)]

/-! ## Entities -/

/-- A prepared entity. -/
structure Entity where
  name : String
  definition : EntityDefinition
  tableName : String
  changelogDate : Option String
  createdAt : Option ChangelogDate
  javadoc : Option String
  builtIn : Bool
  builtInUser : Bool
  options : ResolvedOptions
  strategies : StrategyFlags
  names : EntityNames
  fields : List Field
  relationships : List Relationship
  primaryKey : Option PrimaryKey
  aggregates : EntityAggregates
deriving Repr, Inhabited

namespace Entity

/-- An entity of which nothing has been prepared. -/
def bare (definition : EntityDefinition) (options : ResolvedOptions) (tableName : String) :
    Entity where
  name := definition.name
  definition := definition
  tableName := tableName
  changelogDate := definition.changelogDate
  createdAt := definition.changelogDate.bind ChangelogDate.parse
  javadoc := definition.javadoc
  builtIn := false
  builtInUser := false
  options := options
  strategies := .ofOptions options
  names := {}
  fields := []
  relationships := []
  primaryKey := none
  aggregates := {}

/-- The prepared field of a name. -/
def field? (entity : Entity) (name : String) : Option Field :=
  entity.fields.find? (·.name == name)

/-- The prepared relationship of a name. -/
def relationship? (entity : Entity) (name : String) : Option Relationship :=
  entity.relationships.find? (·.name == name)

/-- An entity as a value. -/
def toJson (entity : Entity) : Json :=
  .object ([("name", .string entity.name), ("entityTableName", .string entity.tableName)] ++
    optionalMember "changelogDate" .string entity.changelogDate ++
    optionalMember "changelogDateForRecent" (.string ·.render) entity.createdAt ++
    optionalMember "javadoc" .string entity.javadoc ++
    [("builtIn", .bool entity.builtIn), ("builtInUser", .bool entity.builtInUser)] ++
    entity.options.members ++ entity.strategies.members ++ entity.names.members ++
    [("fields", .array (entity.fields.map Field.toJson)),
      ("relationships", .array (entity.relationships.map Relationship.toJson))] ++
    optionalMember "primaryKey" PrimaryKey.toJson entity.primaryKey ++
    entity.aggregates.members)

end Entity

end EntityPipeline
