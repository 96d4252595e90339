-- Reading definitions. The options of an entity stand among its own members and are checked after
-- them. Flags may also be written as words, a search engine may be switched off in three ways, and
-- access rules may be given by position.
import EntityPipeline.Definition.Written
import EntityPipeline.Json.Decode

namespace EntityPipeline

open Json

/-! ## Options -/

/-- The strategies for data transfer objects by name. -/
def DtoStrategy.variants : List (String × DtoStrategy) :=
  [("no", .no), ("mapstruct", .mapstruct)]

/-- The pagination strategies by name. -/
def PaginationStrategy.variants : List (String × PaginationStrategy) :=
  [("no", .no), ("pagination", .pagination), ("infinite-scroll", .infiniteScroll)]

/-- The service strategies by name. -/
def ServiceStrategy.variants : List (String × ServiceStrategy) :=
  [("no", .no), ("serviceClass", .serviceClass), ("serviceImpl", .serviceImpl)]

/-- The cardinalities by name. -/
def Cardinality.variants : List (String × Cardinality) :=
  [("one-to-one", .oneToOne), ("one-to-many", .oneToMany), ("many-to-one", .manyToOne),
    ("many-to-many", .manyToMany)]

/-- A flag given as a boolean or as a word. -/
def readFlag : Decoder Bool
  | .bool b => .ok b
  | .text s =>
    if s == "no" || s == "false" then .ok false
    else if s == "yes" || s == "true" then .ok true
    else .error (.unclearFlag s)
  | .unreadable _ => .error (.fault .malformed)
  | .broken f => .error (.fault f)
  | _ => .error .unclearFlagForm

/-- A search engine by name; `false`, `no` and the empty name switch it off. -/
def SearchEngine.read : Decoder SearchEngine
  | .bool false => .ok .no
  | .bool true => .error .unnamedEngine
  | .text s => .ok (if s == "no" || s == "" then .no else .engine s)
  | .unreadable _ => .error (.fault .malformed)
  | .broken f => .error (.fault f)
  | _ => .error .unclearEngineForm

/-- A record of a name and a list, given by key or by position. Positions past the second are
refused, the list may be missing. -/
def readRule {α : Type} (record first second : String) (build : String → List String → α) :
    Decoder α
  | .object members ending => do
    checkRecord [(first, Decoder.text.check), (second, (Decoder.list Decoder.text).check)]
      skipUnknown members ending
    let name ← required first .text members
    let list ← defaulted second (.list .text) [] members
    return build name list
  | .array items ending =>
    match items with
    | [] => do
      ending.check
      .error (.tooFewItems 0 (record ++ " with 2 elements"))
    | [name] => do
      let name ← Decoder.text name
      ending.check
      return build name []
    | name :: list :: rest => do
      let name ← Decoder.text name
      let list ← Decoder.list .text list
      ending.check
      if rest.isEmpty then return build name list
      else .error (.tooManyItems items.length 2)
  | d => d.mismatch record

/-- A rule for a role. -/
def RoleRule.read : Decoder RoleRule :=
  readRule "struct RoleSecurity" "role" "actionList" fun role actions => ⟨role, actions⟩

/-- A rule for an action. -/
def PrivilegeRule.read : Decoder PrivilegeRule :=
  readRule "struct CustomSecurity" "action" "privList" fun action privileges =>
    ⟨action, privileges⟩

/-- The members of access rules. -/
def Security.schema : Schema :=
  [("securityType", Decoder.text.optional.check),
    ("roles", (Decoder.list RoleRule.read).check),
    ("customSecurity", (Decoder.list PrivilegeRule.read).check)]

/-- Access rules. -/
def Security.read : Decoder Security
  | .object members ending => do
    checkRecord Security.schema Decoder.value.check members ending
    return {
      kind := ← optionalField "securityType" .text members
      roles := ← defaulted "roles" (.list RoleRule.read) [] members
      privileges := ← defaulted "customSecurity" (.list PrivilegeRule.read) [] members
      extra := ← extraMembers Security.schema members }
  | d => d.mismatch "struct EntitySecurity"

/-- The members of options. -/
def EntityOptions.schema : Schema :=
  [("dto", (Decoder.variant DtoStrategy.variants).optional.check),
    ("pagination", (Decoder.variant PaginationStrategy.variants).optional.check),
    ("service", (Decoder.variant ServiceStrategy.variants).optional.check),
    ("jpaMetamodelFiltering", (Decoder.optional readFlag).check),
    ("fluentMethods", (Decoder.optional readFlag).check),
    ("readOnly", (Decoder.optional readFlag).check),
    ("embedded", (Decoder.optional readFlag).check),
    ("searchEngine", SearchEngine.read.optional.check),
    ("clientRootFolder", Decoder.text.optional.check),
    ("microserviceName", Decoder.text.optional.check),
    ("angularJSSuffix", Decoder.text.optional.check),
    ("skipClient", (Decoder.optional readFlag).check),
    ("skipServer", (Decoder.optional readFlag).check),
    ("secure", Security.read.optional.check)]

/-- Options out of members, all of which can be read as values. -/
def EntityOptions.ofMembers (members : List (String × Draft)) :
    Except ReadError EntityOptions := do
  checkMembers EntityOptions.schema skipUnknown [] members
  return {
    dto := ← optionalField "dto" (.variant DtoStrategy.variants) members
    pagination := ← optionalField "pagination" (.variant PaginationStrategy.variants) members
    service := ← optionalField "service" (.variant ServiceStrategy.variants) members
    jpaMetamodelFiltering := ← optionalField "jpaMetamodelFiltering" readFlag members
    fluentMethods := ← optionalField "fluentMethods" readFlag members
    readOnly := ← optionalField "readOnly" readFlag members
    embedded := ← optionalField "embedded" readFlag members
    searchEngine := ← optionalField "searchEngine" SearchEngine.read members
    clientRootFolder := ← optionalField "clientRootFolder" .text members
    microserviceName := ← optionalField "microserviceName" .text members
    angularJSSuffix := ← optionalField "angularJSSuffix" .text members
    skipClient := ← optionalField "skipClient" readFlag members
    skipServer := ← optionalField "skipServer" readFlag members
    secure := ← optionalField "secure" Security.read members
    extra := ← extraMembers EntityOptions.schema members }

/-- Options as a value of their own. -/
def EntityOptions.read : Decoder EntityOptions
  | .object members ending => do
    ending.check
    EntityOptions.ofMembers members
  | d => d.mismatch "struct EntityOptions"

/-! ## Fields and relationships -/

/-- The members of a field. -/
def FieldDefinition.schema : Schema :=
  [("fieldName", Decoder.text.check),
    ("fieldType", Decoder.text.check),
    ("javadoc", Decoder.text.optional.check),
    ("fieldValues", Decoder.text.optional.check),
    ("fieldTypeBlobContent", Decoder.text.optional.check),
    ("fieldValidateRules", (Decoder.list Decoder.text).check),
    ("fieldValidateRulesMinlength", Decoder.value.optional.check),
    ("fieldValidateRulesMaxlength", Decoder.value.optional.check),
    ("fieldValidateRulesPattern", Decoder.text.optional.check),
    ("fieldValidateRulesMin", Decoder.value.optional.check),
    ("fieldValidateRulesMax", Decoder.value.optional.check),
    ("fieldValidateRulesMinbytes", Decoder.value.optional.check),
    ("fieldValidateRulesMaxbytes", Decoder.value.optional.check),
    ("id", Decoder.bool.optional.check)]

/-- A field. -/
def FieldDefinition.read : Decoder FieldDefinition
  | .object members ending => do
    checkRecord FieldDefinition.schema Decoder.value.check members ending
    return {
      name := ← required "fieldName" .text members
      type := ← required "fieldType" .text members
      javadoc := ← optionalField "javadoc" .text members
      values := ← optionalField "fieldValues" .text members
      blobContent := ← optionalField "fieldTypeBlobContent" .text members
      rules := ← defaulted "fieldValidateRules" (.list .text) [] members
      minLength := ← optionalField "fieldValidateRulesMinlength" .value members
      maxLength := ← optionalField "fieldValidateRulesMaxlength" .value members
      pattern := ← optionalField "fieldValidateRulesPattern" .text members
      min := ← optionalField "fieldValidateRulesMin" .value members
      max := ← optionalField "fieldValidateRulesMax" .value members
      minBytes := ← optionalField "fieldValidateRulesMinbytes" .value members
      maxBytes := ← optionalField "fieldValidateRulesMaxbytes" .value members
      id := ← optionalField "id" .bool members
      extra := ← extraMembers FieldDefinition.schema members }
  | d => d.mismatch "struct FieldDefinition"

/-- Where a draft comes from: a text that is still being read, or a value. -/
inductive Origin where
  | text
  | value
deriving DecidableEq, Repr, Inhabited

/-- A cardinality. -/
def Cardinality.read : Origin → Decoder Cardinality
  | .text => .variantInText Cardinality.variants
  | .value => .variant Cardinality.variants

/-- The members of a relationship. -/
def RelationshipDefinition.schema (origin : Origin) : Schema :=
  [("relationshipType", (Cardinality.read origin).check),
    ("relationshipName", Decoder.text.optional.check),
    ("otherEntityName", Decoder.text.check),
    ("otherEntityRelationshipName", Decoder.text.optional.check),
    ("otherEntityField", Decoder.text.optional.check),
    ("ownerSide", Decoder.bool.optional.check),
    ("relationshipValidateRules", Decoder.value.optional.check),
    ("javadoc", Decoder.text.optional.check),
    ("id", Decoder.bool.optional.check)]

/-- A relationship. -/
def RelationshipDefinition.read (origin : Origin) : Decoder RelationshipDefinition
  | .object members ending => do
    checkRecord (schema origin) Decoder.value.check members ending
    return {
      cardinality := ← required "relationshipType" (Cardinality.read origin) members
      name := ← optionalField "relationshipName" .text members
      otherEntity := ← required "otherEntityName" .text members
      inverseName := ← optionalField "otherEntityRelationshipName" .text members
      otherField := ← optionalField "otherEntityField" .text members
      ownerSide := ← optionalField "ownerSide" .bool members
      rules := ← optionalField "relationshipValidateRules" .value members
      javadoc := ← optionalField "javadoc" .text members
      id := ← optionalField "id" .bool members
      extra := ← extraMembers (schema origin) members }
  | d => d.mismatch "struct RelationshipDefinition"

/-! ## Entities -/

/-- The members of an entity that are not options. -/
def EntityDefinition.schema (origin : Origin) : Schema :=
  [("name", Decoder.text.check),
    ("fields", (Decoder.list FieldDefinition.read).check),
    ("relationships", (Decoder.list (RelationshipDefinition.read origin)).check),
    ("javadoc", Decoder.text.optional.check),
    ("changelogDate", Decoder.text.optional.check),
    ("entityTableName", Decoder.text.optional.check)]

/-- An entity. -/
def EntityDefinition.read (origin : Origin) : Decoder EntityDefinition
  | .object members ending => do
    checkRecord (schema origin) Decoder.value.check members ending
    return {
      name := ← defaulted "name" .text "" members
      fields := ← defaulted "fields" (.list FieldDefinition.read) [] members
      relationships :=
        ← defaulted "relationships" (.list (RelationshipDefinition.read origin)) [] members
      javadoc := ← optionalField "javadoc" .text members
      changelogDate := ← optionalField "changelogDate" .text members
      tableName := ← optionalField "entityTableName" .text members
      options := ← EntityOptions.ofMembers (unknownMembers (schema origin) members) }
  | d => d.mismatch "struct EntityDefinition"

/-- An entity out of a value. -/
def EntityDefinition.ofJson (value : Json) : Except ReadError EntityDefinition :=
  Decoder.ofJson (EntityDefinition.read .value) value

end EntityPipeline
