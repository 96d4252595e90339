-- Definitions as JSON values. What is open or empty is not written, and a search engine that is
-- switched off is written `false`.
import EntityPipeline.Definition.Basic

namespace EntityPipeline

/-- A member that is written only when there is a value. -/
def optionalMember {α : Type} (key : String) (write : α → Json) : Option α → Extra
  | none => []
  | some a => [(key, write a)]

/-- A member that is written only when there is a value, as the value itself. -/
def valueMember (key : String) (value : Option Json) : Extra :=
  optionalMember key (fun v => v) value

/-- A member that is written only when the list has items. -/
def listMember {α : Type} (key : String) (write : α → Json) : List α → Extra
  | [] => []
  | items => [(key, .array (items.map write))]

/-- The written name of a strategy for data transfer objects. -/
def DtoStrategy.name : DtoStrategy → String
  | .no => "no"
  | .mapstruct => "mapstruct"

/-- The written name of a pagination strategy. -/
def PaginationStrategy.name : PaginationStrategy → String
  | .no => "no"
  | .pagination => "pagination"
  | .infiniteScroll => "infinite-scroll"

/-- The written name of a service strategy. -/
def ServiceStrategy.name : ServiceStrategy → String
  | .no => "no"
  | .serviceClass => "serviceClass"
  | .serviceImpl => "serviceImpl"

/-- A search engine as a value. -/
def SearchEngine.toJson : SearchEngine → Json
  | .no => .bool false
  | .engine name => .string name

/-- A list of strings as a value. -/
def stringsToJson (items : List String) : Json := .array (items.map Json.string)

/-- A rule for a role as a value. -/
def RoleRule.toJson (rule : RoleRule) : Json :=
  .ofMembers [("role", .string rule.role), ("actionList", stringsToJson rule.actions)]

/-- A rule for an action as a value. -/
def PrivilegeRule.toJson (rule : PrivilegeRule) : Json :=
  .ofMembers [("action", .string rule.action), ("privList", stringsToJson rule.privileges)]

/-- Access rules as a value. -/
def Security.toJson (security : Security) : Json :=
  .ofMembers (optionalMember "securityType" .string security.kind ++
    listMember "roles" RoleRule.toJson security.roles ++
    listMember "customSecurity" PrivilegeRule.toJson security.privileges ++ security.extra)

/-- Options as members of the entity that has them. -/
def EntityOptions.members (options : EntityOptions) : List (String × Json) :=
  optionalMember "dto" (.string ·.name) options.dto ++
  optionalMember "pagination" (.string ·.name) options.pagination ++
  optionalMember "service" (.string ·.name) options.service ++
  optionalMember "jpaMetamodelFiltering" .bool options.jpaMetamodelFiltering ++
  optionalMember "fluentMethods" .bool options.fluentMethods ++
  optionalMember "readOnly" .bool options.readOnly ++
  optionalMember "embedded" .bool options.embedded ++
  optionalMember "searchEngine" SearchEngine.toJson options.searchEngine ++
  optionalMember "clientRootFolder" .string options.clientRootFolder ++
  optionalMember "microserviceName" .string options.microserviceName ++
  optionalMember "angularJSSuffix" .string options.angularJSSuffix ++
  optionalMember "skipClient" .bool options.skipClient ++
  optionalMember "skipServer" .bool options.skipServer ++
  optionalMember "secure" Security.toJson options.secure ++
  options.extra

/-- Options as a value of their own. -/
def EntityOptions.toJson (options : EntityOptions) : Json := .ofMembers options.members

/-- A field as a value. -/
def FieldDefinition.toJson (field : FieldDefinition) : Json :=
  .ofMembers ([("fieldName", .string field.name), ("fieldType", .string field.type)] ++
    optionalMember "javadoc" .string field.javadoc ++
    optionalMember "fieldValues" .string field.values ++
    optionalMember "fieldTypeBlobContent" .string field.blobContent ++
    listMember "fieldValidateRules" .string field.rules ++
    valueMember "fieldValidateRulesMinlength" field.minLength ++
    valueMember "fieldValidateRulesMaxlength" field.maxLength ++
    optionalMember "fieldValidateRulesPattern" .string field.pattern ++
    valueMember "fieldValidateRulesMin" field.min ++
    valueMember "fieldValidateRulesMax" field.max ++
    valueMember "fieldValidateRulesMinbytes" field.minBytes ++
    valueMember "fieldValidateRulesMaxbytes" field.maxBytes ++
    optionalMember "id" .bool field.id ++ field.extra)

/-- A relationship as a value. -/
def RelationshipDefinition.toJson (relationship : RelationshipDefinition) : Json :=
  .ofMembers ([("relationshipType", .string relationship.cardinality.name)] ++
    optionalMember "relationshipName" .string relationship.name ++
    [("otherEntityName", .string relationship.otherEntity)] ++
    optionalMember "otherEntityRelationshipName" .string relationship.inverseName ++
    optionalMember "otherEntityField" .string relationship.otherField ++
    optionalMember "ownerSide" .bool relationship.ownerSide ++
    valueMember "relationshipValidateRules" relationship.rules ++
    optionalMember "javadoc" .string relationship.javadoc ++
    optionalMember "id" .bool relationship.id ++ relationship.extra)

/-- An entity as a value. -/
def EntityDefinition.toJson (definition : EntityDefinition) : Json :=
  .ofMembers ([("name", .string definition.name),
      ("fields", .array (definition.fields.map FieldDefinition.toJson)),
      ("relationships", .array (definition.relationships.map RelationshipDefinition.toJson))] ++
    optionalMember "javadoc" .string definition.javadoc ++
    optionalMember "changelogDate" .string definition.changelogDate ++
    optionalMember "entityTableName" .string definition.tableName ++
    definition.options.members)

/-- Two definitions are the same when they are written as the same value. -/
def EntityDefinition.same (first second : EntityDefinition) : Bool :=
  first.toJson.same second.toJson

end EntityPipeline
