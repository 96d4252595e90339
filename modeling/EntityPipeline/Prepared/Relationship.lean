-- Prepared relationships. The other entity is held by its place in the registry, since entities may
-- be declared in any order and refer to each other.
import EntityPipeline.Definition.Written

namespace EntityPipeline

/-- A prepared relationship. -/
structure Relationship where
  cardinality : Cardinality
  name : String
  nameCapitalized : String
  nameHumanized : String
  fieldName : String
  fieldNamePlural : String
  otherEntity : String
  inverseName : Option String
  otherField : String
  target : Option Nat
  ownerSide : Bool
  required : Bool
  collection : Bool
  id : Bool
  javadoc : Option String
  synthesized : Bool
deriving DecidableEq, Repr, Inhabited

namespace Relationship

/-- Whether a relationship is the owner side of a one-to-one. -/
def isOwnerOneToOne (relationship : Relationship) : Bool :=
  relationship.cardinality == .oneToOne && relationship.ownerSide

/-- A prepared relationship as a value. -/
def toJson (relationship : Relationship) : Json :=
  .object ([("relationshipType", .string relationship.cardinality.name),
      ("relationshipName", .string relationship.name),
      ("relationshipNameCapitalized", .string relationship.nameCapitalized),
      ("relationshipNameHumanized", .string relationship.nameHumanized),
      ("relationshipFieldName", .string relationship.fieldName),
      ("relationshipFieldNamePlural", .string relationship.fieldNamePlural),
      ("otherEntityName", .string relationship.otherEntity)] ++
    optionalMember "otherEntityRelationshipName" .string relationship.inverseName ++
    [("otherEntityField", .string relationship.otherField),
      ("ownerSide", .bool relationship.ownerSide),
      ("relationshipRequired", .bool relationship.required),
      ("collection", .bool relationship.collection),
      ("id", .bool relationship.id)] ++
    optionalMember "javadoc" .string relationship.javadoc ++
    [("synthesized", .bool relationship.synthesized)])

end Relationship

end EntityPipeline
