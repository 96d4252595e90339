-- Entity definitions as they are authored: names, fields, relationships and options, and nothing
-- that can be derived. Members that a record does not know are carried along in `extra`.
import EntityPipeline.Definition.Options

namespace EntityPipeline

/-! ## Fields -/

/-- A declared field. -/
structure FieldDefinition where
  name : String
  type : String
  javadoc : Option String := none
  values : Option String := none
  blobContent : Option String := none
  rules : List String := []
  minLength : Option Json := none
  maxLength : Option Json := none
  pattern : Option String := none
  min : Option Json := none
  max : Option Json := none
  minBytes : Option Json := none
  maxBytes : Option Json := none
  id : Option Bool := none
  extra : Extra := []
deriving Repr, Inhabited

namespace FieldDefinition

/-- Whether a field belongs to the primary key: as it says itself, else by its name `id`. -/
def isId (field : FieldDefinition) : Bool := field.id.getD (field.name == "id")

/-- Whether a field declares a validation rule. -/
def hasRule (field : FieldDefinition) (rule : String) : Bool := field.rules.contains rule

end FieldDefinition

/-! ## Relationships -/

/-- How many entities stand on the two sides of a relationship. -/
inductive Cardinality where
  | oneToOne
  | oneToMany
  | manyToOne
  | manyToMany
deriving DecidableEq, Repr, Inhabited

namespace Cardinality

/-- The cardinality seen from the other side. -/
def inverse : Cardinality → Cardinality
  | .oneToOne => .oneToOne
  | .oneToMany => .manyToOne
  | .manyToOne => .oneToMany
  | .manyToMany => .manyToMany

/-- Whether this side holds several entities. -/
def isCollection : Cardinality → Bool
  | .oneToMany | .manyToMany => true
  | .oneToOne | .manyToOne => false

/-- The written name of a cardinality. -/
def name : Cardinality → String
  | .oneToOne => "one-to-one"
  | .oneToMany => "one-to-many"
  | .manyToOne => "many-to-one"
  | .manyToMany => "many-to-many"

end Cardinality

/-- A declared relationship. -/
structure RelationshipDefinition where
  cardinality : Cardinality
  name : Option String := none
  otherEntity : String
  inverseName : Option String := none
  otherField : Option String := none
  ownerSide : Option Bool := none
  rules : Option Json := none
  javadoc : Option String := none
  id : Option Bool := none
  extra : Extra := []
deriving Repr, Inhabited

namespace RelationshipDefinition

/-- Whether a relationship is required: its rules are the word or list it. -/
def isRequired (relationship : RelationshipDefinition) : Bool :=
  match relationship.rules with
  | some (.string rule) => rule == "required"
  | some (.array rules) => rules.any fun rule => rule.text? == some "required"
  | _ => false

/-- Whether a relationship belongs to the primary key. -/
def isId (relationship : RelationshipDefinition) : Bool := relationship.id == some true

end RelationshipDefinition

/-! ## Entities -/

/-- A declared entity. -/
structure EntityDefinition where
  name : String := ""
  fields : List FieldDefinition := []
  relationships : List RelationshipDefinition := []
  javadoc : Option String := none
  changelogDate : Option String := none
  tableName : Option String := none
  options : EntityOptions := {}
deriving Repr, Inhabited

namespace EntityDefinition

/-- Whether a relationship belongs to the primary key. -/
def hasIdRelationship (definition : EntityDefinition) : Bool :=
  definition.relationships.any RelationshipDefinition.isId

/-- Whether a field belongs to the primary key. -/
def hasIdField (definition : EntityDefinition) : Bool :=
  definition.fields.any FieldDefinition.isId

end EntityDefinition

end EntityPipeline
