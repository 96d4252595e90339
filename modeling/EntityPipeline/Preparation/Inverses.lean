-- The relationships of a registry: declared ones with their targets found, and the other sides that
-- a relationship names but its target does not declare.
import EntityPipeline.Run.Action

namespace EntityPipeline

/-- A relationship of which only cardinality and name are settled. -/
def namedRelationship (cardinality : Cardinality) (name : String) : Relationship where
  cardinality := cardinality
  name := name
  nameCapitalized := Text.upperFirst name
  nameHumanized := Text.humanize name
  fieldName := Text.lowerFirst name
  fieldNamePlural := Text.pluralize (Text.lowerFirst name)
  otherEntity := ""
  inverseName := none
  otherField := "id"
  target := none
  ownerSide := false
  required := false
  collection := cardinality.isCollection
  id := false
  javadoc := none
  synthesized := false

/-! ## Declared relationships -/

/-- The name of a declared relationship: its own, or that of the other entity. -/
def RelationshipDefinition.effectiveName (definition : RelationshipDefinition) : String :=
  definition.name.getD (Text.lowerFirst definition.otherEntity)

/-- A declared relationship whose target is at a place. -/
def declaredRelationship (definition : RelationshipDefinition) (target : Nat) : Relationship :=
  { namedRelationship definition.cardinality definition.effectiveName with
    otherEntity := definition.otherEntity
    inverseName := definition.inverseName
    otherField := definition.otherField.getD "id"
    target := some target
    ownerSide := definition.ownerSide.getD (definition.cardinality != .oneToMany)
    required := definition.isRequired
    id := definition.isId
    javadoc := definition.javadoc }

/-- The declared relationships of an entity, up to the first one without a target. -/
def resolveEach (registry : Registry) (entity : String) :
    List RelationshipDefinition → Except Failure (List Relationship)
  | [] => .ok []
  | definition :: rest =>
    match registry.placeOf? definition.otherEntity with
    | none =>
      .error (.unresolvedReference entity definition.effectiveName definition.otherEntity)
    | some target =>
      match resolveEach registry entity rest with
      | .error e => .error e
      | .ok others => .ok (declaredRelationship definition target :: others)

/-- The declared relationships of each entity, up to the first failure. -/
def resolveAll (registry : Registry) : List Slot → Except Failure (List (List Relationship))
  | [] => .ok []
  | slot :: rest =>
    match resolveEach registry slot.entity.name slot.entity.definition.relationships with
    | .error e => .error e
    | .ok relationships =>
      match resolveAll registry rest with
      | .error e => .error e
      | .ok others => .ok (relationships :: others)

/-- Gives each slot its relationships, up to the first frozen one. -/
def setRelationships : List Slot → List (List Relationship) → List Slot × Except Failure Unit
  | slot :: slots, relationships :: others =>
    match slot.update fun entity => { entity with relationships } with
    | .error e => (slot :: slots, .error e)
    | .ok changed =>
      let (rest, result) := setRelationships slots others
      (changed :: rest, result)
  | slots, _ => (slots, .ok ())

/-! ## Other sides -/

/-- The other side of a relationship of the entity `source` at a place. -/
def inverseRelationship (source : String) (place : Nat) (relationship : Relationship)
    (name : String) : Relationship :=
  { namedRelationship relationship.cardinality.inverse name with
    otherEntity := source
    inverseName := some relationship.name
    target := some place
    ownerSide := !relationship.ownerSide
    synthesized := true }

/-- A relationship to be added to the entity at a place. -/
structure Addition where
  place : Nat
  relationship : Relationship
deriving DecidableEq, Repr, Inhabited

/-- Whether the target of a relationship has, or is about to get, a relationship of a name. -/
def hasSide (registry : Registry) (additions : List Addition) (target : Nat) (name : String) :
    Bool :=
  ((registry.resolve? target).any fun entity => entity.relationships.any (·.name == name)) ||
    additions.any fun addition => addition.place == target && addition.relationship.name == name

/-- The additions with the other side of one relationship, if it names one that is missing. -/
def addInverse (registry : Registry) (source : Entity) (place : Nat)
    (additions : List Addition) (relationship : Relationship) : List Addition :=
  match relationship.inverseName, relationship.target with
  | some name, some target =>
    if (registry.resolve? target).isNone || hasSide registry additions target name then additions
    else additions ++ [⟨target, inverseRelationship source.name place relationship name⟩]
  | _, _ => additions

/-- The other sides that are missing from a registry, in the order they are met. -/
def missingInverses (registry : Registry) : List Addition :=
  registry.places.foldl (fun additions place =>
    match registry.resolve? place with
    | none => additions
    | some source => source.relationships.foldl (addInverse registry source place) additions) []

/-- Appends relationships to the entities at their places, up to the first failure. -/
def appendAll (registry : Registry) : List Addition → Registry × Except Failure Unit
  | [] => (registry, .ok ())
  | addition :: rest =>
    let change := fun (entity : Entity) =>
      { entity with relationships := entity.relationships ++ [addition.relationship] }
    match registry.updatePlace addition.place change with
    | .error e => (registry, .error e)
    | .ok changed => appendAll changed rest

end EntityPipeline
