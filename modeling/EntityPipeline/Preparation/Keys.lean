-- The primary keys of a registry. An entity without identifying relationships has its own
-- identifiers; the others borrow from the targets of theirs, in passes over the entities that still
-- wait for a target, until none waits or a pass brings nothing.
import EntityPipeline.Run.Action

namespace EntityPipeline

namespace Entity

/-- The relationships that belong to the primary key. -/
def idRelationships (entity : Entity) : List Relationship := entity.relationships.filter (·.id)

/-- The identifiers that are fields of the entity. -/
def ownIds (entity : Entity) : List PrimaryKeyId :=
  (entity.fields.filter (·.id)).map fun field => .own field.name field.type field.autoGenerate

/-- The first identifying relationship that a primary key cannot be borrowed over. -/
def unsupportedId (entity : Entity) : Option Relationship :=
  entity.idRelationships.find? fun r => !(r.cardinality == .manyToOne || r.isOwnerOneToOne)

/-- The entity with the primary key over the given identifiers. -/
def withKey (entity : Entity) (ids : List PrimaryKeyId) (derived : Bool) : Entity :=
  { entity with primaryKey := PrimaryKey.ofIds entity.names.className ids derived }

end Entity

/-- The identifiers borrowed over relationships, unless a target has no key yet. -/
def borrowedIds (registry : Registry) : List Relationship → Option (List PrimaryKeyId)
  | [] => some []
  | relationship :: rest => do
    let target ← relationship.target.bind registry.resolve?
    let key ← target.primaryKey
    let others ← borrowedIds registry rest
    return key.ids.map (PrimaryKeyId.derived relationship.name) ++ others

/-- Refuses an entity with an identifying relationship that cannot be one. -/
def checkIdRelationships : List Slot → Except Failure Unit
  | [] => .ok ()
  | slot :: rest =>
    match slot.entity.unsupportedId with
    | some relationship =>
      .error (.invalidRelationship slot.entity.name relationship.name
        "an id relationship must be many-to-one or the owner side of a one-to-one")
    | none => checkIdRelationships rest

/-- Gives entities without identifying relationships their keys. The places of the others are
kept for later. -/
def ownKeys (registry : Registry) : List Nat → Registry × List Nat × Except Failure Unit
  | [] => (registry, [], .ok ())
  | place :: rest =>
    match registry.resolve? place with
    | none => ownKeys registry rest
    | some entity =>
      if entity.idRelationships.isEmpty then
        match registry.updatePlace place fun e => e.withKey e.ownIds false with
        | .error e => (registry, [], .error e)
        | .ok changed => ownKeys changed rest
      else
        let (changed, waiting, result) := ownKeys registry rest
        (changed, place :: waiting, result)

/-- One pass over the waiting entities: those whose targets all have keys get theirs, which later
ones in the same pass may borrow. The places of the others still wait. -/
def borrowPass (registry : Registry) : List Nat → Registry × List Nat × Except Failure Unit
  | [] => (registry, [], .ok ())
  | place :: rest =>
    match registry.resolve? place with
    | none => borrowPass registry rest
    | some entity =>
      match borrowedIds registry entity.idRelationships with
      | some borrowed =>
        match registry.updatePlace place fun e => e.withKey (e.ownIds ++ borrowed) true with
        | .error e => (registry, [], .error e)
        | .ok changed => borrowPass changed rest
      | none =>
        let (changed, waiting, result) := borrowPass registry rest
        (changed, place :: waiting, result)

/-- The failure of a registry in which the given entities wait for each other. -/
def cycleFailure (registry : Registry) (waiting : List Nat) : Failure :=
  let stuck := waiting.head?.bind registry.resolve?
  let relationship := stuck.bind fun entity => entity.idRelationships.head?
  .invalidRelationship ((stuck.map Entity.name).getD "")
    ((relationship.map Relationship.name).getD "")
    "id relationships form a cycle, no primary key can be derived"

/-- Passes over the waiting entities until none waits or a pass brings nothing. Each pass that
goes on leaves fewer of them, so as many passes as there are entities are enough. -/
def borrowKeys : Nat → Registry → List Nat → Registry × Except Failure Unit
  | _, registry, [] => (registry, .ok ())
  | 0, registry, waiting => (registry, .error (cycleFailure registry waiting))
  | passes + 1, registry, waiting =>
    let (changed, still, result) := borrowPass registry waiting
    match result with
    | .error e => (changed, .error e)
    | .ok () =>
      if still.length < waiting.length then borrowKeys passes changed still
      else (changed, .error (cycleFailure changed still))

/-- Gives every entity its primary key. -/
def deriveKeys (registry : Registry) : Registry × Except Failure Unit :=
  let (changed, waiting, result) := ownKeys registry registry.places
  match result with
  | .error e => (changed, .error e)
  | .ok () => borrowKeys waiting.length changed waiting

/-- Whether the entity at a place has a composite key. -/
def isComposite (registry : Registry) (place : Nat) : Bool :=
  ((registry.resolve? place).bind Entity.primaryKey).any PrimaryKey.composite

/-- Refuses a many-to-many relationship with a composite key on either side. -/
def checkManyToMany (registry : Registry) : List Nat → Except Failure Unit
  | [] => .ok ()
  | place :: rest =>
    match registry.resolve? place with
    | none => checkManyToMany registry rest
    | some entity =>
      let isBad := fun (relationship : Relationship) =>
        relationship.cardinality == .manyToMany &&
          (isComposite registry place || relationship.target.any (isComposite registry))
      match entity.relationships.find? isBad with
      | some relationship =>
        .error (.invalidRelationship entity.name relationship.name
          "many-to-many relationships are not supported with composite primary keys")
      | none => checkManyToMany registry rest

end EntityPipeline
