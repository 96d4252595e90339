-- Preparing is finished by summing up the fields and relationships of each entity and freezing it.
-- All sums are taken before the first entity is frozen.
import EntityPipeline.Run.Action

namespace EntityPipeline

/-- The first occurrences of the items of a list. -/
def firstOccurrences (items : List String) : List String :=
  items.foldl (fun seen item => if seen.contains item then seen else seen ++ [item]) []

/-- Whether a field is binary. -/
def Field.isBlob (field : Field) : Bool := field.type.blobContent.isSome

/-- The sums over an entity. -/
def aggregates (registry : Registry) (entity : Entity) : EntityAggregates :=
  let fields := entity.fields
  let relationships := entity.relationships
  { bigDecimal := fields.any (·.typeFlags.bigDecimal)
    blob := fields.any Field.isBlob
    blobOrImage := fields.any fun f =>
      f.type.blobContent == some .any || f.type.blobContent == some .image
    date := fields.any (·.typeFlags.temporal)
    duration := fields.any (·.typeFlags.duration)
    embedded := relationships.any fun r =>
      (r.target.bind registry.resolve?).any (·.options.embedded)
    imageBlob := fields.any (·.blobImage)
    instant := fields.any (·.typeFlags.instant)
    localDate := fields.any (·.typeFlags.localDate)
    manyToOne := relationships.any (·.cardinality == .manyToOne)
    noOwnerOneToOne := relationships.any fun r => r.cardinality == .oneToOne && !r.ownerSide
    oneToMany := relationships.any (·.cardinality == .oneToMany)
    ownerManyToMany := relationships.any fun r => r.cardinality == .manyToMany && r.ownerSide
    ownerOneToOne := relationships.any Relationship.isOwnerOneToOne
    textBlob := fields.any (·.blobText)
    uuid := fields.any (·.typeFlags.uuid)
    zonedDateTime := fields.any (·.typeFlags.zonedDateTime)
    javadoc := fields.any (·.javadoc.isSome)
    validation := fields.any (·.validation.any) || relationships.any (·.required)
    blobFields := (fields.filter Field.isBlob).map Field.name
    differentTypes := firstOccurrences (fields.map fun f => f.type.name)
    otherEntities := firstOccurrences (relationships.map Relationship.otherEntity) }

/-- Sets the sums of the entity at a place and freezes it. -/
def finishEntity (place : Nat) (sums : EntityAggregates) : Action Context Unit := fun context =>
  match context.entities.updatePlace place fun e => { e with aggregates := sums } with
  | .error e => ⟨.error e, context, []⟩
  | .ok changed =>
    match changed.resolve? place with
    | none => ⟨.ok (), { context with entities := changed }, []⟩
    | some entity =>
      match changed.freeze entity.name with
      | .error e => ⟨.error e, { context with entities := changed }, []⟩
      | .ok frozen =>
        ⟨.ok (), { context with entities := frozen },
          [.entityPrepared entity.name entity.fields.length entity.relationships.length]⟩

/-- Sums up and freezes every entity. -/
def postPrepareEntities : Action Context Unit := fun context =>
  let sums := context.entities.entities.map (aggregates context.entities)
  Action.forEach (fun (place, sums) => finishEntity place sums)
    (context.entities.places.zip sums) context

end EntityPipeline
