-- The phases that turn definitions into prepared entities, and their sequence.
import EntityPipeline.Preparation.Aggregates
import EntityPipeline.Preparation.Fields
import EntityPipeline.Preparation.Inverses
import EntityPipeline.Preparation.Keys
import EntityPipeline.Preparation.Load
import EntityPipeline.Preparation.Names
import EntityPipeline.Preparation.Options

namespace EntityPipeline

/-- The relationships and keys of a registry. Declared relationships are all resolved before any
entity is changed; other sides, checks and keys follow. -/
def relate (registry : Registry) : Registry × Except Failure Unit :=
  match resolveAll registry registry.slots with
  | .error e => (registry, .error e)
  | .ok relationships =>
    let (slots, result) := setRelationships registry.slots relationships
    match result with
    | .error e => (⟨slots⟩, .error e)
    | .ok () =>
      let (registry, result) := appendAll ⟨slots⟩ (missingInverses ⟨slots⟩)
      match result with
      | .error e => (registry, .error e)
      | .ok () =>
        match checkIdRelationships registry.slots with
        | .error e => (registry, .error e)
        | .ok () =>
          let (registry, result) := deriveKeys registry
          match result with
          | .error e => (registry, .error e)
          | .ok () => (registry, checkManyToMany registry registry.places)

/-- Resolves relationships and derives primary keys. -/
def prepareRelationships : Action Context Unit := fun context =>
  let (entities, result) := relate context.entities
  ⟨result, { context with entities }, []⟩

/-- A phase of the preparation. -/
inductive Phase where
  | configure
  | load
  | names
  | fields
  | relationships
  | freeze
deriving DecidableEq, Repr, Inhabited

namespace Phase

/-- The phases in the order in which a run goes through them. -/
def all : List Phase := [.configure, .load, .names, .fields, .relationships, .freeze]

/-- What a phase does. -/
def run : Phase → Action Context Unit
  | .configure => configureEntities
  | .load => loadEntities
  | .names => prepareEntities
  | .fields => prepareFields
  | .relationships => prepareRelationships
  | .freeze => postPrepareEntities

end Phase

/-- Goes through all phases, up to the first failure. -/
def prepareAll : Action Context Unit := Action.forEach Phase.run Phase.all

end EntityPipeline
