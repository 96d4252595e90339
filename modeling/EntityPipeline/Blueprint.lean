-- Blueprints: changes that are laid over a project before its entities are prepared. A blueprint
-- merges settings into the configuration, then members into the written form of each entity it
-- names; an entity that the project does not have is added.
import EntityPipeline.Run.Task
import EntityPipeline.Snapshot

namespace EntityPipeline

open Json

/-- A blueprint: its name, its settings and its changes by entity, in order. -/
structure Blueprint where
  name : String := ""
  config : Json := .null
  entities : List (String × Json) := []
deriving Repr, Inhabited

namespace Blueprint

/-! ## Reading -/

/-- Changes by entity in document order; a repeated entity keeps its place and takes the later
change. -/
def readEntities : Decoder (List (String × Json))
  | .object members ending =>
    match Draft.valueMembers members with
    | .error f => .error (.fault f)
    | .ok changes =>
      match ending.check with
      | .error e => .error e
      | .ok () => .ok (changes.foldl (fun kept (name, change) => putUnder name change kept) [])
  | d => d.mismatch "a map"

/-- The members of a blueprint. -/
def schema : Schema :=
  [("name", Decoder.text.check), ("config", Decoder.value.check),
    ("entities", Decoder.check readEntities)]

/-- The error for more values than a blueprint has members. -/
def tooMany (origin : Origin) (found : Nat) : ReadError :=
  match origin with
  | .text => .fault .malformed
  | .value => .tooManyValues found

/-- A blueprint, given by key or by position; any member may be missing. -/
def read (origin : Origin) : Decoder Blueprint
  | .object members ending => do
    checkRecord schema skipUnknown members ending
    return {
      name := ← defaulted "name" .text "" members
      config := ← defaulted "config" .value .null members
      entities := ← defaulted "entities" readEntities [] members }
  | .array items ending =>
    match items with
    | [] => do
      ending.check
      return {}
    | [name] => do
      let name ← Decoder.text name
      ending.check
      return { name }
    | [name, config] => do
      let name ← Decoder.text name
      let config ← Decoder.value config
      ending.check
      return { name, config }
    | name :: config :: entities :: rest => do
      let name ← Decoder.text name
      let config ← Decoder.value config
      let entities ← readEntities entities
      if rest.isEmpty then
        ending.check
        return { name, config, entities }
      else .error (tooMany origin items.length)
  | d => d.mismatch "struct BlueprintData"

/-! ## Applying -/

/-- The definition of an entity after a change to it. -/
def change (context : Context) (name : String) (overrides : Json) :
    Except Failure EntityDefinition :=
  let written := match context.sources.lookup name with
    | some source => merge (Snapshot.canonicalValue source.definition) overrides
    | none => .ok overrides
  match written with
  | .error e => .error e
  | .ok value =>
    match EntityDefinition.ofJson value with
    | .error e => .error (.outside (.json e))
    | .ok definition => .ok { definition with name }

/-- Changes or adds one entity. -/
def applyEntity (name : String) (overrides : Json) : Action Context Unit := fun context =>
  match change context name overrides with
  | .error e => ⟨.error e, context, []⟩
  | .ok definition => ⟨.ok (), context.addDefinition definition, []⟩

/-- Merges settings into the configuration; null leaves it as it is. -/
def applyConfig (config : Json) : Action Context Unit := fun context =>
  if config.isNull then ⟨.ok (), context, []⟩
  else match context.config.mergedWith config with
    | .error e => ⟨.error e, context, []⟩
    | .ok config => ⟨.ok (), { context with config }, []⟩

/-- Applies a blueprint: its settings, then its entities in order, up to the first failure. -/
def apply (blueprint : Blueprint) : Action Context Unit :=
  Action.andThen (applyConfig blueprint.config) fun () =>
    Action.forEach (fun (name, overrides) => applyEntity name overrides) blueprint.entities

/-- The name under which a blueprint takes part in a run. -/
def generatorName (blueprint : Blueprint) : String := "blueprint:" ++ blueprint.name

/-- The generator that applies a blueprint while the project is configured. -/
def generator (blueprint : Blueprint) : Generator Context where
  name := blueprint.generatorName
  groups := [("configuring", TaskGroup.single "applyBlueprint" "mergeOverrides" blueprint.apply)]

end Blueprint

end EntityPipeline
