-- The generator that prepares entities: each phase of the preparation is a task under a priority
-- of its own.
import EntityPipeline.Preparation.Phases
import EntityPipeline.Run.Scheduler

namespace EntityPipeline

namespace Phase

/-- The priority that a phase runs under. -/
def priority : Phase → String
  | .configure => "configuringEachEntity"
  | .load => "loadingEntities"
  | .names => "preparingEachEntity"
  | .fields => "preparingEachEntityField"
  | .relationships => "preparingEachEntityRelationship"
  | .freeze => "postPreparingEachEntity"

/-- The name of the group of a phase. -/
def group : Phase → String
  | .configure => "configureEntities"
  | .load => "loadEntities"
  | .names => "prepareEntities"
  | .fields => "prepareFields"
  | .relationships => "prepareRelationships"
  | .freeze => "postPrepareEntities"

/-- The name of the task of a phase. -/
def task : Phase → String
  | .configure => "applyDefaultOptions"
  | .load => "registerEntities"
  | .names => "computeNames"
  | .fields => "prepareFields"
  | .relationships => "resolveRelationships"
  | .freeze => "freezeEntities"

end Phase

/-- The name of the generator that prepares entities. -/
def bootstrapName : String := "bootstrap-application"

/-- The generator that prepares entities. -/
def bootstrap : Generator Context where
  name := bootstrapName
  groups := Phase.all.map fun phase =>
    (phase.priority, TaskGroup.single phase.group phase.task phase.run)

/-- The scheduler of every project: the standard priorities, and the preparation on offer. -/
def Scheduler.standard {σ : Type} (preparation : Generator σ) : Scheduler σ where
  order := PriorityOrder.standard
  catalog := [(preparation.name, preparation)]

end EntityPipeline
