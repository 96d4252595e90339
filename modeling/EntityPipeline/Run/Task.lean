-- Tasks and the generators that bring them into a run. A generator names the generators it builds
-- on and the groups of tasks it wants to run, each under a priority.
import EntityPipeline.Run.Action

namespace EntityPipeline

/-- A named step of a run. -/
structure Task (σ : Type) where
  name : String
  run : Action σ Unit

/-- Tasks that run one after the other. -/
structure TaskGroup (σ : Type) where
  name : String
  tasks : List (Task σ)

/-- A source of task groups, each under the name of a priority. -/
structure Generator (σ : Type) where
  name : String
  dependsOn : List String := []
  groups : List (String × TaskGroup σ)

/-- A group of a single task. -/
def TaskGroup.single {σ : Type} (name task : String) (run : Action σ Unit) : TaskGroup σ :=
  ⟨name, [⟨task, run⟩]⟩

/-! ## Parts of states -/

variable {σ τ : Type}

/-- A task on a part of the state. -/
def Task.onPart (get : τ → σ) (set : τ → σ → τ) (task : Task σ) : Task τ :=
  ⟨task.name, task.run.onPart get set⟩

/-- A group on a part of the state. -/
def TaskGroup.onPart (get : τ → σ) (set : τ → σ → τ) (group : TaskGroup σ) : TaskGroup τ :=
  ⟨group.name, group.tasks.map (Task.onPart get set)⟩

/-- A generator on a part of the state. -/
def Generator.onPart (get : τ → σ) (set : τ → σ → τ) (generator : Generator σ) : Generator τ where
  name := generator.name
  dependsOn := generator.dependsOn
  groups := generator.groups.map fun (priority, group) => (priority, group.onPart get set)

end EntityPipeline
