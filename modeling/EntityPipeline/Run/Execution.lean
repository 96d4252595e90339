-- Runs. A run takes everything that is queued and goes through the priorities in order. Under each,
-- the groups run in the order of their generators and then of their arrival, task by task, up to
-- the first task that fails. A priority that may be skipped is, when nothing is queued on it.
import EntityPipeline.Run.Scheduler

namespace EntityPipeline

variable {σ : Type}

/-- The number of tasks that ran under a priority. -/
structure PhaseSummary where
  priority : String
  tasks : Nat
deriving DecidableEq, Repr, Inhabited

/-- What a run went through and what it skipped. -/
structure RunSummary where
  phases : List PhaseSummary := []
  skipped : List String := []
deriving DecidableEq, Repr, Inhabited

/-- The number of tasks that ran. -/
def RunSummary.taskCount (summary : RunSummary) : Nat :=
  summary.phases.foldr (fun phase count => phase.tasks + count) 0

/-- A task under its priority and generator, between the events that tell of it. -/
def Task.runWithin (priority generator : String) (task : Task σ) : Action σ Unit := fun state =>
  let done := task.run state
  let started := Event.taskStarted priority generator task.name
  match done.result with
  | .ok () =>
    ⟨.ok (), done.state,
      started :: done.events ++ [.taskCompleted priority generator task.name]⟩
  | .error e =>
    ⟨.error (.phaseFailed priority generator task.name e), done.state,
      started :: done.events ++ [.taskFailed priority generator task.name]⟩

namespace Scheduler

/-- The groups of a priority, by generator and then by arrival. -/
def groupsOf (generators : List String) (queue : List (QueuedGroup σ)) (priority : String) :
    List (QueuedGroup σ) :=
  (queue.filter (·.priority == priority)).mergeSort fun first second =>
    generators.idxOf first.generator ≤ generators.idxOf second.generator

/-- The tasks of groups, each with its generator. -/
def tasksOf (groups : List (QueuedGroup σ)) : List (String × Task σ) :=
  groups.flatMap fun queued => queued.group.tasks.map fun task => (queued.generator, task)

/-- Runs tasks and counts them. -/
def runTasks (priority : String) : List (String × Task σ) → Action σ Nat
  | [] => .give 0
  | (generator, task) :: rest =>
    Action.andThen (task.runWithin priority generator) fun () =>
      Action.andThen (runTasks priority rest) fun count => .give (count + 1)

/-- Runs the groups of a priority between the events that tell of it. -/
def runPriority (priority : Priority) (groups : List (QueuedGroup σ)) :
    Action σ PhaseSummary :=
  Action.andThen (.emit (.priorityStarted priority.name priority.queue groups.length)) fun () =>
    Action.andThen (runTasks priority.name (tasksOf groups)) fun count =>
      Action.andThen (.emit (.priorityCompleted priority.name count)) fun () =>
        .give ⟨priority.name, count⟩

/-- Goes through priorities. -/
def runPriorities (generators : List String) (queue : List (QueuedGroup σ)) :
    List Priority → Action σ RunSummary
  | [] => .give {}
  | priority :: rest =>
    let groups := groupsOf generators queue priority.name
    if groups.isEmpty && priority.skip then
      Action.andThen (.emit (.prioritySkipped priority.name)) fun () =>
        Action.andThen (runPriorities generators queue rest) fun summary =>
          .give { summary with skipped := priority.name :: summary.skipped }
    else
      Action.andThen (runPriority priority groups) fun phase =>
        Action.andThen (runPriorities generators queue rest) fun summary =>
          .give { summary with phases := phase :: summary.phases }

/-- The scheduler once a run has begun: nothing is queued, every generator counts as executed. -/
def begun (scheduler : Scheduler σ) : Scheduler σ :=
  { scheduler with
    composed := scheduler.composed.map fun (name, composed) =>
      (name, { composed with executed := true })
    queue := [] }

/-- Runs everything that is queued. -/
def run (scheduler : Scheduler σ) (state : σ) : Scheduler σ × Outcome σ RunSummary :=
  match scheduler.generatorOrder with
  | .error e => (scheduler, ⟨.error e, state, []⟩)
  | .ok generators =>
    (scheduler.begun,
      runPriorities generators scheduler.queue scheduler.order.priorities state)

end Scheduler

end EntityPipeline
