-- The scheduler before a run: generators are composed together with everything they depend on, and
-- their task groups are queued. A generator is composed once, after its dependencies; one that is
-- being composed cannot be composed for its own sake.
import EntityPipeline.DependencyGraph
import EntityPipeline.Run.Priority
import EntityPipeline.Run.Task

namespace EntityPipeline

variable {σ : Type}

/-- A group of tasks that waits for a run. -/
structure QueuedGroup (σ : Type) where
  priority : String
  generator : String
  group : TaskGroup σ

/-- What is known of a composed generator. -/
structure Composed where
  dependsOn : List String
  executed : Bool
deriving DecidableEq, Repr, Inhabited

/-- Generators that can be composed by name. -/
abbrev Catalog (σ : Type) := List (String × Generator σ)

/-- The names of a catalog, sorted. -/
def Catalog.names (catalog : Catalog σ) : List String :=
  (catalog.map Prod.fst).mergeSort fun a b => a ≤ b

/-- The generators of a catalog that are not being composed. -/
def Catalog.besides (catalog : Catalog σ) (stack : List String) : Catalog σ :=
  catalog.filter fun (_, generator) => !stack.contains generator.name

/-- A scheduler. The queue holds the groups of all priorities in the order of their arrival. -/
structure Scheduler (σ : Type) where
  order : PriorityOrder
  catalog : Catalog σ := []
  composed : List (String × Composed) := []
  queue : List (QueuedGroup σ) := []

namespace Scheduler

/-- Whether a generator is composed. -/
def isComposed (scheduler : Scheduler σ) (name : String) : Bool :=
  (scheduler.composed.lookup name).isSome

/-- The names of the composed generators, first one first. -/
def generators (scheduler : Scheduler σ) : List String := scheduler.composed.map Prod.fst

/-- The dependencies of a composed generator. -/
def dependsOn? (scheduler : Scheduler σ) (name : String) : Option (List String) :=
  (scheduler.composed.lookup name).map Composed.dependsOn

/-- Whether a generator is composed and a run began after that. -/
def hasExecuted (scheduler : Scheduler σ) (name : String) : Bool :=
  (scheduler.composed.lookup name).any Composed.executed

/-! ## Composition -/

/-- The first priority of a list of groups that a scheduler does not have. -/
def unknownPriority? (scheduler : Scheduler σ) (groups : List (String × TaskGroup σ)) :
    Option String :=
  (groups.map Prod.fst).find? fun priority => !scheduler.order.contains priority

/-- Queues the groups of a generator and counts it as composed. -/
def enlist (scheduler : Scheduler σ) (generator : Generator σ) :
    Except Failure (Scheduler σ) :=
  match scheduler.unknownPriority? generator.groups with
  | some priority => .error (.unknownPriority priority generator.name)
  | none =>
    .ok { scheduler with
      composed := scheduler.composed ++ [(generator.name, ⟨generator.dependsOn, false⟩)]
      queue := scheduler.queue ++
        generator.groups.map fun (priority, group) => ⟨priority, generator.name, group⟩ }

/-- The cycle that a name closes on a stack. -/
def closedCycle (stack : List String) (name : String) : List String :=
  stack.dropWhile (· != name) ++ [name]

/-- Composing one more generator leaves fewer of the catalog besides. -/
theorem length_besides_lt {catalog : Catalog σ} {stack : List String} {key : String}
    {generator : Generator σ} (found : catalog.lookup key = some generator)
    (fresh : ¬stack.contains generator.name = true) :
    (catalog.besides (stack ++ [generator.name])).length < (catalog.besides stack).length := by
  obtain ⟨before, after, same, -⟩ := List.lookup_eq_some_iff.mp found
  have member : (key, generator) ∈ catalog.besides stack := by
    simp only [Catalog.besides, List.mem_filter]
    exact ⟨by simp [same], by simpa using fresh⟩
  have split : catalog.besides (stack ++ [generator.name]) =
      (catalog.besides stack).filter fun entry => entry.2.name != generator.name := by
    simp only [Catalog.besides, List.filter_filter]
    apply List.filter_congr
    intro entry _
    simp [Bool.and_comm, bne, Bool.beq_eq_decide_eq]
  rw [split, List.length_filter_lt_length_iff_exists]
  exact ⟨_, member, by simp⟩

/-- Composes the dependencies of a generator in order, up to the first failure. The stack holds
the generators that are being composed, that one last. -/
def composeEach (catalog : Catalog σ) (stack : List String) (owner : String)
    (scheduler : Scheduler σ) : List String → Scheduler σ × Except Failure Unit
  | [] => (scheduler, .ok ())
  | dependency :: rest =>
    if scheduler.isComposed dependency then composeEach catalog stack owner scheduler rest
    else match _found : catalog.lookup dependency with
      | none => (scheduler, .error (.unknownGenerator dependency (some owner)))
      | some generator =>
        if scheduler.isComposed generator.name then
          composeEach catalog stack owner scheduler rest
        else if _fresh : stack.contains generator.name then
          (scheduler, .error (.cyclicDependency (closedCycle stack generator.name)))
        else
          let done := composeEach catalog (stack ++ [generator.name]) generator.name scheduler
            generator.dependsOn
          match done.2 with
          | .error e => (done.1, .error e)
          | .ok () =>
            match done.1.enlist generator with
            | .error e => (done.1, .error e)
            | .ok scheduler => composeEach catalog stack owner scheduler rest
termination_by dependencies => ((catalog.besides stack).length, dependencies.length)
decreasing_by
  all_goals first
    | exact Prod.Lex.right _ (Nat.lt_succ_self _)
    | exact Prod.Lex.left _ _ (length_besides_lt _found _fresh)

/-- Composes a generator after its dependencies and tells whether it was new. -/
def compose (scheduler : Scheduler σ) (generator : Generator σ) :
    Scheduler σ × Except Failure Bool :=
  if scheduler.isComposed generator.name then (scheduler, .ok false)
  else
    let done := composeEach scheduler.catalog [generator.name] generator.name scheduler
      generator.dependsOn
    match done.2 with
    | .error e => (done.1, .error e)
    | .ok () =>
      match done.1.enlist generator with
      | .error e => (done.1, .error e)
      | .ok scheduler => (scheduler, .ok true)

/-- Composes a generator of the catalog. -/
def composeNamed (scheduler : Scheduler σ) (name : String) : Scheduler σ × Except Failure Bool :=
  match scheduler.catalog.lookup name with
  | none => (scheduler, .error (.unknownGenerator name none))
  | some generator => scheduler.compose generator

/-- Puts a generator into the catalog under a name. -/
def offer (scheduler : Scheduler σ) (name : String) (generator : Generator σ) : Scheduler σ :=
  { scheduler with catalog := putUnder name generator scheduler.catalog }

/-- Queues one more group for a composed generator. -/
def registerGroup (scheduler : Scheduler σ) (generator priority : String) (group : TaskGroup σ) :
    Except Failure (Scheduler σ) :=
  if !scheduler.order.contains priority then .error (.unknownPriority priority generator)
  else if !scheduler.isComposed generator then .error (.unknownGenerator generator none)
  else .ok { scheduler with queue := scheduler.queue ++ [⟨priority, generator, group⟩] }

/-! ## Order of the generators -/

/-- The graph of the composed generators. -/
def graph (scheduler : Scheduler σ) : DependencyGraph :=
  scheduler.composed.foldl
    (fun graph (name, composed) => (graph.add ⟨name, composed.dependsOn⟩).1) {}

/-- The names of the composed generators, each after all it depends on. -/
def generatorOrder (scheduler : Scheduler σ) : Except Failure (List String) :=
  match scheduler.graph.connect with
  | .error e => .error e.toFailure
  | .ok graph =>
    match graph.sorted with
    | .error e => .error e.toFailure
    | .ok nodes => .ok (nodes.map DependencyNode.name)

end Scheduler

end EntityPipeline
