-- Priorities: the phases of a run. Some are fixed and stand in the order they are given; a custom
-- one is anchored directly before another priority. Resolving a plan puts each custom priority in
-- front of its anchor, so that all priorities stand in one order.
import EntityPipeline.Failure

namespace EntityPipeline

/-- A phase of a run. -/
structure Priority where
  name : String
  queue : String
  before : Option String := none
  skip : Bool := false
deriving DecidableEq, Repr, Inhabited

namespace Priority

/-- The queue of a priority that names none. -/
def defaultQueue (name : String) : String := "entigen:" ++ name

/-- A priority with a place of its own; it always runs. -/
def fixed (name : String) : Priority := { name, queue := defaultQueue name }

/-- A priority directly before another one; it is skipped when nothing is queued on it. -/
def custom (name anchor : String) : Priority :=
  { name, queue := defaultQueue name, before := some anchor, skip := true }

end Priority

/-! ## Resolved orders -/

/-- The priorities of a run, first one first. -/
structure PriorityOrder where
  priorities : List Priority := []
deriving DecidableEq, Repr, Inhabited

namespace PriorityOrder

/-- The names in order. -/
def names (order : PriorityOrder) : List String := order.priorities.map Priority.name

/-- The number of priorities. -/
def size (order : PriorityOrder) : Nat := order.priorities.length

/-- The priority of a name. -/
def get? (order : PriorityOrder) (name : String) : Option Priority :=
  order.priorities.find? (·.name == name)

/-- Whether there is a priority of a name. -/
def contains (order : PriorityOrder) (name : String) : Bool := (order.get? name).isSome

/-- The position of a name. -/
def position? (order : PriorityOrder) (name : String) : Option Nat :=
  order.priorities.findIdx? (·.name == name)

end PriorityOrder

/-! ## Plans -/

/-- Priorities before they are put in order. -/
structure PriorityPlan where
  fixed : List Priority := []
  custom : List Priority := []
deriving DecidableEq, Repr, Inhabited

/-- The first name that occurred before. -/
def firstRepeated (seen : List String) : List String → Option String
  | [] => none
  | name :: rest =>
    if seen.contains name then some name else firstRepeated (name :: seen) rest

namespace PriorityPlan

/-- All priorities, the fixed ones first. -/
def all (plan : PriorityPlan) : List Priority := plan.fixed ++ plan.custom

/-- The priorities that have a place of their own. -/
def roots (plan : PriorityPlan) : List Priority :=
  plan.fixed ++ plan.custom.filter (·.before.isNone)

/-- The custom priorities anchored on a name. -/
def anchoredOn (plan : PriorityPlan) (name : String) : List Priority :=
  plan.custom.filter (·.before == some name)

/-- A priority after everything that is anchored on it, down to a depth. -/
def expand (plan : PriorityPlan) : Nat → Priority → List Priority
  | 0, priority => [priority]
  | depth + 1, priority =>
    (plan.anchoredOn priority.name).flatMap (plan.expand depth) ++ [priority]

/-- The priorities that can be reached from those with a place of their own. Below such a root
there are at most as many levels as there are custom priorities. -/
def placed (plan : PriorityPlan) : List Priority :=
  plan.roots.flatMap (plan.expand plan.custom.length)

/-- The first custom priority whose anchors lead to no place. -/
def unplaced? (plan : PriorityPlan) : Option Priority :=
  let names := plan.placed.map Priority.name
  plan.custom.find? fun priority => !names.contains priority.name

/-- The order of a plan. -/
def resolve (plan : PriorityPlan) : Except Failure PriorityOrder :=
  match firstRepeated [] (plan.all.map Priority.name) with
  | some name => .error (.duplicatePriority name)
  | none =>
    match plan.unplaced? with
    | some priority => .error (.unknownAnchor priority.name (priority.before.getD ""))
    | none => .ok ⟨plan.placed⟩

/-- Whether a plan has a priority of a name. -/
def contains (plan : PriorityPlan) (name : String) : Bool := plan.all.any (·.name == name)

/-- The plan with one more priority, whose name must be new. One with an anchor is custom. -/
def define (plan : PriorityPlan) (priority : Priority) : Except Failure PriorityPlan :=
  if plan.contains priority.name then .error (.duplicatePriority priority.name)
  else if priority.before.isSome then .ok { plan with custom := plan.custom ++ [priority] }
  else .ok { plan with fixed := plan.fixed ++ [priority] }

/-- The priorities of every project. -/
def standard : PriorityPlan where
  fixed := ["initializing", "prompting", "configuring", "default", "writing", "transform",
    "conflicts", "install", "end"].map Priority.fixed
  custom := [
    .custom "composing" "loading",
    .custom "loading" "preparing",
    .custom "preparing" "default",
    .custom "postWriting" "preConflicts",
    .custom "preConflicts" "conflicts",
    .custom "postInstall" "end",
    .custom "configuringEachEntity" "loadingEntities",
    .custom "loadingEntities" "preparingEachEntity",
    .custom "preparingEachEntity" "preparingEachEntityField",
    .custom "preparingEachEntityField" "preparingEachEntityRelationship",
    .custom "preparingEachEntityRelationship" "postPreparingEachEntity",
    .custom "postPreparingEachEntity" "default",
    .custom "writingEntities" "transform",
    .custom "postWritingEntities" "preConflicts"]

end PriorityPlan

/-- The order of the standard priorities; their plan leaves none without a place. -/
def PriorityOrder.standard : PriorityOrder := ⟨PriorityPlan.standard.placed⟩

/-- The standard plan has an order. -/
theorem PriorityPlan.resolve_standard : PriorityPlan.standard.resolve = .ok .standard := by
  unfold resolve
  have names : firstRepeated [] (standard.all.map Priority.name) = none := by decide +kernel
  have places : standard.unplaced? = none := by decide +kernel
  rw [names, places]
  rfl

end EntityPipeline
