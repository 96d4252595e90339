-- Chapters of a run. What a run leaves under one priority has one of three shapes: the priority is
-- skipped, or its tasks stand between the records that it started and that it was completed, or it
-- breaks off at a task that fails. From the shape follows what its records tell. The tasks in it
-- are those that ran, each with the events that it left itself.
import EntityPipeline.Proofs.Run.Sequences

namespace EntityPipeline

variable {σ : Type}

/-- Whether an event tells that a task was completed. -/
def Event.isTaskCompleted : Event → Bool
  | .taskCompleted _ _ _ => true
  | _ => false

/-- Whether an event tells that a task failed. -/
def Event.isTaskFailed : Event → Bool
  | .taskFailed _ _ _ => true
  | _ => false

/-! ## Chapters -/

/-- A task that ran, and the events it left itself. -/
structure TaskTrail (σ : Type) where
  entry : QueuedTask σ
  own : List Event

namespace TaskTrail

/-- The record that a task started. -/
def started (trail : TaskTrail σ) : Event :=
  .taskStarted trail.entry.priority trail.entry.generator trail.entry.task.name

/-- The record that a task was completed. -/
def completed (trail : TaskTrail σ) : Event :=
  .taskCompleted trail.entry.priority trail.entry.generator trail.entry.task.name

/-- The record that a task failed. -/
def failed (trail : TaskTrail σ) : Event :=
  .taskFailed trail.entry.priority trail.entry.generator trail.entry.task.name

/-- A trail without the events of the task itself. -/
def bare (trail : TaskTrail σ) : TaskTrail σ := { trail with own := [] }

/-- The events of a task that came to its end. -/
def ofCompleted (trail : TaskTrail σ) : List Event :=
  trail.started :: trail.own ++ [trail.completed]

/-- The events of a task that failed. -/
def ofFailed (trail : TaskTrail σ) : List Event := trail.started :: trail.own ++ [trail.failed]

/-- A task is quiet if it leaves no records like those of the scheduler. -/
def Quiet (trail : TaskTrail σ) : Prop := ∀ event ∈ trail.own, event.fromTask = true

variable {trail : TaskTrail σ}

theorem Quiet.filter_own (h : trail.Quiet) : trail.own.filter (!·.fromTask) = [] := by
  refine List.filter_eq_nil_iff.2 fun event hin => ?_
  rw [h event hin]
  exact Bool.false_ne_true

theorem Quiet.filter_ofCompleted (h : trail.Quiet) :
    trail.ofCompleted.filter (!·.fromTask) = trail.bare.ofCompleted := by
  rw [ofCompleted, List.filter_append, List.filter_cons_of_pos rfl, h.filter_own]
  rfl

theorem Quiet.filter_ofFailed (h : trail.Quiet) :
    trail.ofFailed.filter (!·.fromTask) = trail.bare.ofFailed := by
  rw [ofFailed, List.filter_append, List.filter_cons_of_pos rfl, h.filter_own]
  rfl

end TaskTrail

/-- What a run leaves under a priority: it is skipped, all tasks of its groups came to their end,
or one of them failed after others. -/
inductive Chapter (σ : Type) where
  | skipped (priority : Priority)
  | finished (priority : Priority) (groups : Nat) (tasks : List (TaskTrail σ))
  | broken (priority : Priority) (groups : Nat) (tasks : List (TaskTrail σ))
    (failing : TaskTrail σ)

namespace Chapter

def priority : Chapter σ → Priority
  | .skipped priority | .finished priority _ _ | .broken priority _ _ _ => priority

/-- The number of groups a chapter was started with. -/
def groups : Chapter σ → Nat
  | .skipped _ => 0
  | .finished _ groups _ | .broken _ groups _ _ => groups

def isSkipped : Chapter σ → Bool
  | .skipped _ => true
  | _ => false

/-- The task at which a chapter breaks off. -/
def failing? : Chapter σ → Option (TaskTrail σ)
  | .broken _ _ _ failing => some failing
  | _ => none

/-- The trails of all tasks that ran, the failing one last. -/
def trails : Chapter σ → List (TaskTrail σ)
  | .skipped _ => []
  | .finished _ _ tasks => tasks
  | .broken _ _ tasks failing => tasks ++ [failing]

/-- The events of a chapter, bracket by bracket. -/
def events : Chapter σ → List Event
  | .skipped priority => [.prioritySkipped priority.name]
  | .finished priority groups tasks =>
    .priorityStarted priority.name priority.queue groups ::
      tasks.flatMap TaskTrail.ofCompleted ++ [.priorityCompleted priority.name tasks.length]
  | .broken priority groups tasks failing =>
    .priorityStarted priority.name priority.queue groups ::
      tasks.flatMap TaskTrail.ofCompleted ++ failing.ofFailed

/-- A chapter without the events of the tasks themselves. -/
def bare : Chapter σ → Chapter σ
  | .skipped priority => .skipped priority
  | .finished priority groups tasks => .finished priority groups (tasks.map TaskTrail.bare)
  | .broken priority groups tasks failing =>
    .broken priority groups (tasks.map TaskTrail.bare) failing.bare

/-- The records of the scheduler in a chapter. -/
def told (chapter : Chapter σ) : List Event := chapter.bare.events

/-- What the summary of a run says of a chapter, by the tasks that are told as completed. -/
def phase? (chapter : Chapter σ) : Option PhaseSummary :=
  match chapter with
  | .finished priority _ _ => some ⟨priority.name, chapter.told.countP Event.isTaskCompleted⟩
  | _ => none

variable {chapter : Chapter σ} {name : String} {count : Nat}

/-! ## Records of the scheduler -/

theorem countP_ofCompleted_bare (tasks : List (TaskTrail σ)) :
    ((tasks.map TaskTrail.bare).flatMap TaskTrail.ofCompleted).countP Event.isTaskCompleted =
      tasks.length := by
  induction tasks with
  | nil => rfl
  | cons trail rest ih =>
    rw [List.map_cons, List.flatMap_cons, List.countP_append, ih, List.length_cons, Nat.add_comm]
    rfl

theorem filter_failed_ofCompleted_bare (tasks : List (TaskTrail σ)) :
    ((tasks.map TaskTrail.bare).flatMap TaskTrail.ofCompleted).filter Event.isTaskFailed = [] := by
  induction tasks with
  | nil => rfl
  | cons trail rest ih =>
    rw [List.map_cons, List.flatMap_cons, List.filter_append, ih]
    rfl

theorem not_mem_ofCompleted_bare (tasks : List (TaskTrail σ)) :
    .priorityCompleted name count ∉ (tasks.map TaskTrail.bare).flatMap TaskTrail.ofCompleted := by
  simp [TaskTrail.ofCompleted, TaskTrail.bare, TaskTrail.started, TaskTrail.completed]

theorem countP_told_finished (priority : Priority) (groups : Nat) (tasks : List (TaskTrail σ)) :
    (finished priority groups tasks).told.countP Event.isTaskCompleted = tasks.length := by
  simp [told, bare, events, countP_ofCompleted_bare, Event.isTaskCompleted]

/-- A chapter is told as completed if it is finished, with as many tasks as are told. -/
theorem priorityCompleted_mem_told : .priorityCompleted name count ∈ chapter.told ↔
    chapter.phase? = some ⟨name, count⟩ := by
  cases chapter with
  | skipped priority => simp [told, bare, events, phase?]
  | finished priority groups tasks =>
    simp only [phase?, countP_told_finished]
    simp only [told, bare, events, List.cons_append, List.mem_cons, List.mem_append,
      not_mem_ofCompleted_bare, reduceCtorEq, List.length_map, false_or, List.not_mem_nil, or_false,
      Event.priorityCompleted.injEq, Option.some.injEq, PhaseSummary.mk.injEq]
    exact and_congr eq_comm eq_comm
  | broken priority groups tasks failing =>
    simp only [told, bare, events, phase?, List.cons_append, List.mem_cons, List.mem_append,
      not_mem_ofCompleted_bare, reduceCtorEq, TaskTrail.ofFailed, TaskTrail.bare,
      TaskTrail.started, TaskTrail.failed, List.not_mem_nil, or_false]

/-- The number of tasks in a record is the number of tasks that the chapter tells as completed. -/
theorem counted (h : .priorityCompleted name count ∈ chapter.told) :
    name = chapter.priority.name ∧ count = chapter.told.countP Event.isTaskCompleted := by
  rw [priorityCompleted_mem_told] at h
  cases chapter with
  | finished priority groups tasks =>
    cases h
    exact ⟨rfl, rfl⟩
  | skipped => cases h
  | broken => cases h

/-- A chapter tells of the failure it breaks off at, and of no other. -/
theorem filter_failed_told (chapter : Chapter σ) :
    chapter.told.filter Event.isTaskFailed = chapter.failing?.toList.map TaskTrail.failed := by
  cases chapter with
  | skipped priority => rfl
  | finished priority groups tasks =>
    simp [told, bare, events, failing?, filter_failed_ofCompleted_bare, Event.isTaskFailed]
  | broken priority groups tasks failing =>
    simp [told, bare, events, failing?, filter_failed_ofCompleted_bare, Event.isTaskFailed,
      TaskTrail.ofFailed, TaskTrail.bare, TaskTrail.started, TaskTrail.failed]

/-- Where tasks leave no records like those of the scheduler, these are the scheduler's. -/
theorem filter_events (h : ∀ trail ∈ chapter.trails, trail.Quiet) :
    chapter.events.filter (!·.fromTask) = chapter.told := by
  have hcompleted : ∀ tasks : List (TaskTrail σ), (∀ trail ∈ tasks, trail.Quiet) →
      (tasks.flatMap TaskTrail.ofCompleted).filter (!·.fromTask) =
        (tasks.map TaskTrail.bare).flatMap TaskTrail.ofCompleted := by
    intro tasks htasks
    rw [List.filter_flatMap, List.flatMap_map]
    exact List.flatMap_congr fun trail hin => (htasks trail hin).filter_ofCompleted
  cases chapter with
  | skipped priority => rfl
  | finished priority groups tasks =>
    rw [told, bare, events, events, List.filter_append, List.filter_cons_of_pos rfl,
      hcompleted tasks h, List.length_map]
    rfl
  | broken priority groups tasks failing =>
    rw [told, bare, events, events, List.filter_append, List.filter_cons_of_pos rfl,
      hcompleted tasks fun trail hin => h trail (List.mem_append_left _ hin),
      (h failing (by simp [trails])).filter_ofFailed]

/-! ## Chapters that break off -/

variable {failing : TaskTrail σ}

theorem failing?_eq_some : chapter.failing? = some failing ↔
    ∃ priority groups tasks, chapter = .broken priority groups tasks failing := by
  constructor
  · intro h
    cases chapter with
    | broken priority groups tasks last =>
      cases h
      exact ⟨priority, groups, tasks, rfl⟩
    | skipped => cases h
    | finished => cases h
  · rintro ⟨_, _, _, rfl⟩
    rfl

theorem phase?_eq_none (h : chapter.failing? = some failing) : chapter.phase? = none := by
  obtain ⟨_, _, _, rfl⟩ := failing?_eq_some.1 h
  rfl

theorem mem_trails_of_failing (h : chapter.failing? = some failing) :
    failing ∈ chapter.trails := by
  obtain ⟨_, _, _, rfl⟩ := failing?_eq_some.1 h
  exact List.mem_append_right _ List.mem_cons_self

/-- A chapter that breaks off ends with the failure. -/
theorem getLast_events (h : chapter.failing? = some failing) :
    chapter.events.getLast? = some failing.failed := by
  obtain ⟨_, _, _, rfl⟩ := failing?_eq_some.1 h
  rw [events, TaskTrail.ofFailed, ← List.append_assoc, List.getLast?_concat]

/-- Chapters tell of the failures they break off at. -/
theorem filter_failed_flatMap_told (chapters : List (Chapter σ)) :
    (chapters.flatMap told).filter Event.isTaskFailed =
      (chapters.filterMap failing?).map TaskTrail.failed := by
  induction chapters with
  | nil => rfl
  | cons chapter rest ih =>
    rw [List.flatMap_cons, List.filter_append, filter_failed_told, ih, List.filterMap_cons]
    cases chapter.failing? <;> rfl

/-- Where no chapter breaks off, the tasks of the summary are those that are told as completed. -/
theorem taskCount_phases {chapters : List (Chapter σ)} {skipped : List String}
    (h : ∀ chapter ∈ chapters, chapter.failing? = none) :
    RunSummary.taskCount ⟨chapters.filterMap phase?, skipped⟩ =
      (chapters.flatMap told).countP Event.isTaskCompleted := by
  induction chapters with
  | nil => rfl
  | cons chapter rest ih =>
    obtain ⟨hchapter, hrest⟩ := List.forall_mem_cons.1 h
    rw [List.flatMap_cons, List.countP_append, ← ih hrest]
    cases chapter with
    | skipped => exact (Nat.zero_add _).symm
    | finished => rfl
    | broken => cases hchapter

end Chapter

/-! ## What tasks leave -/

/-- What a task leaves that starts in a state. -/
def QueuedTask.trail (entry : QueuedTask σ) (state : σ) : TaskTrail σ :=
  ⟨entry, (entry.task.run state).events⟩

/-- What tasks leave, each started in the state that the one before it left. -/
def trailsOf : List (QueuedTask σ) → σ → List (TaskTrail σ)
  | [], _ => []
  | entry :: rest, state => entry.trail state :: trailsOf rest (entry.task.run state).state

/-- What tasks leave up to the first failure: those that came to their end, and the one that
failed. -/
def trailsUpTo : List (QueuedTask σ) → σ → List (TaskTrail σ) × Option (TaskTrail σ)
  | [], _ => ([], none)
  | entry :: rest, state =>
    match (entry.task.run state).result with
    | .error _ => ([], some (entry.trail state))
    | .ok () =>
      let more := trailsUpTo rest (entry.task.run state).state
      (entry.trail state :: more.1, more.2)

variable {l m : List (QueuedTask σ)} {state : σ}

theorem map_entry_trailsOf (l : List (QueuedTask σ)) (state : σ) :
    (trailsOf l state).map TaskTrail.entry = l := by
  induction l generalizing state with
  | nil => rfl
  | cons entry rest ih => rw [trailsOf, List.map_cons, ih, QueuedTask.trail]

theorem trailsOf_append (h : (execute l state).failed = none) :
    trailsOf (l ++ m) state = trailsOf l state ++ trailsOf m (execute l state).state := by
  induction l generalizing state with
  | nil => rfl
  | cons entry rest ih =>
    simp only [execute] at h ⊢
    split at h
    · cases h
    · rw [List.cons_append, trailsOf, trailsOf, ih h, List.cons_append]

theorem ran_append_of_none (h : (execute l state).failed = none) :
    (execute (l ++ m) state).ran = l ++ (execute m (execute l state).state).ran := by
  induction l generalizing state with
  | nil => rfl
  | cons entry rest ih =>
    simp only [execute, List.cons_append] at h ⊢
    split at h
    · cases h
    · simp only [ih h]

/-- Up to the first failure, tasks leave the trails of those that ran. -/
theorem append_trailsUpTo (l : List (QueuedTask σ)) (state : σ) :
    (trailsUpTo l state).1 ++ (trailsUpTo l state).2.toList =
      trailsOf (execute l state).ran state := by
  induction l generalizing state with
  | nil => rfl
  | cons entry rest ih =>
    cases h : (entry.task.run state).result with
    | error e => simp [trailsUpTo, execute, h, trailsOf]
    | ok value => simp only [trailsUpTo, execute, h, trailsOf, ← ih, List.cons_append]

/-- The task that leaves the trail of a failure is the one that fails. -/
theorem failing_trailsUpTo (l : List (QueuedTask σ)) (state : σ) :
    (trailsUpTo l state).2.map TaskTrail.entry = (execute l state).failed.map Prod.fst := by
  induction l generalizing state with
  | nil => rfl
  | cons entry rest ih =>
    cases h : (entry.task.run state).result with
    | error e => simp [trailsUpTo, execute, h, QueuedTask.trail]
    | ok value => simp only [trailsUpTo, execute, h, ih]

end EntityPipeline
