-- The trail of a run, told in chapters. Under each priority that a run comes to it leaves one
-- chapter, and the trail is these chapters one after the other. A run that a task aborts breaks off
-- within a chapter, and the record of that failure is its last one.
import EntityPipeline.Proofs.Run.Chapters
import EntityPipeline.Proofs.Run.DependenciesFirst

namespace EntityPipeline

variable {σ : Type} {l : List (QueuedTask σ)} {state : σ}

/-! ## Events of actions -/

/-- The events of a task stand between the records that tell of it. -/
theorem events_runWithin (entry : QueuedTask σ) (state : σ) :
    (entry.task.runWithin entry.priority entry.generator state).events =
      match (entry.task.run state).result with
      | .ok () => (entry.trail state).ofCompleted
      | .error _ => (entry.trail state).ofFailed := by
  cases h : (entry.task.run state).result with
  | error e =>
    simp only [Task.runWithin, h]
    rfl
  | ok value =>
    simp only [Task.runWithin, h]
    rfl

theorem Action.events_emit {α : Type} (event : Event) (f : Unit → Action σ α) (state : σ) :
    (Action.andThen (.emit event) f state).events = event :: (f () state).events := rfl

/-- The value of an action makes no difference to its events. -/
theorem Action.events_value {α β : Type} (act : Action σ α) (f : α → β) (state : σ) :
    (Action.andThen act (fun a => .give (f a)) state).events = (act state).events := by
  cases h : (act state).result with
  | error e => rw [Action.andThen_of_error h]
  | ok a =>
    rw [Action.andThen_of_ok h]
    exact List.append_nil _

namespace Scheduler

variable {s : Scheduler σ} {generators : List String}

/-- Tasks leave their events one after the other, up to the one that fails. -/
theorem events_runTasks {priority : String} (hl : ∀ entry ∈ l, entry.priority = priority)
    (state : σ) :
    (runTasks priority (l.map fun entry => (entry.generator, entry.task)) state).events =
      (trailsUpTo l state).1.flatMap TaskTrail.ofCompleted ++
        (trailsUpTo l state).2.toList.flatMap TaskTrail.ofFailed := by
  induction l generalizing state with
  | nil => rfl
  | cons entry rest ih =>
    obtain ⟨rfl, hrest⟩ := List.forall_mem_cons.1 hl
    have hevents := events_runWithin entry state
    obtain ⟨hresult, hstate⟩ := runs_runWithin entry state
    simp only [List.map_cons, runTasks, trailsUpTo]
    cases hrun : (entry.task.run state).result with
    | error e =>
      simp only [execute, hrun] at hresult hevents ⊢
      rw [Action.andThen_of_error hresult, hevents]
      simp
    | ok value =>
      simp only [execute, hrun] at hresult hstate hevents ⊢
      rw [Action.andThen_of_ok hresult]
      dsimp only
      rw [hevents, Action.events_value, hstate, ih hrest, List.flatMap_cons, List.append_assoc]

/-! ## What a run leaves under a priority -/

/-- What a run leaves under a priority that it comes to in a state. -/
inductive Leaves (scheduler : Scheduler σ) (generators : List String) (priority : Priority)
    (state : σ) : Chapter σ → Prop
  | skipped : scheduler.isIdle priority = true →
      Leaves scheduler generators priority state (.skipped priority)
  | finished {tasks : List (TaskTrail σ)} : scheduler.isIdle priority = false →
      trailsUpTo (scheduler.taken generators priority.name) state = (tasks, none) →
      Leaves scheduler generators priority state
        (.finished priority (groupsOf generators scheduler.queue priority.name).length tasks)
  | broken {tasks : List (TaskTrail σ)} {failing : TaskTrail σ} :
      scheduler.isIdle priority = false →
      trailsUpTo (scheduler.taken generators priority.name) state = (tasks, some failing) →
      Leaves scheduler generators priority state
        (.broken priority (groupsOf generators scheduler.queue priority.name).length tasks failing)

variable {priority : Priority} {priorities : List Priority} {chapter : Chapter σ}
  {chapters : List (Chapter σ)}

theorem exists_leaves (s : Scheduler σ) (generators : List String) (priority : Priority)
    (state : σ) : ∃ chapter, s.Leaves generators priority state chapter := by
  cases hidle : s.isIdle priority with
  | true => exact ⟨_, .skipped hidle⟩
  | false =>
    cases hupTo : trailsUpTo (s.taken generators priority.name) state with
    | mk tasks failing? =>
      cases failing? with
      | none => exact ⟨_, .finished hidle hupTo⟩
      | some failing => exact ⟨_, .broken hidle hupTo⟩

namespace Leaves

theorem priority_eq (h : s.Leaves generators priority state chapter) :
    chapter.priority = priority := by
  cases h <;> rfl

theorem isSkipped_eq (h : s.Leaves generators priority state chapter) :
    chapter.isSkipped = s.isIdle priority := by
  cases h with
  | skipped hidle => exact hidle.symm
  | finished hbusy => exact hbusy.symm
  | broken hbusy => exact hbusy.symm

theorem groups_eq (h : s.Leaves generators priority state chapter) :
    chapter.groups = (s.queue.filter (·.priority == priority.name)).length := by
  have hlength : (groupsOf generators s.queue priority.name).length =
      (s.queue.filter (·.priority == priority.name)).length := by
    simp [groupsOf]
  cases h with
  | skipped hidle =>
    have hempty : s.queue.filter (·.priority == priority.name) = [] := by
      simpa [List.filter_eq_nil_iff] using (isIdle_iff.1 hidle).2
    rw [hempty]
    rfl
  | finished => exact hlength
  | broken => exact hlength

/-- A chapter holds the trails of the tasks that ran. -/
theorem trails_eq (h : s.Leaves generators priority state chapter) : chapter.trails =
    trailsOf (execute (s.taken generators priority.name) state).ran state := by
  rw [← append_trailsUpTo]
  cases h with
  | skipped hidle =>
    rw [taken_of_isIdle hidle]
    rfl
  | finished _ hupTo => simp [hupTo, Chapter.trails]
  | broken _ hupTo => simp [hupTo, Chapter.trails]

theorem entries_eq (h : s.Leaves generators priority state chapter) :
    chapter.trails.map TaskTrail.entry =
      (execute (s.taken generators priority.name) state).ran := by
  rw [h.trails_eq, map_entry_trailsOf]

/-- A chapter breaks off at the task that fails. -/
theorem failing_eq (h : s.Leaves generators priority state chapter) :
    chapter.failing?.map TaskTrail.entry =
      (execute (s.taken generators priority.name) state).failed.map Prod.fst := by
  rw [← failing_trailsUpTo]
  cases h with
  | skipped hidle =>
    rw [taken_of_isIdle hidle]
    rfl
  | finished _ hupTo => simp [hupTo, Chapter.failing?]
  | broken _ hupTo => simp [hupTo, Chapter.failing?]

theorem failing_eq_none (h : s.Leaves generators priority state chapter) :
    chapter.failing? = none ↔
      (execute (s.taken generators priority.name) state).failed = none := by
  rw [← Option.map_eq_none_iff, h.failing_eq, Option.map_eq_none_iff]

theorem failed_eq_some {failing : TaskTrail σ} (h : s.Leaves generators priority state chapter)
    (hsome : chapter.failing? = some failing) :
    ∃ cause, (execute (s.taken generators priority.name) state).failed =
      some (failing.entry, cause) := by
  have hfailing := h.failing_eq
  rw [hsome] at hfailing
  obtain ⟨⟨entry, cause⟩, hfailed, rfl⟩ := Option.map_eq_some_iff.1 hfailing.symm
  exact ⟨cause, hfailed⟩

/-- A chapter that does not break off stands for all the tasks of its priority in the summary,
unless it is skipped. -/
theorem phase_eq (h : s.Leaves generators priority state chapter)
    (hnone : chapter.failing? = none) : chapter.phase? = if s.isIdle priority then none
      else some ⟨priority.name, (s.taken generators priority.name).length⟩ := by
  have hentries := h.entries_eq
  rw [ran_of_failed_eq_none (h.failing_eq_none.1 hnone)] at hentries
  cases h with
  | skipped hidle =>
    rw [if_pos hidle]
    rfl
  | finished hbusy =>
    rw [if_neg (by simp [hbusy]), Chapter.phase?, Chapter.countP_told_finished, ← hentries,
      List.length_map, Chapter.trails]
  | broken => cases hnone

/-- The groups of a priority leave the events of its chapter. -/
theorem events_eq (h : s.Leaves generators priority state chapter)
    (hbusy : s.isIdle priority = false) :
    (runPriority priority (groupsOf generators s.queue priority.name) state).events =
      chapter.events := by
  have hpriority : ∀ entry ∈ s.taken generators priority.name, entry.priority = priority.name :=
    fun entry hin => (mem_taken.1 hin).2
  obtain ⟨hresult, -⟩ := runs_runTasks hpriority state
  have hevents := events_runTasks hpriority state
  rw [map_taken] at hresult hevents
  unfold runPriority
  rw [Action.events_emit]
  have hleaves := h
  cases h with
  | skipped hidle => exact absurd (hbusy.symm.trans hidle) Bool.false_ne_true
  | @finished tasks _ hupTo =>
    have hnone := hleaves.failing_eq_none.1 rfl
    have hlength : tasks.length = (s.taken generators priority.name).length := by
      have hentries := hleaves.entries_eq
      rw [ran_of_failed_eq_none hnone] at hentries
      exact (List.length_map _).symm.trans (congrArg List.length hentries)
    rw [Execution.result, hnone] at hresult
    rw [hupTo] at hevents
    rw [Action.andThen_of_ok hresult, hevents]
    dsimp only
    rw [Action.events_emit, ← hlength]
    simp [Chapter.events, Action.give]
  | broken _ hupTo =>
    obtain ⟨cause, hsome⟩ := hleaves.failed_eq_some rfl
    rw [Execution.result, hsome] at hresult
    rw [hupTo] at hevents
    rw [Action.andThen_of_error hresult, hevents]
    simp [Chapter.events]

end Leaves

/-! ## What a run leaves -/

/-- What a run leaves that comes to priorities in a state, up to the first chapter that breaks
off. -/
inductive Tells (scheduler : Scheduler σ) (generators : List String) :
    List Priority → σ → List (Chapter σ) → Prop
  | nil {state : σ} : Tells scheduler generators [] state []
  | goes_on {priority : Priority} {rest : List Priority} {state : σ} {chapter : Chapter σ}
      {chapters : List (Chapter σ)} : scheduler.Leaves generators priority state chapter →
      chapter.failing? = none →
      Tells scheduler generators rest
        (execute (scheduler.taken generators priority.name) state).state chapters →
      Tells scheduler generators (priority :: rest) state (chapter :: chapters)
  | breaks_off {priority : Priority} {rest : List Priority} {state : σ} {chapter : Chapter σ}
      {failing : TaskTrail σ} : scheduler.Leaves generators priority state chapter →
      chapter.failing? = some failing →
      Tells scheduler generators (priority :: rest) state [chapter]

theorem exists_tells (s : Scheduler σ) (generators : List String) (priorities : List Priority)
    (state : σ) : ∃ chapters, s.Tells generators priorities state chapters := by
  induction priorities generalizing state with
  | nil => exact ⟨[], .nil⟩
  | cons priority rest ih =>
    obtain ⟨chapter, hleaves⟩ := exists_leaves s generators priority state
    cases hfailing : chapter.failing? with
    | none =>
      obtain ⟨chapters, htells⟩ := ih (execute (s.taken generators priority.name) state).state
      exact ⟨_, .goes_on hleaves hfailing htells⟩
    | some failing => exact ⟨_, .breaks_off hleaves hfailing⟩

namespace Tells

/-- Going through priorities leaves the events of their chapters. -/
theorem events_eq (h : s.Tells generators priorities state chapters) :
    (runPriorities generators s.queue priorities state).events =
      chapters.flatMap Chapter.events := by
  induction h with
  | nil => rfl
  | @goes_on priority rest state chapter chapters hleaves hnone htells ih =>
    unfold runPriorities
    simp only [isEmpty_groupsOf]
    rw [List.flatMap_cons]
    split
    · rename_i hidle
      have hsame : (execute (s.taken generators priority.name) state).state = state := by
        rw [taken_of_isIdle hidle]
        rfl
      rw [hsame] at ih
      rw [Action.events_emit, Action.events_value, ih]
      cases hleaves with
      | skipped => rfl
      | finished hbusy => exact absurd (hbusy.symm.trans hidle) Bool.false_ne_true
      | broken => cases hnone
    · rename_i hbusy
      obtain ⟨hresult, hstate⟩ := runs_runPriority s generators priority state
      rw [Execution.result, hleaves.failing_eq_none.1 hnone] at hresult
      rw [Action.andThen_of_ok hresult]
      dsimp only
      rw [Action.events_value, hleaves.events_eq (by simpa using hbusy), hstate, ih]
  | @breaks_off priority rest state chapter failing hleaves hsome =>
    have hbusy : s.isIdle priority = false := by
      rw [← hleaves.isSkipped_eq]
      obtain ⟨_, _, _, rfl⟩ := Chapter.failing?_eq_some.1 hsome
      rfl
    obtain ⟨hresult, -⟩ := runs_runPriority s generators priority state
    obtain ⟨cause, hfailed⟩ := hleaves.failed_eq_some hsome
    rw [Execution.result, hfailed] at hresult
    unfold runPriorities
    simp only [isEmpty_groupsOf, hbusy]
    rw [if_neg Bool.false_ne_true, Action.andThen_of_error hresult, hleaves.events_eq hbusy]
    simp

theorem exists_leaves (h : s.Tells generators priorities state chapters)
    (hin : chapter ∈ chapters) :
    ∃ priority reached, s.Leaves generators priority reached chapter := by
  induction h with
  | nil => cases hin
  | goes_on hleaves _ _ ih =>
    rcases List.mem_cons.1 hin with rfl | hin
    · exact ⟨_, _, hleaves⟩
    · exact ih hin
  | breaks_off hleaves _ =>
    rw [List.mem_singleton] at hin
    exact ⟨_, _, hin ▸ hleaves⟩

/-- The chapters stand in the order of the priorities. -/
theorem in_order (h : s.Tells generators priorities state chapters) :
    chapters.map Chapter.priority <+: priorities := by
  induction h with
  | nil => exact List.prefix_rfl
  | goes_on hleaves _ _ ih =>
    rw [List.map_cons, hleaves.priority_eq]
    exact List.cons_prefix_cons.2 ⟨rfl, ih⟩
  | breaks_off hleaves _ =>
    rw [List.map_singleton, hleaves.priority_eq]
    exact ⟨_, rfl⟩

/-- The chapters hold the trails of all tasks that ran. -/
theorem trails_eq (h : s.Tells generators priorities state chapters) :
    chapters.flatMap Chapter.trails =
      trailsOf (execute (priorities.flatMap fun priority => s.taken generators priority.name)
        state).ran state := by
  induction h with
  | nil => rfl
  | goes_on hleaves hnone _ ih =>
    have hnone := hleaves.failing_eq_none.1 hnone
    rw [List.flatMap_cons, List.flatMap_cons, ran_append_of_none hnone, trailsOf_append hnone,
      hleaves.trails_eq, ran_of_failed_eq_none hnone, ih]
  | breaks_off hleaves hsome =>
    obtain ⟨cause, hfailed⟩ := hleaves.failed_eq_some hsome
    rw [List.flatMap_singleton, List.flatMap_cons, execute_append_of_some hfailed,
      hleaves.trails_eq]

/-- When no task fails, a run comes to all priorities and no chapter breaks off. -/
theorem of_none (h : s.Tells generators priorities state chapters) (hnone : (execute
    (priorities.flatMap fun priority => s.taken generators priority.name) state).failed = none) :
    chapters.map Chapter.priority = priorities ∧
      ∀ chapter ∈ chapters, chapter.failing? = none := by
  induction h with
  | nil => exact ⟨rfl, List.forall_mem_nil _⟩
  | goes_on hleaves hunbroken _ ih =>
    rw [List.flatMap_cons,
      (execute_append_of_none (hleaves.failing_eq_none.1 hunbroken)).1] at hnone
    obtain ⟨hall, hrest⟩ := ih hnone
    rw [List.map_cons, hleaves.priority_eq, hall]
    exact ⟨rfl, List.forall_mem_cons.2 ⟨hunbroken, hrest⟩⟩
  | breaks_off hleaves hbroken =>
    obtain ⟨cause, hsome⟩ := hleaves.failed_eq_some hbroken
    rw [List.flatMap_cons, execute_append_of_some hsome, hsome] at hnone
    cases hnone

/-- When a task fails, the last chapter breaks off at it, and no other one does. -/
theorem of_some {entry : QueuedTask σ} {cause : Failure}
    (h : s.Tells generators priorities state chapters) (hsome : (execute
    (priorities.flatMap fun priority => s.taken generators priority.name) state).failed =
      some (entry, cause)) :
    ∃ before last failing, chapters = before ++ [last] ∧
      (∀ chapter ∈ before, chapter.failing? = none) ∧ last.failing? = some failing ∧
      failing.entry = entry := by
  induction h with
  | nil => cases hsome
  | @goes_on _ _ _ chapter chapters hleaves hunbroken _ ih =>
    rw [List.flatMap_cons,
      (execute_append_of_none (hleaves.failing_eq_none.1 hunbroken)).1] at hsome
    obtain ⟨before, last, failing, rfl, hbefore, hlast, hentry⟩ := ih hsome
    exact ⟨chapter :: before, last, failing, rfl, List.forall_mem_cons.2 ⟨hunbroken, hbefore⟩,
      hlast, hentry⟩
  | breaks_off hleaves hbroken =>
    obtain ⟨cause, hfailed⟩ := hleaves.failed_eq_some hbroken
    rw [List.flatMap_cons, execute_append_of_some hfailed, hfailed] at hsome
    cases hsome
    exact ⟨[], _, _, rfl, List.forall_mem_nil _, hbroken, rfl⟩

/-- Where no chapter breaks off, the summary says what the chapters tell. -/
theorem account_eq (h : s.Tells generators priorities state chapters)
    (hunbroken : ∀ chapter ∈ chapters, chapter.failing? = none) :
    s.accountOf generators priorities = ⟨chapters.filterMap Chapter.phase?,
      (chapters.filter Chapter.isSkipped).map (·.priority.name)⟩ := by
  induction h with
  | nil => rfl
  | @goes_on priority _ _ _ _ hleaves hnone _ ih =>
    have hrest := ih (List.forall_mem_cons.1 hunbroken).2
    rw [accountOf, RunSummary.mk.injEq] at hrest ⊢
    cases hidle : s.isIdle priority <;>
      simp [hleaves.phase_eq hnone, hleaves.isSkipped_eq, hleaves.priority_eq, hidle, hrest]
  | breaks_off _ hbroken =>
    rw [List.forall_mem_singleton.1 hunbroken] at hbroken
    cases hbroken

/-- The tasks of a chapter stand under its priority. -/
theorem priority_of_mem_trails (h : s.Tells generators priorities state chapters)
    (hchapter : chapter ∈ chapters) {trail : TaskTrail σ} (hin : trail ∈ chapter.trails) :
    trail.entry.priority = chapter.priority.name := by
  obtain ⟨priority, reached, hleaves⟩ := h.exists_leaves hchapter
  have hran : trail.entry ∈ chapter.trails.map TaskTrail.entry := List.mem_map_of_mem hin
  rw [hleaves.entries_eq] at hran
  have htaken := ran_starts (s.taken generators priority.name) reached
  rw [hleaves.priority_eq]
  exact (mem_taken.1 (htaken.subset hran)).2

theorem nodup_names (h : s.Tells generators priorities state chapters)
    (hn : (priorities.map Priority.name).Nodup) :
    (chapters.map (·.priority.name)).Nodup := by
  have hsub := h.in_order.sublist.map Priority.name
  rw [List.map_map] at hsub
  exact hn.sublist hsub

/-- The priority of the chapter that breaks off is nowhere told as completed. -/
theorem not_mem_told {last : Chapter σ} {failing : TaskTrail σ} {count : Nat}
    (h : s.Tells generators priorities state chapters) (hn : (priorities.map Priority.name).Nodup)
    (hin : last ∈ chapters) (hlast : last.failing? = some failing) :
    .priorityCompleted failing.entry.priority count ∉ chapters.flatMap Chapter.told := by
  intro hcompleted
  obtain ⟨chapter, hchapter, htold⟩ := List.mem_flatMap.1 hcompleted
  have hplaced := h.priority_of_mem_trails hin (Chapter.mem_trails_of_failing hlast)
  -- priorities have distinct names, so it would be the chapter that breaks off
  have hsame := List.inj_on_of_nodup_map (h.nodup_names hn) hchapter hin
    ((Chapter.counted htold).1.symm.trans hplaced)
  rw [hsame, Chapter.priorityCompleted_mem_told, Chapter.phase?_eq_none hlast] at htold
  cases htold

end Tells

/-! ## Runs -/

/-- Under a priority, a run takes what is scheduled for it. -/
theorem taken_eq_filter (s : Scheduler σ) (generators : List String) (priority : String) :
    s.taken generators priority =
      (s.schedule generators).filter (·.priority == priority) := by
  refine List.Perm.eq_of_pairwise ?_ (pairwise_taken s generators priority)
    ((pairwise_schedule s generators).filter _) (taken_perm s generators priority)
  exact fun a b _ _ hab hba => absurd (hab.trans hba) (lt_irrefl _)

/-- Chapters tell of a run: put together they are its events, in the order of the priorities, each
with the groups that were queued and the tasks that ran, between the records of the scheduler. The
counts in these records are right, and so is what is said of a failure. -/
structure IsToldBy (scheduler : Scheduler σ) (generators : List String) (state : σ)
    (chapters : List (Chapter σ)) : Prop where
  events : (scheduler.run state).2.events = chapters.flatMap Chapter.events
  in_order : chapters.map Chapter.priority <+: scheduler.order.priorities
  skipped : ∀ chapter ∈ chapters, chapter.isSkipped = true ↔ chapter.priority.skip = true ∧
    ∀ queued ∈ scheduler.queue, queued.priority ≠ chapter.priority.name
  groups : ∀ chapter ∈ chapters, chapter.groups =
    (scheduler.queue.filter (·.priority == chapter.priority.name)).length
  tasks : ∀ chapter ∈ chapters, chapter.trails.map TaskTrail.entry <+:
    (scheduler.schedule generators).filter (·.priority == chapter.priority.name)
  all_tasks : ∀ chapter ∈ chapters, chapter.failing? = none → chapter.trails.map TaskTrail.entry =
    (scheduler.schedule generators).filter (·.priority == chapter.priority.name)
  trails : chapters.flatMap Chapter.trails =
    trailsOf (execute (scheduler.schedule generators) state).ran state
  counted : ∀ chapter ∈ chapters, ∀ name count, .priorityCompleted name count ∈ chapter.told →
    name = chapter.priority.name ∧ count = chapter.told.countP Event.isTaskCompleted
  apart : (∀ chapter ∈ chapters, ∀ trail ∈ chapter.trails, trail.Quiet) →
    (scheduler.run state).2.events.filter (!·.fromTask) = chapters.flatMap Chapter.told
  succeeds : (execute (scheduler.schedule generators) state).failed = none →
    chapters.map Chapter.priority = scheduler.order.priorities ∧
    (∀ chapter ∈ chapters, chapter.failing? = none) ∧
    (chapters.flatMap Chapter.told).filter Event.isTaskFailed = [] ∧
    ∃ summary, (scheduler.run state).2.result = .ok summary ∧
      summary.phases = chapters.filterMap Chapter.phase? ∧
      summary.skipped = (chapters.filter Chapter.isSkipped).map (·.priority.name) ∧
      summary.taskCount = (chapters.flatMap Chapter.told).countP Event.isTaskCompleted
  fails : ∀ entry cause,
    (execute (scheduler.schedule generators) state).failed = some (entry, cause) →
      (scheduler.run state).2.result =
        .error (.phaseFailed entry.priority entry.generator entry.task.name cause) ∧
      (∃ before last failing, chapters = before ++ [last] ∧
        (∀ chapter ∈ before, chapter.failing? = none) ∧
        last.failing? = some failing ∧ failing.entry = entry) ∧
      (chapters.flatMap Chapter.told).filter Event.isTaskFailed =
        [.taskFailed entry.priority entry.generator entry.task.name] ∧
      (scheduler.run state).2.events.getLast? =
        some (.taskFailed entry.priority entry.generator entry.task.name) ∧
      ∀ count, .priorityCompleted entry.priority count ∉ chapters.flatMap Chapter.told

theorem isToldBy_of_tells (h : s.Sound) (hg : s.generatorOrder = .ok generators)
    (htells : s.Tells generators s.order.priorities state chapters) :
    s.IsToldBy generators state chapters := by
  have hschedule : s.schedule generators =
      s.order.priorities.flatMap fun priority => s.taken generators priority.name :=
    schedule_eq h.priorities fun queued hin => (h.queue queued hin).1
  have hevents : (s.run state).2.events = chapters.flatMap Chapter.events := by
    rw [← htells.events_eq]
    simp [run, hg]
  obtain ⟨-, hresult, -⟩ := run_of_sound h hg state
  refine ⟨hevents, htells.in_order, ?_, ?_, ?_, ?_, ?_, ?_, ?_, ?_, ?_⟩
  · intro chapter hin
    obtain ⟨priority, reached, hleaves⟩ := htells.exists_leaves hin
    rw [hleaves.isSkipped_eq, hleaves.priority_eq, isIdle_iff]
  · intro chapter hin
    obtain ⟨priority, reached, hleaves⟩ := htells.exists_leaves hin
    rw [hleaves.groups_eq, hleaves.priority_eq]
  · intro chapter hin
    obtain ⟨priority, reached, hleaves⟩ := htells.exists_leaves hin
    rw [hleaves.entries_eq, hleaves.priority_eq, ← taken_eq_filter]
    exact ran_starts _ _
  · intro chapter hin hnone
    obtain ⟨priority, reached, hleaves⟩ := htells.exists_leaves hin
    rw [hleaves.entries_eq, hleaves.priority_eq, ← taken_eq_filter]
    exact ran_of_failed_eq_none (hleaves.failing_eq_none.1 hnone)
  · rw [htells.trails_eq, ← hschedule]
  · exact fun chapter _ name count => Chapter.counted
  · intro hquiet
    rw [hevents, List.filter_flatMap]
    exact List.flatMap_congr fun chapter hin => Chapter.filter_events (hquiet chapter hin)
  · intro hnone
    rw [Execution.result, hnone] at hresult
    obtain ⟨hall, hunbroken⟩ := htells.of_none (hschedule ▸ hnone)
    refine ⟨hall, hunbroken, ?_, _, hresult, ?_⟩
    · rw [Chapter.filter_failed_flatMap_told, List.filterMap_eq_nil_iff.2 hunbroken, List.map_nil]
    · rw [htells.account_eq hunbroken]
      exact ⟨rfl, rfl, Chapter.taskCount_phases hunbroken⟩
  · intro entry cause hsome
    rw [Execution.result, hsome] at hresult
    obtain ⟨before, last, failing, rfl, hbefore, hlast, rfl⟩ := htells.of_some (hschedule ▸ hsome)
    refine ⟨hresult, ⟨before, last, failing, rfl, hbefore, hlast, rfl⟩, ?_, ?_, ?_⟩
    · rw [Chapter.filter_failed_flatMap_told, List.filterMap_append,
        List.filterMap_eq_nil_iff.2 hbefore, List.nil_append, List.filterMap_cons_some hlast]
      rfl
    · rw [hevents, List.flatMap_append, List.flatMap_singleton, List.getLast?_append,
        Chapter.getLast_events hlast]
      rfl
    · exact fun count => htells.not_mem_told h.priorities
        (List.mem_append_right before List.mem_cons_self) hlast

/-- After any calls on a fresh scheduler, a run is told in chapters; without an order of the
generators it leaves nothing to tell. -/
theorem a_run_is_told_in_chapters (h : s.Fresh) (calls : List (Call σ)) (state : σ) :
    match (s.afterAll calls).generatorOrder with
    | .ok generators => ∃ chapters, (s.afterAll calls).IsToldBy generators state chapters
    | .error cause =>
      (s.afterAll calls).run state = (s.afterAll calls, ⟨.error cause, state, []⟩) := by
  split
  · rename_i generators hg
    obtain ⟨chapters, htells⟩ := exists_tells (s.afterAll calls) generators
      (s.afterAll calls).order.priorities state
    exact ⟨chapters, isToldBy_of_tells (sound_afterAll h calls) hg htells⟩
  · rename_i cause hg
    unfold run
    rw [hg]

theorem the_stumbling_run_is_told : unused.Fresh ∧
    (unused.afterAll stumblingCalls).generatorOrder = .ok ["base", "app"] ∧
    ∃ chapters, (unused.afterAll stumblingCalls).IsToldBy ["base", "app"] ["0"] chapters := by
  have hg : (unused.afterAll stumblingCalls).generatorOrder = .ok ["base", "app"] := by
    cbv
  have h := a_run_is_told_in_chapters unused_is_fresh stumblingCalls ["0"]
  rw [hg] at h
  exact ⟨unused_is_fresh, hg, h⟩

example : ((unused.afterAll stumblingCalls).run ["0"]).2.events =
    [.priorityStarted "start" "entigen:start" 0, .priorityCompleted "start" 0,
      .prioritySkipped "middle", .priorityStarted "end" "entigen:end" 3,
      .taskStarted "end" "base" "a", .taskCompleted "end" "base" "a",
      .taskStarted "end" "base" "d", .taskCompleted "end" "base" "d",
      .taskStarted "end" "app" "b", .taskCompleted "end" "app" "b",
      .taskStarted "end" "app" "c", .taskFailed "end" "app" "c"] := by
  cbv

end Scheduler

end EntityPipeline
