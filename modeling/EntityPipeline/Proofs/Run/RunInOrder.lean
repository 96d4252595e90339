-- What a run comes to. Taking the scheduled tasks one at a time, each with the state that the one
-- before it left, up to the first that fails, comes to the same state and the same failure as a
-- run. The summary of a run that gets to the end accounts for every priority and every task.
import EntityPipeline.Proofs.Run.GeneratorOrder
import EntityPipeline.Proofs.Run.Schedule
import Mathlib

namespace EntityPipeline

variable {σ : Type}

/-- Tasks taken one after the other: those that ran, the last of them with its failure if it
failed, and the state they left. -/
structure Execution (σ : Type) where
  ran : List (QueuedTask σ)
  failed : Option (QueuedTask σ × Failure)
  state : σ

/-- Takes tasks one after the other up to the first one that fails. -/
def execute : List (QueuedTask σ) → σ → Execution σ
  | [], state => ⟨[], none, state⟩
  | entry :: rest, state =>
    let done := entry.task.run state
    match done.result with
    | .error e => ⟨[entry], some (entry, e), done.state⟩
    | .ok () =>
      let more := execute rest done.state
      { more with ran := entry :: more.ran }

/-- The failure of a run in which a task failed. -/
def QueuedTask.failure (entry : QueuedTask σ) (cause : Failure) : Failure :=
  .phaseFailed entry.priority entry.generator entry.task.name cause

/-- A value that tasks come to unless one of them fails. -/
def Execution.result {α : Type} (execution : Execution σ) (value : α) : Except Failure α :=
  match execution.failed with
  | none => .ok value
  | some (entry, cause) => .error (entry.failure cause)

variable {entry : QueuedTask σ} {cause : Failure} {l m : List (QueuedTask σ)} {state : σ}

/-! ## Taking tasks -/

/-- When no task fails, all of them ran. -/
theorem ran_of_failed_eq_none (h : (execute l state).failed = none) :
    (execute l state).ran = l := by
  induction l generalizing state with
  | nil => rfl
  | cons entry rest ih =>
    simp only [execute] at h ⊢
    split at h
    · cases h
    · simp only
      rw [ih h]

/-- When a task fails, those before it did not, it was the last to run, it failed by itself with
that failure, and the state is the one it left. -/
theorem split_of_failed (h : (execute l state).failed = some (entry, cause)) :
    ∃ before after, l = before ++ entry :: after ∧ (execute before state).failed = none ∧
      (execute l state).ran = before ++ [entry] ∧
      (entry.task.run (execute before state).state).result = .error cause ∧
      (execute l state).state = (entry.task.run (execute before state).state).state := by
  induction l generalizing state with
  | nil => cases h
  | cons first rest ih =>
    simp only [execute] at h ⊢
    split at h
    · rename_i e herror
      cases h
      exact ⟨[], rest, rfl, rfl, rfl, herror, rfl⟩
    · rename_i hok
      obtain ⟨before, after, heq, hbefore, hran, hresult, hstate⟩ := ih h
      refine ⟨first :: before, after, by rw [heq]; rfl, ?_, ?_, ?_, ?_⟩
      · simp [execute, hok, hbefore]
      · simp [hran]
      · simpa [execute, hok] using hresult
      · simpa [execute, hok] using hstate

/-- After tasks that do not fail, the next ones go on with the state they left. -/
theorem execute_append_of_none (h : (execute l state).failed = none) :
    (execute (l ++ m) state).failed = (execute m (execute l state).state).failed ∧
      (execute (l ++ m) state).state = (execute m (execute l state).state).state := by
  induction l generalizing state with
  | nil => exact ⟨rfl, rfl⟩
  | cons first rest ih =>
    simp only [execute, List.cons_append] at h ⊢
    split at h
    · cases h
    · exact ih h

/-- A task that fails keeps all later ones from running. -/
theorem execute_append_of_some (h : (execute l state).failed = some (entry, cause)) :
    execute (l ++ m) state = execute l state := by
  induction l generalizing state with
  | nil => cases h
  | cons first rest ih =>
    simp only [execute, List.cons_append] at h ⊢
    split at h
    · rfl
    · rw [ih h]

/-! ## What a run does -/

/-- An action comes to what tasks come to, with a value if none of them fails. -/
def Runs {α : Type} (act : Action σ α) (l : List (QueuedTask σ)) (value : α) : Prop :=
  ∀ state, (act state).result = (execute l state).result value ∧
    (act state).state = (execute l state).state

/-- An action that does nothing but leave an event changes nothing. -/
theorem Runs.emit {α : Type} (event : Event) {act : Action σ α} {value : α}
    (h : Runs act l value) : Runs (Action.andThen (.emit event) fun () => act) l value := by
  intro state
  exact h state

/-- Actions one after the other come to what their tasks come to one after the other. -/
theorem Runs.andThen {α β : Type} {act : Action σ α} {f : α → Action σ β} {a : α} {b : β}
    (h1 : Runs act l a) (h2 : Runs (f a) m b) : Runs (Action.andThen act f) (l ++ m) b := by
  intro state
  obtain ⟨hr, hs⟩ := h1 state
  unfold Action.andThen
  unfold Execution.result at hr
  split at hr
  · rename_i hnone
    obtain ⟨hr2, hs2⟩ := h2 (execute l state).state
    obtain ⟨hf, ht⟩ := execute_append_of_none (m := m) hnone
    simp only [hr, hs]
    refine ⟨?_, by rw [hs2, ht]⟩
    rw [hr2]
    simp only [Execution.result, hf]
  · rename_i hsome
    rw [execute_append_of_some hsome]
    simp only [hr]
    exact ⟨by simp only [Execution.result, hsome], hs⟩

theorem Runs.give {α : Type} (value : α) : Runs (.give value : Action σ α) [] value :=
  fun _ => ⟨rfl, rfl⟩

theorem runs_runWithin (entry : QueuedTask σ) :
    Runs (entry.task.runWithin entry.priority entry.generator) [entry] () := by
  intro state
  unfold Task.runWithin
  simp only [execute]
  split
  · rename_i hok
    simp [hok, Execution.result]
  · rename_i e herror
    simp [herror, Execution.result, QueuedTask.failure]

namespace Scheduler

variable {s : Scheduler σ} {generators : List String}

theorem runs_runTasks {priority : String} (hl : ∀ entry ∈ l, entry.priority = priority) :
    Runs (runTasks priority (l.map fun entry => (entry.generator, entry.task))) l l.length := by
  induction l with
  | nil => exact Runs.give 0
  | cons entry rest ih =>
    have hrest := ih fun other hin => hl other (List.mem_cons_of_mem _ hin)
    have hentry := runs_runWithin entry
    rw [hl entry List.mem_cons_self] at hentry
    have hcount : Runs (Action.andThen (runTasks priority
        (rest.map fun entry => (entry.generator, entry.task))) fun count =>
          .give (count + 1)) (rest ++ []) (rest.length + 1) := hrest.andThen (Runs.give _)
    rw [List.append_nil] at hcount
    exact hentry.andThen hcount

/-- The groups of a priority between its events. -/
theorem runs_runPriority (s : Scheduler σ) (generators : List String) (priority : Priority) :
    Runs (runPriority priority (groupsOf generators s.queue priority.name))
      (s.taken generators priority.name)
      ⟨priority.name, (s.taken generators priority.name).length⟩ := by
  have hpriority : ∀ entry ∈ s.taken generators priority.name, entry.priority = priority.name :=
    fun entry hin => (mem_taken.1 hin).2
  have htasks := runs_runTasks hpriority
  rw [map_taken] at htasks
  let complete : Nat → Action σ PhaseSummary := fun count =>
    Action.andThen (.emit (.priorityCompleted priority.name count)) fun () =>
      .give ⟨priority.name, count⟩
  have hcomplete : ∀ count, Runs (complete count) [] ⟨priority.name, count⟩ :=
    fun _ => (Runs.give _).emit _
  have hrun := htasks.andThen (f := complete) (hcomplete _)
  rw [List.append_nil] at hrun
  exact hrun.emit _

/-! ## The summary -/

/-- Whether a priority is skipped: it may be, and nothing is queued on it. -/
def isIdle (scheduler : Scheduler σ) (priority : Priority) : Bool :=
  priority.skip && !scheduler.queue.any (·.priority == priority.name)

/-- The summary of priorities that a run got through. -/
def accountOf (scheduler : Scheduler σ) (generators : List String) (priorities : List Priority) :
    RunSummary where
  phases := (priorities.filter (!scheduler.isIdle ·)).map fun priority =>
    ⟨priority.name, (scheduler.taken generators priority.name).length⟩
  skipped := (priorities.filter scheduler.isIdle).map Priority.name

theorem isEmpty_groupsOf (s : Scheduler σ) (generators : List String) (priority : Priority) :
    ((groupsOf generators s.queue priority.name).isEmpty && priority.skip) = s.isIdle priority := by
  have hempty : (groupsOf generators s.queue priority.name).isEmpty =
      !s.queue.any (·.priority == priority.name) := by
    rw [Bool.eq_iff_iff, List.isEmpty_iff_length_eq_zero]
    simp [groupsOf, List.filter_eq_nil_iff]
  rw [hempty, isIdle, Bool.and_comm]

theorem taken_of_isIdle {priority : Priority} (h : s.isIdle priority = true) :
    s.taken generators priority.name = [] := by
  apply List.eq_nil_iff_forall_not_mem.2
  intro entry hin
  obtain ⟨hentry, hp⟩ := mem_taken.1 hin
  obtain ⟨queued, hq, he⟩ := mem_queuedTasks.1 hentry
  have hname := (mem_entries.1 he).2.1.symm.trans hp
  simp only [isIdle, Bool.and_eq_true, Bool.not_eq_true', List.any_eq_false, beq_iff_eq] at h
  exact h.2 queued (List.mem_of_getElem? hq) hname

/-- Going through priorities takes their tasks one after the other. -/
theorem runs_runPriorities (s : Scheduler σ) (generators : List String)
    (priorities : List Priority) :
    Runs (runPriorities generators s.queue priorities)
      (priorities.flatMap fun priority => s.taken generators priority.name)
      (s.accountOf generators priorities) := by
  induction priorities with
  | nil => exact Runs.give _
  | cons priority rest ih =>
    unfold runPriorities
    simp only [isEmpty_groupsOf]
    have hmore : ∀ change : RunSummary → RunSummary,
        Runs (Action.andThen (runPriorities generators s.queue rest) fun summary =>
          .give (change summary))
          ((rest.flatMap fun priority => s.taken generators priority.name) ++ [])
          (change (s.accountOf generators rest)) := fun _ => ih.andThen (Runs.give _)
    simp only [List.append_nil] at hmore
    split
    · rename_i hidle
      -- a priority that is skipped has no tasks to take
      have hskip := (hmore fun summary =>
        { summary with skipped := priority.name :: summary.skipped }).emit
          (.prioritySkipped priority.name)
      simpa [accountOf, hidle, taken_of_isIdle hidle] using hskip
    · rename_i hbusy
      let next : PhaseSummary → Action σ RunSummary := fun phase =>
        Action.andThen (runPriorities generators s.queue rest) fun summary =>
          .give { summary with phases := phase :: summary.phases }
      have hphase := (runs_runPriority s generators priority).andThen (f := next) (hmore _)
      simpa [accountOf, hbusy] using hphase

/-- A summary tells what became of every priority when tasks ran: the priorities gone through and
those skipped, each of them in order, and how many tasks ran where. -/
structure Accounts (scheduler : Scheduler σ) (ran : List (QueuedTask σ)) (summary : RunSummary) :
    Prop where
  phases_in_order : (summary.phases.map PhaseSummary.priority).Sublist scheduler.order.names
  skipped_in_order : summary.skipped.Sublist scheduler.order.names
  each_once : (summary.phases.map PhaseSummary.priority ++ summary.skipped).Perm
    scheduler.order.names ∧ scheduler.order.names.Nodup
  skipped : ∀ priority ∈ scheduler.order.priorities, priority.name ∈ summary.skipped ↔
    priority.skip = true ∧ ∀ queued ∈ scheduler.queue, queued.priority ≠ priority.name
  counted : ∀ phase ∈ summary.phases,
    phase.tasks = (ran.filter (·.priority == phase.priority)).length

theorem isIdle_iff {priority : Priority} : s.isIdle priority = true ↔
    priority.skip = true ∧ ∀ queued ∈ s.queue, queued.priority ≠ priority.name := by
  simp [isIdle]

theorem eq_of_names_nodup (hn : s.order.names.Nodup) {first second : Priority}
    (h1 : first ∈ s.order.priorities) (h2 : second ∈ s.order.priorities)
    (h : first.name = second.name) : first = second :=
  List.inj_on_of_nodup_map hn h1 h2 h

/-- Under a priority those tasks are taken that are scheduled for it. -/
theorem taken_perm (s : Scheduler σ) (generators : List String) (priority : String) :
    (s.taken generators priority).Perm
      ((s.schedule generators).filter (·.priority == priority)) := by
  have hnodup : (s.taken generators priority).Nodup := by
    refine (pairwise_taken s generators priority).imp ?_
    rintro a b hlt rfl
    exact lt_irrefl _ hlt
  refine (List.perm_ext_iff_of_nodup hnodup
    ((nodup_schedule s generators).filter _)).2 fun entry => ?_
  rw [mem_taken, List.mem_filter, (schedule_perm s generators).mem_iff, beq_iff_eq]

/-- The summary of all priorities accounts for everything that is scheduled. -/
theorem accounts_accountOf (hn : s.order.names.Nodup) (generators : List String) :
    s.Accounts (s.schedule generators) (s.accountOf generators s.order.priorities) := by
  have hphases : (s.accountOf generators s.order.priorities).phases.map PhaseSummary.priority =
      (s.order.priorities.filter (!s.isIdle ·)).map Priority.name := by
    simp [accountOf, Function.comp_def]
  refine ⟨?_, List.filter_sublist.map _, ⟨?_, hn⟩, ?_, ?_⟩
  · rw [hphases]
    exact List.filter_sublist.map _
  · rw [hphases, accountOf, ← List.map_append]
    refine List.Perm.map _ (List.perm_append_comm.trans ?_)
    exact List.filter_append_perm _ _
  · intro priority hpriority
    rw [← isIdle_iff]
    constructor
    · intro hin
      obtain ⟨other, hother, hname⟩ := List.mem_map.1 hin
      obtain ⟨hin, hidle⟩ := List.mem_filter.1 hother
      exact eq_of_names_nodup hn hin hpriority hname ▸ hidle
    · exact fun hidle => List.mem_map_of_mem (List.mem_filter.2 ⟨hpriority, hidle⟩)
  · intro phase hphase
    obtain ⟨priority, _, rfl⟩ := List.mem_map.1 hphase
    exact (taken_perm s generators priority.name).length_eq

/-! ## Runs -/

/-- A run takes the scheduled tasks one at a time, each with the state that the one before it
left, up to the first that fails. -/
structure RunsInOrder (scheduler : Scheduler σ) (generators : List String) (state : σ) :
    Prop where
  scheduled : (scheduler.schedule generators).Perm scheduler.queuedTasks ∧
    scheduler.queuedTasks.Nodup
  in_order : (scheduler.schedule generators).Pairwise fun first second =>
    scheduler.standing generators first < scheduler.standing generators second
  ranked : ∀ entry ∈ scheduler.schedule generators,
    entry.priority ∈ scheduler.order.names ∧ entry.generator ∈ generators
  leaves : (scheduler.run state).1 = scheduler.begun ∧
    (scheduler.run state).2.state = (execute (scheduler.schedule generators) state).state
  succeeds : (execute (scheduler.schedule generators) state).failed = none →
    (execute (scheduler.schedule generators) state).ran = scheduler.schedule generators ∧
      ∃ summary, (scheduler.run state).2.result = .ok summary ∧
        scheduler.Accounts (scheduler.schedule generators) summary
  fails : ∀ entry cause,
    (execute (scheduler.schedule generators) state).failed = some (entry, cause) →
      (scheduler.run state).2.result =
        .error (.phaseFailed entry.priority entry.generator entry.task.name cause) ∧
      ∃ before after, scheduler.schedule generators = before ++ entry :: after ∧
        (execute before state).failed = none ∧
        (execute (scheduler.schedule generators) state).ran = before ++ [entry] ∧
        (entry.task.run (execute before state).state).result = .error cause ∧
        (scheduler.run state).2.state = (entry.task.run (execute before state).state).state

/-- What is scheduled has a priority and a composed generator. -/
theorem ranked_of_sound (h : s.Sound) (hg : s.generatorOrder = .ok generators) :
    ∀ entry ∈ s.schedule generators,
      entry.priority ∈ s.order.names ∧ entry.generator ∈ generators := by
  intro entry hentry
  obtain ⟨queued, hqueued, hin⟩ :=
    mem_queuedTasks.1 ((schedule_perm s generators).mem_iff.1 hentry)
  obtain ⟨_, hpriority, hgenerator, _⟩ := mem_entries.1 hin
  rw [hpriority, hgenerator, (perm_of_generatorOrder h.generators hg).mem_iff]
  exact h.queue queued (List.mem_of_getElem? hqueued)

/-- A run comes to what its schedule comes to. -/
theorem run_of_sound (h : s.Sound) (hg : s.generatorOrder = .ok generators) (state : σ) :
    (s.run state).1 = s.begun ∧
      (s.run state).2.result = (execute (s.schedule generators) state).result
        (s.accountOf generators s.order.priorities) ∧
      (s.run state).2.state = (execute (s.schedule generators) state).state := by
  have hruns := runs_runPriorities s generators s.order.priorities
  rw [← schedule_eq h.priorities fun queued hin => (h.queue queued hin).1] at hruns
  unfold run
  simp only [hg, true_and]
  exact hruns state

theorem runsInOrder_of_sound (h : s.Sound) (hg : s.generatorOrder = .ok generators) (state : σ) :
    s.RunsInOrder generators state := by
  obtain ⟨hbegun, hresult, hstate⟩ := run_of_sound h hg state
  refine ⟨⟨schedule_perm s generators, nodup_queuedTasks s⟩, pairwise_schedule s generators,
    ranked_of_sound h hg, ⟨hbegun, hstate⟩, ?_, ?_⟩
  · intro hnone
    refine ⟨ran_of_failed_eq_none hnone, _, ?_, accounts_accountOf h.priorities generators⟩
    rw [hresult, Execution.result, hnone]
  · intro entry cause hsome
    obtain ⟨before, after, heq, hbefore, hran, herror, hleft⟩ := split_of_failed hsome
    refine ⟨?_, before, after, heq, hbefore, hran, herror, by rw [hstate, hleft]⟩
    rw [hresult, Execution.result, hsome]
    rfl

/-- After any calls on a fresh scheduler, a run is the tasks of its schedule in order; without an
order of the generators it is nothing. -/
theorem a_run_takes_its_schedule (h : s.Fresh) (calls : List (Call σ)) (state : σ) :
    match (s.afterAll calls).generatorOrder with
    | .ok generators => (s.afterAll calls).RunsInOrder generators state
    | .error cause =>
      (s.afterAll calls).run state = (s.afterAll calls, ⟨.error cause, state, []⟩) := by
  split
  · rename_i generators hg
    exact runsInOrder_of_sound (sound_afterAll h calls) hg state
  · rename_i cause hg
    unfold run
    rw [hg]

/-- A task that notes its name. -/
def noting (name : String) : Task (List String) := ⟨name, .modify (· ++ [name])⟩

/-- A task that notes its name and fails. -/
def stumbling (name : String) : Task (List String) :=
  ⟨name, fun noted => ⟨.error (.duplicatePriority name), noted ++ [name], []⟩⟩

/-- A scheduler over the phases of a plan on which nothing was called yet. -/
def unused : Scheduler (List String) where
  order := ⟨[.fixed "start", .custom "middle" "end", .fixed "end"]⟩

/-- Calls that queue groups for two generators and at last a task that fails. -/
def stumblingCalls : List (Call (List String)) :=
  [.offer "base" ⟨"base", [], [("end", ⟨"first", [noting "a"]⟩)]⟩,
    .compose ⟨"app", ["base"], [("end", ⟨"second", [noting "b", stumbling "c"]⟩)]⟩,
    .registerGroup "base" "end" ⟨"third", [noting "d"]⟩]

theorem unused_is_fresh : unused.Fresh :=
  ⟨⟨⟨[.fixed "start", .fixed "end"], [.custom "middle" "end"]⟩, by decide +kernel⟩, rfl, rfl⟩

theorem stumbling_run_takes_its_schedule : unused.Fresh ∧
    (unused.afterAll stumblingCalls).generatorOrder = .ok ["base", "app"] ∧
    (unused.afterAll stumblingCalls).RunsInOrder ["base", "app"] ["0"] := by
  have hg : (unused.afterAll stumblingCalls).generatorOrder = .ok ["base", "app"] := by
    cbv
  have h := a_run_takes_its_schedule unused_is_fresh stumblingCalls ["0"]
  rw [hg] at h
  exact ⟨unused_is_fresh, hg, h⟩

end Scheduler

end EntityPipeline
