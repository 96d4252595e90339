-- Runs as sequences. A run does what its tasks do one after the other; it adds events that tell how
-- it gets along, and puts the phase around a failure. When groups arrive in the order they stand
-- in, that sequence is the order of their arrival.
import EntityPipeline.Proofs.Run.RunInOrder

namespace EntityPipeline

variable {σ α β : Type}

/-- Whether an event comes from a task; the others tell how a run gets along. -/
def Event.fromTask : Event → Bool
  | .priorityStarted _ _ _ | .prioritySkipped _ | .priorityCompleted _ _ => false
  | .taskStarted _ _ _ | .taskCompleted _ _ _ | .taskFailed _ _ _ => false
  | _ => true

/-! ## Sequences of actions -/

namespace Action

variable {s : σ}

theorem andThen_of_error {first : Action σ α} {f : α → Action σ β} {e : Failure}
    (h : (first s).result = .error e) :
    andThen first f s = ⟨.error e, (first s).state, (first s).events⟩ := by
  simp [andThen, h]

theorem andThen_of_ok {first : Action σ α} {f : α → Action σ β} {a : α}
    (h : (first s).result = .ok a) : andThen first f s =
      ⟨(f a (first s).state).result, (f a (first s).state).state,
        (first s).events ++ (f a (first s).state).events⟩ := by
  simp [andThen, h]

theorem andThen_give (first : Action σ Unit) : (andThen first fun _ => give ()) = first := by
  funext s
  cases h : (first s).result with
  | error e => rw [andThen_of_error h, ← h]
  | ok a =>
    rw [andThen_of_ok h]
    simp [give, ← h]

theorem andThen_andThen {γ : Type} (first : Action σ α) (f : α → Action σ β)
    (g : β → Action σ γ) :
    andThen (andThen first f) g = andThen first fun a => andThen (f a) g := by
  funext s
  cases h : (first s).result with
  | error e =>
    have hfirst := andThen_of_error (f := f) h
    rw [andThen_of_error h, andThen_of_error (by rw [hfirst]), hfirst]
  | ok a =>
    rw [andThen_of_ok h]
    have hfirst := andThen_of_ok (f := f) h
    cases h2 : (f a (first s).state).result with
    | error e =>
      rw [andThen_of_error (by rw [hfirst, h2]), andThen_of_error h2]
      simp [hfirst]
    | ok b =>
      rw [andThen_of_ok (by rw [hfirst, h2]), andThen_of_ok h2]
      simp [hfirst]

theorem forEach_append (act : β → Action σ Unit) (l m : List β) :
    forEach act (l ++ m) = andThen (forEach act l) fun _ => forEach act m := by
  induction l with
  | nil => rfl
  | cons b rest ih => simp only [List.cons_append, forEach, ih, andThen_andThen]

/-- Where a sequence succeeds, so do its first items, and the others go on from where they end. -/
theorem forEach_append_eq_ok {act : β → Action σ Unit} (l : List β) {m : List β}
    (h : (forEach act (l ++ m) s).result = .ok ()) : (forEach act l s).result = .ok () ∧
      (forEach act m (forEach act l s).state).result = .ok () ∧
      (forEach act (l ++ m) s).state = (forEach act m (forEach act l s).state).state := by
  rw [forEach_append] at h ⊢
  cases hfirst : (forEach act l s).result with
  | error e =>
    rw [andThen_of_error hfirst] at h
    cases h
  | ok =>
    rw [andThen_of_ok hfirst] at h ⊢
    exact ⟨rfl, h, rfl⟩

/-- A sequence that fails leaves what its first failing item leaves behind those before it. -/
theorem forEach_eq_error {act : β → Action σ Unit} {l : List β} {cause : Failure}
    (h : (forEach act l s).result = .error cause) : ∃ before b after, l = before ++ b :: after ∧
      (forEach act before s).result = .ok () ∧
      (act b (forEach act before s).state).result = .error cause ∧
      (forEach act l s).state = (act b (forEach act before s).state).state := by
  induction l generalizing s with
  | nil => cases h
  | cons b rest ih =>
    unfold forEach at h
    cases hb : (act b s).result with
    | error e =>
      have hstop := andThen_of_error (f := fun _ => forEach act rest) hb
      rw [hstop] at h
      cases h
      refine ⟨[], b, rest, rfl, rfl, hb, ?_⟩
      show (andThen (act b) (fun _ => forEach act rest) s).state = _
      rw [hstop]
      rfl
    | ok value =>
      rw [andThen_of_ok hb] at h
      obtain ⟨before, c, after, rfl, hbefore, hc, hstate⟩ := ih h
      refine ⟨b :: before, c, after, rfl, ?_, ?_, ?_⟩
      all_goals simp only [forEach, andThen_of_ok hb]
      · exact hbefore
      · exact hc
      · exact hstate

/-- A sequence stops at an item: those before it succeed, and it fails where they end. -/
def StopsAt (act : β → Action σ Unit) (l : List β) (s : σ) (b : β) (cause : Failure) : Prop :=
  ∃ before after, l = before ++ b :: after ∧ (forEach act before s).result = .ok () ∧
    (act b (forEach act before s).state).result = .error cause

end Action

/-! ## Jobs -/

/-- A task with the priority and the generator it is queued for. -/
structure Job (σ : Type) where
  priority : String
  generator : String
  task : Task σ

/-- The failure of a run in which a job failed. -/
def Job.failure (job : Job σ) (cause : Failure) : Failure :=
  .phaseFailed job.priority job.generator job.task.name cause

/-- What a job does; its failure carries where it happened. -/
def Job.run (job : Job σ) : Action σ Unit := fun s =>
  let done := job.task.run s
  ⟨done.result.mapError job.failure, done.state, done.events⟩

/-- Jobs do what their tasks do one after the other; a failure tells at which of them. -/
theorem forEach_jobs (act : β → Action σ Unit) (job : β → Job σ)
    (h : ∀ b, (job b).task.run = act b) (l : List β) (s : σ) :
    (Action.forEach Job.run (l.map job) s).state = (Action.forEach act l s).state ∧
      (Action.forEach Job.run (l.map job) s).events = (Action.forEach act l s).events ∧
      ((Action.forEach act l s).result = .ok () →
        (Action.forEach Job.run (l.map job) s).result = .ok ()) ∧
      ∀ cause, (Action.forEach act l s).result = .error cause →
        ∃ b, Action.StopsAt act l s b cause ∧
          (Action.forEach Job.run (l.map job) s).result = .error ((job b).failure cause) := by
  induction l generalizing s with
  | nil => exact ⟨rfl, rfl, fun _ => rfl, fun _ => nofun⟩
  | cons b rest ih =>
    have hrun : (job b).run s = ⟨(act b s).result.mapError (job b).failure, (act b s).state,
        (act b s).events⟩ := by
      simp only [Job.run, h]
    simp only [List.map_cons, Action.forEach]
    cases hb : (act b s).result with
    | error e =>
      have hjob : ((job b).run s).result = .error ((job b).failure e) := by
        rw [hrun, hb]
        rfl
      rw [Action.andThen_of_error hb, Action.andThen_of_error hjob, hrun]
      refine ⟨rfl, rfl, nofun, ?_⟩
      rintro _ ⟨⟩
      exact ⟨b, ⟨[], rest, rfl, rfl, hb⟩, rfl⟩
    | ok value =>
      have hjob : ((job b).run s).result = .ok () := by
        rw [hrun, hb]
        rfl
      rw [Action.andThen_of_ok hb, Action.andThen_of_ok hjob, hrun]
      obtain ⟨hstate, hevents, hok, herror⟩ := ih (act b s).state
      refine ⟨hstate, by rw [hevents], hok, fun cause hcause => ?_⟩
      obtain ⟨c, ⟨before, after, rfl, hbefore, hc⟩, hresult⟩ := herror cause hcause
      refine ⟨c, ⟨b :: before, after, rfl, ?_, ?_⟩, hresult⟩
      · rw [Action.forEach, Action.andThen_of_ok hb]
        exact hbefore
      · rw [Action.forEach, Action.andThen_of_ok hb]
        exact hc

/-- The jobs of a group. -/
def QueuedGroup.jobs (queued : QueuedGroup σ) : List (Job σ) :=
  queued.group.tasks.map fun task => ⟨queued.priority, queued.generator, task⟩

/-- The job of a queued task. -/
def QueuedTask.job (entry : QueuedTask σ) : Job σ := ⟨entry.priority, entry.generator, entry.task⟩

/-- An action does what a sequence does, up to its value and the events that tell how it gets
along. -/
def Follows (act : Action σ α) (sequence : Action σ Unit) : Prop := ∀ s,
  (act s).result.map (fun _ => ()) = (sequence s).result ∧ (act s).state = (sequence s).state ∧
    (act s).events.filter Event.fromTask = (sequence s).events.filter Event.fromTask

variable {act : Action σ α} {first second : Action σ Unit}

theorem Follows.give (a : α) : Follows (.give a : Action σ α) (.give ()) :=
  fun _ => ⟨rfl, rfl, rfl⟩

theorem Follows.andThen {f : α → Action σ β} (h1 : Follows act first)
    (h2 : ∀ a, Follows (f a) second) :
    Follows (Action.andThen act f) (Action.andThen first fun _ => second) := by
  intro s
  obtain ⟨hr, hs, he⟩ := h1 s
  cases h : (act s).result with
  | error e =>
    rw [h] at hr
    rw [Action.andThen_of_error h, Action.andThen_of_error hr.symm]
    exact ⟨rfl, hs, he⟩
  | ok a =>
    rw [h] at hr
    obtain ⟨hr2, hs2, he2⟩ := h2 a (act s).state
    rw [Action.andThen_of_ok h, Action.andThen_of_ok hr.symm, ← hs]
    exact ⟨hr2, hs2, by simp only [List.filter_append, he, he2]⟩

/-- The value of an action does not matter. -/
theorem Follows.value (h : Follows act first) (f : α → β) :
    Follows (Action.andThen act fun a => .give (f a)) first := by
  have hvalue := h.andThen fun a => Follows.give (f a)
  rwa [Action.andThen_give] at hvalue

/-- Telling how it gets along is no part of what an action does. -/
theorem Follows.emit {event : Event} (h : Follows act first) (he : event.fromTask = false) :
    Follows (Action.andThen (.emit event) fun _ => act) first := by
  intro s
  obtain ⟨hr, hs, hevents⟩ := h s
  exact ⟨hr, hs, by simpa [Action.andThen, Action.emit, he] using hevents⟩

theorem follows_runWithin (job : Job σ) :
    Follows (job.task.runWithin job.priority job.generator) job.run := by
  intro s
  unfold Task.runWithin Job.run
  dsimp only
  split
  · rename_i hok
    simp [hok, Except.map, Except.mapError, Event.fromTask]
  · rename_i e he
    simp [he, Except.map, Except.mapError, Job.failure, Event.fromTask]

namespace Scheduler

variable {s : Scheduler σ} {generators : List String}

theorem follows_runTasks (priority : String) (tasks : List (String × Task σ)) :
    Follows (runTasks priority tasks)
      (.forEach Job.run (tasks.map fun pair => ⟨priority, pair.1, pair.2⟩)) := by
  induction tasks with
  | nil => exact .give 0
  | cons pair rest ih =>
    exact (follows_runWithin ⟨priority, pair.1, pair.2⟩).andThen fun _ => ih.value (· + 1)

/-- The jobs of a priority as a run takes them. -/
def jobsUnder (scheduler : Scheduler σ) (generators : List String) (priority : String) :
    List (Job σ) :=
  (tasksOf (groupsOf generators scheduler.queue priority)).map fun pair =>
    ⟨priority, pair.1, pair.2⟩

theorem follows_runPriority (s : Scheduler σ) (generators : List String) (priority : Priority) :
    Follows (runPriority priority (groupsOf generators s.queue priority.name))
      (.forEach Job.run (s.jobsUnder generators priority.name)) := by
  have htasks :=
    follows_runTasks priority.name (tasksOf (groupsOf generators s.queue priority.name))
  have hcomplete : ∀ count : Nat, Follows (Action.andThen
      (.emit (.priorityCompleted priority.name count)) fun () =>
        (.give ⟨priority.name, count⟩ : Action σ PhaseSummary)) (.give ()) :=
    fun count => (Follows.give _).emit rfl
  have hdone := htasks.andThen hcomplete
  rw [Action.andThen_give] at hdone
  exact hdone.emit rfl

theorem follows_runPriorities (s : Scheduler σ) (generators : List String)
    (priorities : List Priority) : Follows (runPriorities generators s.queue priorities)
      (.forEach Job.run (priorities.flatMap fun priority =>
        s.jobsUnder generators priority.name)) := by
  induction priorities with
  | nil => exact .give _
  | cons priority rest ih =>
    rw [List.flatMap_cons, Action.forEach_append]
    unfold runPriorities
    dsimp only
    split
    · rename_i hidle
      -- nothing is queued on a priority that is skipped
      simp only [Bool.and_eq_true, List.isEmpty_iff] at hidle
      have hnone : s.jobsUnder generators priority.name = [] := by
        simp [jobsUnder, tasksOf, hidle.1]
      rw [hnone]
      exact (ih.value _).emit rfl
    · exact (follows_runPriority s generators priority).andThen fun phase => ih.value _

/-! ## Runs -/

/-- Everything that is queued, by arrival. -/
def jobs (scheduler : Scheduler σ) : List (Job σ) := scheduler.queue.flatMap QueuedGroup.jobs

/-- The jobs of a priority are those of the tasks that are taken under it. -/
theorem map_job_taken (s : Scheduler σ) (generators : List String) (priority : String) :
    (s.taken generators priority).map QueuedTask.job = s.jobsUnder generators priority := by
  unfold jobsUnder
  rw [← map_taken, List.map_map]
  refine List.map_congr_left fun entry hin => ?_
  simp [QueuedTask.job, (mem_taken.1 hin).2]

theorem map_job_queuedTasks (s : Scheduler σ) : s.queuedTasks.map QueuedTask.job = s.jobs := by
  unfold queuedTasks jobs
  rw [List.map_flatMap]
  conv_rhs => rw [← List.zipIdx_map_fst 0 s.queue, List.flatMap_map]
  apply List.flatMap_congr
  rintro ⟨queued, arrival⟩ _
  simp only [QueuedGroup.entries, QueuedGroup.jobs, List.map_map]
  conv_rhs => rw [← List.zipIdx_map_fst 0 queued.group.tasks, List.map_map]
  rfl

/-- A run does its schedule one job after the other. -/
theorem follows_run (h : s.Sound) (hg : s.generatorOrder = .ok generators) :
    Follows (fun state => (s.run state).2)
      (.forEach Job.run ((s.schedule generators).map QueuedTask.job)) := by
  have hrun : (fun state => (s.run state).2) =
      runPriorities generators s.queue s.order.priorities := by
    funext state
    simp [run, hg]
  rw [hrun, schedule_eq h.priorities fun queued hin => (h.queue queued hin).1, List.map_flatMap]
  simp only [map_job_taken]
  exact follows_runPriorities s generators s.order.priorities

/-- Groups arrived in the order they stand in: each under a priority that comes after those before,
or under the same one for a generator that does not come earlier. -/
def ArrivedInOrder (scheduler : Scheduler σ) (generators : List String) : Prop :=
  scheduler.queue.Pairwise fun a b =>
    scheduler.order.names.idxOf a.priority < scheduler.order.names.idxOf b.priority ∨
      a.priority = b.priority ∧
        generators.idxOf a.generator ≤ generators.idxOf b.generator

/-- What arrived in order is scheduled as it arrived. -/
theorem schedule_of_arrivedInOrder (h : s.ArrivedInOrder generators) :
    s.schedule generators = s.queuedTasks := by
  have hqueue : s.queue.zipIdx.Pairwise fun a b => a.2 < b.2 ∧
      (s.order.names.idxOf a.1.priority < s.order.names.idxOf b.1.priority ∨
        a.1.priority = b.1.priority ∧
          generators.idxOf a.1.generator ≤ generators.idxOf b.1.generator) := by
    have harrived := h
    unfold ArrivedInOrder at harrived
    rw [← List.zipIdx_map_fst 0 s.queue, List.pairwise_map] at harrived
    exact (pairwise_zipIdx s.queue).and harrived
  have hsorted : s.queuedTasks.Pairwise fun a b =>
      s.standing generators a < s.standing generators b := by
    refine List.pairwise_flatMap.2 ⟨fun pair _ => ?_, hqueue.imp ?_⟩
    · refine (pairwise_entries pair.1 pair.2).imp_of_mem ?_
      intro a b ha hb hlt
      obtain ⟨_, hp, hg, harrival⟩ := mem_entries.1 ha
      obtain ⟨_, hp', hg', harrival'⟩ := mem_entries.1 hb
      rw [standing_lt, hp, hp', hg, hg', harrival, harrival']
      simp [hlt]
    · rintro first second ⟨harrival, hrank⟩ a ha b hb
      obtain ⟨_, hp, hg, ha⟩ := mem_entries.1 ha
      obtain ⟨_, hp', hg', hb⟩ := mem_entries.1 hb
      rw [standing_lt, hp, hp', hg, hg', ha, hb]
      rcases hrank with hlt | ⟨heq, hle⟩
      · exact Or.inl hlt
      · rw [heq]
        refine Or.inr ⟨rfl, ?_⟩
        rcases Nat.lt_or_eq_of_le hle with hlt | heq
        · exact Or.inl hlt
        · exact Or.inr ⟨heq, Or.inl harrival⟩
  -- both sides are sorted by a strict order and have the same members
  refine List.Perm.eq_of_pairwise ?_ (pairwise_schedule s generators) hsorted
    (schedule_perm s generators)
  exact fun a b _ _ hab hba => absurd (hab.trans hba) (lt_irrefl _)

/-- A run of what arrived in order does it as it arrived. -/
theorem follows_run_of_arrivedInOrder (h : s.Sound) (hg : s.generatorOrder = .ok generators)
    (ha : s.ArrivedInOrder generators) :
    Follows (fun state => (s.run state).2) (.forEach Job.run s.jobs) := by
  have hrun := follows_run h hg
  rwa [schedule_of_arrivedInOrder ha, map_job_queuedTasks] at hrun

end Scheduler

end EntityPipeline
