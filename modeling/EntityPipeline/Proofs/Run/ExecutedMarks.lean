-- The marks of executed generators. A run marks every composed generator before it takes the first
-- task. So a mark tells that a run began with the generator, and whether its groups were finished
-- is another matter: in a run that was aborted, those are that stand before the task that failed.
import EntityPipeline.Proofs.Json.Members
import EntityPipeline.Proofs.Run.Histories

namespace EntityPipeline

variable {σ : Type}

/-- The tasks that came to their end without a failure. -/
def Execution.finished (execution : Execution σ) : List (QueuedTask σ) :=
  match execution.failed with
  | none => execution.ran
  | some _ => execution.ran.dropLast

namespace Scheduler

variable {s t : Scheduler σ} {generators : List String} {entry : QueuedTask σ} {name : String}
  {calls : List (Call σ)} {call : Call σ} {state : σ}

/-! ## Tasks that are finished -/

/-- Whatever is queued is finished by a run unless a task fails that stands before it or is that
task. -/
theorem mem_finished : entry ∈ (execute (s.schedule generators) state).finished ↔
    entry ∈ s.queuedTasks ∧
      ∀ failing cause, (execute (s.schedule generators) state).failed = some (failing, cause) →
        s.standing generators entry < s.standing generators failing := by
  unfold Execution.finished
  cases hf : (execute (s.schedule generators) state).failed with
  | none =>
    rw [ran_of_failed_eq_none hf, (schedule_perm s generators).mem_iff]
    simp
  | some failed =>
    obtain ⟨failing, cause⟩ := failed
    obtain ⟨before, after, heq, -, hran, -⟩ := split_of_failed hf
    simp only [hran, List.dropLast_concat]
    constructor
    · intro hin
      have hsorted := pairwise_schedule s generators
      rw [heq, List.pairwise_append] at hsorted
      refine ⟨(schedule_perm s generators).mem_iff.1 (heq ▸ List.mem_append_left _ hin), ?_⟩
      rintro _ _ ⟨⟩
      exact hsorted.2.2 entry hin failing List.mem_cons_self
    · rintro ⟨hin, hbefore⟩
      exact mem_before_of_standing_lt heq hin (hbefore failing cause rfl)

/-- A run finishes a group when it finishes all its tasks. -/
def Finishes (scheduler : Scheduler σ) (generators : List String) (state : σ)
    (queued : QueuedGroup σ) (arrival : Nat) : Prop :=
  ∀ entry ∈ queued.entries arrival,
    entry ∈ (execute (scheduler.schedule generators) state).finished

theorem finishes_iff {queued : QueuedGroup σ} {arrival : Nat}
    (h : s.queue[arrival]? = some queued) : s.Finishes generators state queued arrival ↔
      ∀ failing cause, (execute (s.schedule generators) state).failed = some (failing, cause) →
        ∀ entry ∈ queued.entries arrival,
          s.standing generators entry < s.standing generators failing := by
  have hqueued : ∀ entry ∈ queued.entries arrival, entry ∈ s.queuedTasks := by
    intro entry hin
    obtain ⟨_, _, _, rfl⟩ := mem_entries.1 hin
    exact mem_queuedTasks.2 ⟨queued, h, hin⟩
  constructor
  · intro hfinishes failing cause hf entry hin
    exact (mem_finished.1 (hfinishes entry hin)).2 failing cause hf
  · intro hbefore entry hin
    exact mem_finished.2 ⟨hqueued entry hin, fun failing cause hf =>
      hbefore failing cause hf entry hin⟩

/-! ## Marks -/

theorem isComposed_of_hasExecuted (h : s.hasExecuted name = true) : s.isComposed name = true := by
  obtain ⟨composed, hlookup, -⟩ := (Option.any_eq_true _ _).1 h
  rw [isComposed, hlookup]
  rfl

/-- Generators that join are not marked. -/
theorem Joined.hasExecuted {joining : List (Generator σ)} (h : Joined s t joining) :
    t.hasExecuted name = s.hasExecuted name := by
  unfold Scheduler.hasExecuted
  rw [h.composed, List.lookup_append]
  cases s.composed.lookup name with
  | some composed => rfl
  | none =>
    rw [Option.none_or]
    cases hl : (joining.map fun g => (g.name, Composed.mk g.dependsOn false)).lookup name with
    | none => rfl
    | some composed =>
      obtain ⟨g, -, heq⟩ := List.mem_map.1 (Json.mem_of_lookup hl)
      cases heq
      rfl

/-- A run marks all that is composed. -/
theorem hasExecuted_begun : s.begun.hasExecuted name = s.isComposed name := by
  have hlookup : s.begun.composed.lookup name =
      (s.composed.lookup name).map fun composed => { composed with executed := true } :=
    Json.lookup_map_value fun composed : Composed => { composed with executed := true }
  rw [hasExecuted, isComposed, hlookup]
  cases s.composed.lookup name <;> rfl

/-- A mark is left by a run that begins with the generator, and stays. -/
theorem hasExecuted_after : (s.after call).hasExecuted name = true ↔ s.hasExecuted name = true ∨
    ∃ state generators, call = .run state ∧ s.generatorOrder = .ok generators ∧
      s.isComposed name = true := by
  have hstep := step_after s call
  generalize s.after call = t at hstep ⊢
  cases hstep with
  | composed hj => simp [hj.hasExecuted]
  | named hj => simp [hj.hasExecuted]
  | registered => simp [hasExecuted]
  | unregistered => simp
  | offered => simp [hasExecuted, offer]
  | @begun state generators hg =>
    rw [hasExecuted_begun]
    constructor
    · exact fun hc => Or.inr ⟨state, generators, rfl, hg, hc⟩
    · rintro (h | ⟨_, _, _, _, hc⟩)
      · exact isComposed_of_hasExecuted h
      · exact hc
  | unordered hg => simp [hg]

/-- A run that began among calls: the calls before it left a scheduler whose generators have an
order. -/
def Began (s : Scheduler σ) (calls : List (Call σ)) (t : Scheduler σ) (generators : List String)
    (state : σ) : Prop :=
  ∃ before after, calls = before ++ .run state :: after ∧ t = s.afterAll before ∧
    t.generatorOrder = .ok generators

theorem began_concat : s.Began (calls ++ [call]) t generators state ↔
    s.Began calls t generators state ∨
      call = .run state ∧ t = s.afterAll calls ∧ t.generatorOrder = .ok generators := by
  constructor
  · rintro ⟨before, after, heq, ht, hg⟩
    rcases List.eq_nil_or_concat after with rfl | ⟨init, last, rfl⟩
    · obtain ⟨rfl, hlast⟩ := List.append_inj' heq rfl
      exact Or.inr ⟨List.singleton_inj.1 hlast, ht, hg⟩
    · have hsplit : calls ++ [call] = (before ++ .run state :: init) ++ [last] := by
        simpa using heq
      exact Or.inl ⟨before, init, (List.append_inj' hsplit rfl).1, ht, hg⟩
  · rintro (⟨before, after, rfl, ht, hg⟩ | ⟨rfl, ht, hg⟩)
    · exact ⟨before, after ++ [call], by simp, ht, hg⟩
    · exact ⟨calls, [], rfl, ht, hg⟩

/-- A generator is marked when a run began that it was composed for. -/
theorem hasExecuted_afterAll (hc : s.composed = []) (calls : List (Call σ)) :
    (s.afterAll calls).hasExecuted name = true ↔
      ∃ t generators state, s.Began calls t generators state ∧ t.isComposed name = true := by
  induction calls using List.reverseRecOn with
  | nil => simp [afterAll, hasExecuted, hc, Began]
  | append_singleton calls call ih =>
    rw [afterAll_concat, hasExecuted_after, ih]
    constructor
    · rintro (⟨t, generators, state, hbegan, hname⟩ | ⟨state, generators, rfl, hg, hname⟩)
      · exact ⟨t, generators, state, began_concat.2 (Or.inl hbegan), hname⟩
      · exact ⟨_, generators, state, began_concat.2 (Or.inr ⟨rfl, rfl, hg⟩), hname⟩
    · rintro ⟨t, generators, state, hbegan, hname⟩
      rcases began_concat.1 hbegan with hbegan | ⟨rfl, rfl, hg⟩
      · exact Or.inl ⟨t, generators, state, hbegan, hname⟩
      · exact Or.inr ⟨state, generators, rfl, hg, hname⟩

/-! ## Marks that are deserved -/

/-- The mark of a generator is deserved: if it has one, every group that was queued for it when a
run began was finished by that run. -/
def Deserves (s : Scheduler σ) (calls : List (Call σ)) (name : String) : Prop :=
  (s.afterAll calls).hasExecuted name = true → ∀ t generators state,
    s.Began calls t generators state → ∀ arrival queued, t.queue[arrival]? = some queued →
      queued.generator = name → t.Finishes generators state queued arrival

/-- A mark is deserved if all that was queued for the generator in runs that were aborted stands
before the task that failed. -/
theorem deserves_iff (h : s.Fresh) : s.Deserves calls name ↔
    ∀ t generators state, s.Began calls t generators state → ∀ failing cause,
      (execute (t.schedule generators) state).failed = some (failing, cause) →
        ∀ entry ∈ t.queuedTasks, entry.generator = name →
          t.standing generators entry < t.standing generators failing := by
  constructor
  · rintro hdeserves t generators state hbegan failing cause hf entry hin rfl
    obtain ⟨queued, hqueued, hentry⟩ := mem_queuedTasks.1 hin
    obtain ⟨-, -, hgenerator, -⟩ := mem_entries.1 hentry
    have hcomposed : t.isComposed entry.generator = true := by
      obtain ⟨before, _, _, rfl, _⟩ := hbegan
      have hsound := (sound_afterAll h before).queue queued (List.mem_of_getElem? hqueued)
      exact hgenerator ▸ mem_generators.1 hsound.2
    have hmarked := (hasExecuted_afterAll h.composed calls).2
      ⟨t, generators, state, hbegan, hcomposed⟩
    exact (finishes_iff hqueued).1 (hdeserves hmarked t generators state hbegan _ _ hqueued
      hgenerator.symm) failing cause hf entry hentry
  · rintro hbefore - t generators state hbegan arrival queued hqueued rfl
    refine (finishes_iff hqueued).2 fun failing cause hf entry hentry => ?_
    obtain ⟨_, _, hgenerator, rfl⟩ := mem_entries.1 hentry
    exact hbefore t generators state hbegan failing cause hf entry
      (mem_queuedTasks.2 ⟨queued, hqueued, hentry⟩) hgenerator

/-- Marks tell of runs that began. A generator has one when a run began that it was composed for.
Each of these runs takes its schedule; it finishes a group if no task fails that stands before the
end of the group. So marks are deserved if they are in the runs that were aborted. -/
structure MarksTellOfRuns (s : Scheduler σ) (calls : List (Call σ)) : Prop where
  marked : ∀ name, (s.afterAll calls).hasExecuted name = true ↔
    ∃ t generators state, s.Began calls t generators state ∧ t.isComposed name = true
  runs : ∀ t generators state, s.Began calls t generators state →
    t.RunsInOrder generators state
  finished : ∀ t generators state, s.Began calls t generators state → ∀ arrival queued,
    t.queue[arrival]? = some queued → (t.Finishes generators state queued arrival ↔
      ∀ failing cause, (execute (t.schedule generators) state).failed = some (failing, cause) →
        ∀ entry ∈ queued.entries arrival,
          t.standing generators entry < t.standing generators failing)
  deserved : ∀ name, s.Deserves calls name ↔
    ∀ t generators state, s.Began calls t generators state → ∀ failing cause,
      (execute (t.schedule generators) state).failed = some (failing, cause) →
        ∀ entry ∈ t.queuedTasks, entry.generator = name →
          t.standing generators entry < t.standing generators failing

theorem marks_tell_of_runs_that_began (h : s.Fresh) (calls : List (Call σ)) :
    s.MarksTellOfRuns calls := by
  refine ⟨fun _ => hasExecuted_afterAll h.composed calls, ?_,
    fun t generators state _ arrival queued => finishes_iff, fun _ => deserves_iff h⟩
  rintro t generators state ⟨before, _, _, rfl, hg⟩
  exact runsInOrder_of_sound (sound_afterAll h before) hg state

/-- Calls that compose a generator whose first task fails and another one whose tasks come later. -/
def abandonedCalls : List (Call (List String)) :=
  [.compose ⟨"early", [], [("start", ⟨"first", [stumbling "a", noting "b"]⟩)]⟩,
    .compose ⟨"late", [], [("end", ⟨"second", [noting "c"]⟩)]⟩,
    .run []]

theorem abandoned_calls_leave_marks : unused.Fresh ∧
    (unused.afterAll abandonedCalls).hasExecuted "early" = true ∧
    unused.MarksTellOfRuns abandonedCalls :=
  ⟨unused_is_fresh, by cbv, marks_tell_of_runs_that_began unused_is_fresh abandonedCalls⟩

/-- A generator is marked though an earlier phase failed and none of its tasks ran. -/
theorem the_late_generator_is_marked :
    unused.Began abandonedCalls (unused.afterAll (abandonedCalls.take 2)) ["early", "late"] [] ∧
    (execute ((unused.afterAll (abandonedCalls.take 2)).schedule ["early", "late"]) []).ran.map
      (·.task.name) = ["a"] ∧
    (unused.afterAll abandonedCalls).hasExecuted "late" = true ∧
    ¬ unused.Deserves abandonedCalls "late" := by
  have hbegan : unused.Began abandonedCalls (unused.afterAll (abandonedCalls.take 2))
      ["early", "late"] [] := ⟨_, [], rfl, rfl, by cbv⟩
  have hmarked : (unused.afterAll abandonedCalls).hasExecuted "late" = true := by cbv
  have hfinished : (execute ((unused.afterAll (abandonedCalls.take 2)).schedule
      ["early", "late"]) []).finished = [] := by cbv
  have hqueued : (unused.afterAll (abandonedCalls.take 2)).queue[1]? =
      some ⟨"end", "late", ⟨"second", [noting "c"]⟩⟩ := by cbv
  refine ⟨hbegan, by cbv, hmarked, fun hdeserves => ?_⟩
  have hfinishes := hdeserves hmarked _ _ _ hbegan 1 _ hqueued rfl ⟨"end", "late", 1, 0, noting "c"⟩
    (by simp [QueuedGroup.entries])
  rw [hfinished] at hfinishes
  cases hfinishes

end Scheduler

end EntityPipeline
