-- Dependencies first. The order of the generators is the order they were composed in, and under
-- one priority a task waits for everything that is queued there by the generators its own one
-- builds on.
import EntityPipeline.Proofs.Run.RunInOrder

namespace EntityPipeline

variable {σ : Type}

/-- What ran is the beginning of what was to run. -/
theorem ran_starts (l : List (QueuedTask σ)) (state : σ) : (execute l state).ran <+: l := by
  cases h : (execute l state).failed with
  | none =>
    rw [ran_of_failed_eq_none h]
  | some failed =>
    obtain ⟨before, after, heq, _, hran, _, _⟩ := split_of_failed h
    rw [hran]
    exact ⟨after, by simp [heq]⟩

namespace Scheduler

variable {s : Scheduler σ} {generators : List String}

/-- A composed generator declares another one as a dependency. -/
def Declares (scheduler : Scheduler σ) (name dependency : String) : Prop :=
  ∃ dependsOn, scheduler.dependsOn? name = some dependsOn ∧ dependency ∈ dependsOn

/-- A generator builds on another one: it declares that one, or one that builds on it. -/
def BuildsOn (scheduler : Scheduler σ) : String → String → Prop :=
  Relation.TransGen scheduler.Declares

/-- Generators are in order as they were composed, each after what it builds on, and so are the
tasks that run under one priority. -/
structure KeepsLayers (scheduler : Scheduler σ) : Prop where
  composed_before : ∀ name dependency, scheduler.Declares name dependency →
    dependency ∈ scheduler.generators ∧
      scheduler.generators.idxOf dependency < scheduler.generators.idxOf name
  in_order : scheduler.generatorOrder = .ok scheduler.generators
  runs : ∀ state, scheduler.RunsInOrder scheduler.generators state
  waits : ∀ state before entry after,
    (execute (scheduler.schedule scheduler.generators) state).ran = before ++ entry :: after →
      ∀ other ∈ scheduler.queuedTasks, other.priority = entry.priority →
        scheduler.BuildsOn entry.generator other.generator → other ∈ before

theorem Layered.idxOf_lt_of_buildsOn (h : s.Layered) (hn : s.generators.Nodup)
    {name dependency : String} (hb : s.BuildsOn name dependency) :
    s.generators.idxOf dependency < s.generators.idxOf name := by
  induction hb with
  | single hd =>
    obtain ⟨dependsOn, hname, hin⟩ := hd
    exact (h.idxOf_lt hn hname hin).2
  | tail _ hd ih =>
    obtain ⟨dependsOn, hname, hin⟩ := hd
    exact (h.idxOf_lt hn hname hin).2.trans ih

/-- What stands lower is scheduled before. -/
theorem mem_before_of_standing_lt {before after : List (QueuedTask σ)} {entry other : QueuedTask σ}
    (h : s.schedule generators = before ++ entry :: after) (hin : other ∈ s.queuedTasks)
    (hlt : s.standing generators other < s.standing generators entry) : other ∈ before := by
  have hsorted := pairwise_schedule s generators
  have hother := (schedule_perm s generators).mem_iff.2 hin
  rw [h] at hsorted hother
  rcases List.mem_append.1 hother with hbefore | hafter
  · exact hbefore
  · rcases List.mem_cons.1 hafter with rfl | hafter
    · exact absurd hlt (lt_irrefl _)
    · have hentry := (List.pairwise_cons.1 (List.pairwise_append.1 hsorted).2.1).1 other hafter
      exact absurd (hentry.trans hlt) (lt_irrefl _)

/-- After any calls on a fresh scheduler, all of them honest, generators and their tasks come after
what they build on. -/
theorem honest_calls_keep_layers (h : s.Fresh) (hc : Honest s.catalog) (calls : List (Call σ))
    (hcalls : ∀ call ∈ calls, call.honest) : (s.afterAll calls).KeepsLayers := by
  have hsound := sound_afterAll h calls
  have hlayered := layered_afterAll h hc hcalls
  have horder := hlayered.generatorOrder_eq hsound.generators
  refine ⟨?_, horder, runsInOrder_of_sound hsound horder, ?_⟩
  · rintro name dependency ⟨dependsOn, hname, hin⟩
    exact hlayered.idxOf_lt hsound.generators hname hin
  · intro state before entry after hran other hother hpriority hbuilds
    obtain ⟨rest, hschedule⟩ := ran_starts ((s.afterAll calls).schedule _) state
    rw [hran, List.append_assoc, List.cons_append] at hschedule
    refine mem_before_of_standing_lt hschedule.symm hother ?_
    rw [standing_lt, hpriority]
    exact Or.inr ⟨rfl, Or.inl (hlayered.idxOf_lt_of_buildsOn hsound.generators hbuilds)⟩

/-- Calls that compose a generator, for its sake another one that fails, and that one again with
nothing missing any more. -/
def retryingCalls : List (Call (List String)) :=
  [.offer "base" ⟨"base", [], [("end", ⟨"first", [noting "a"]⟩)]⟩,
    .compose ⟨"app", ["base", "middle"], [("end", ⟨"second", [noting "b"]⟩)]⟩,
    .offer "middle" ⟨"middle", ["base"], []⟩,
    .run [],
    .compose ⟨"app", ["base", "middle"], [("end", ⟨"second", [noting "b"]⟩)]⟩]

theorem retrying_calls_keep_layers : unused.Fresh ∧
    (unused.afterAll retryingCalls).generators = ["base", "middle", "app"] ∧
    (unused.afterAll retryingCalls).KeepsLayers := by
  refine ⟨unused_is_fresh, by cbv, ?_⟩
  apply honest_calls_keep_layers unused_is_fresh
  · simp [Honest, unused]
  · simp [retryingCalls, Call.honest]

end Scheduler

end EntityPipeline
