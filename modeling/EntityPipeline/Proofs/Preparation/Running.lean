-- The preparation as a run. Composed into the standard scheduler, its phases are queued under
-- priorities that stand in their order, so that a run of them is their plain sequence, and a phase
-- that fails is found in the failure of the run.
import EntityPipeline.Preparation.Bootstrap
import EntityPipeline.Proofs.Preparation.RootCauses
import EntityPipeline.Proofs.Run.Histories
import EntityPipeline.Proofs.Run.Sequences

namespace EntityPipeline

variable {σ : Type}

namespace Scheduler

variable {s : Scheduler σ} {g : Generator σ}

/-! ## Composing without a failure -/

/-- A scheduler with one more generator and its groups. -/
def enlisted (scheduler : Scheduler σ) (g : Generator σ) : Scheduler σ :=
  { scheduler with
    composed := scheduler.composed ++ [(g.name, ⟨g.dependsOn, false⟩)]
    queue := scheduler.queue ++ g.queued }

theorem enlist_of_known (h : s.unknownPriority? g.groups = none) :
    s.enlist g = .ok (s.enlisted g) := by
  unfold enlist
  rw [h]
  rfl

theorem isComposed_enlisted {name : String} : (s.enlisted g).isComposed name = true ↔
    s.isComposed name = true ∨ name = g.name := by
  simp [← mem_generators, generators, enlisted]

/-- A new generator that depends on nothing is composed at once. -/
theorem compose_of_independent (hn : s.isComposed g.name = false) (hd : g.dependsOn = [])
    (he : s.enlist g = .ok (s.enlisted g)) : s.compose g = (s.enlisted g, .ok true) := by
  unfold compose
  simp only [hn, hd, composeEach, he]
  rfl

/-- The standard scheduler is one on which nothing was called yet. -/
theorem standard_is_fresh (preparation : Generator σ) : (standard preparation).Fresh :=
  ⟨⟨.standard, PriorityPlan.resolve_standard⟩, rfl, rfl⟩

theorem standard_is_honest (preparation : Generator σ) : Honest (standard preparation).catalog := by
  simp [Honest, standard]

end Scheduler

/-! ## Phases as jobs -/

/-- The job of a phase. -/
def Phase.job (phase : Phase) : Job Context :=
  ⟨phase.priority, bootstrapName, ⟨phase.task, phase.run⟩⟩

/-- The standard scheduler with the preparation composed. -/
def prepared : Scheduler Context := (Scheduler.standard bootstrap).enlisted bootstrap

theorem compose_bootstrap :
    (Scheduler.standard bootstrap).compose bootstrap = (prepared, .ok true) :=
  Scheduler.compose_of_independent rfl rfl (Scheduler.enlist_of_known (by decide +kernel))

theorem jobs_prepared : prepared.jobs = Phase.all.map Phase.job := rfl

theorem follows_run_prepared :
    Follows (fun context => (prepared.run context).2)
      (.forEach Job.run (Phase.all.map Phase.job)) := by
  have hcalls : prepared = (Scheduler.standard bootstrap).afterAll [.compose bootstrap] := by
    simp [Scheduler.afterAll, Scheduler.after, compose_bootstrap]
  have hfresh := Scheduler.standard_is_fresh bootstrap
  have hsound := Scheduler.sound_afterAll hfresh [.compose bootstrap]
  have hlayered : ((Scheduler.standard bootstrap).afterAll [.compose bootstrap]).Layered :=
    Scheduler.layered_afterAll hfresh (Scheduler.standard_is_honest bootstrap)
      (by simp [Call.honest])
  rw [← hcalls] at hsound hlayered
  have horder := hlayered.generatorOrder_eq hsound.generators
  rw [← jobs_prepared]
  refine Scheduler.follows_run_of_arrivedInOrder hsound horder ?_
  unfold Scheduler.ArrivedInOrder
  decide +kernel

theorem map_eq_ok {ε α β : Type} {result : Except ε α} {f : α → β} {b : β} :
    result.map f = .ok b ↔ ∃ a, result = .ok a ∧ f a = b := by
  cases result <;> simp [Except.map]

theorem eq_error_of_map {ε α β : Type} {result : Except ε α} {f : α → β} {e : ε}
    (h : result.map f = .error e) : result = .error e := by
  cases result with
  | error e => cases h; rfl
  | ok a => cases h

/-- A run of the preparation agrees with its sequence of phases: it leaves the same context and tells
the same, it succeeds when that does, and when a phase fails it fails under the priority of that
phase, with what the phase raised as the root cause. -/
structure RunAgrees (context : Context) (done : Outcome Context RunSummary) : Prop where
  state : done.state = (prepareAll context).state
  events : done.events.filter Event.fromTask = (prepareAll context).events.filter Event.fromTask
  succeeds : (prepareAll context).result = .ok () ↔ ∃ summary, done.result = .ok summary
  fails : ∀ cause, (prepareAll context).result = .error cause →
    ∃ phase, Action.StopsAt Phase.run Phase.all context phase cause ∧
      done.result = .error (.phaseFailed phase.priority bootstrapName phase.task cause)
  root : ∀ failure, done.result = .error failure →
    (prepareAll context).result = .error failure.rootCause

/-- The preparation composed into the standard scheduler runs as its sequence of phases. -/
theorem a_run_prepares_all (context : Context) :
    ∃ scheduler, (Scheduler.standard bootstrap).compose bootstrap = (scheduler, .ok true) ∧
      RunAgrees context (scheduler.run context).2 := by
  refine ⟨prepared, compose_bootstrap, ?_⟩
  obtain ⟨hresult, hstate, hevents⟩ := follows_run_prepared context
  obtain ⟨hjobs, htrail, hok, herror⟩ := forEach_jobs Phase.run Phase.job
    (fun _ => rfl) Phase.all context
  have hraises := Action.Raises.forEach Phase.raises_run Phase.all context
  rw [hjobs] at hstate
  rw [htrail] at hevents
  cases hall : (prepareAll context).result with
  | ok value =>
    rw [hok hall] at hresult
    obtain ⟨summary, hrun, -⟩ := map_eq_ok.1 hresult
    exact ⟨hstate, hevents, iff_of_true hall ⟨summary, hrun⟩, by simp [hall], by simp [hrun]⟩
  | error cause =>
    obtain ⟨phase, hstops, hphase⟩ := herror cause hall
    rw [hphase] at hresult
    have hrun := eq_error_of_map hresult
    refine ⟨hstate, hevents, ?_, ?_, ?_⟩
    · simp [hall, hrun]
    · rintro _ he
      rw [hall] at he
      cases he
      exact ⟨phase, hstops, hrun⟩
    · rintro _ he
      rw [hrun] at he
      cases he
      rw [hall]
      exact congrArg Except.error (hraises cause hall).symm

end EntityPipeline
