-- Generating without a scheduler. A command that generates comes to what plain steps come to: apply
-- the blueprints, of each name only the first, prepare the entities, write the snapshots. A step
-- that fails is found in the failure of the command, with the phase it belongs to around it.
import EntityPipeline.Proofs.Preparation.FirstFailure
import EntityPipeline.Proofs.Project.Jobs

namespace EntityPipeline

open Session (onContext)

/-! ## Parts of states -/

namespace Action

variable {σ τ α β : Type} {get : τ → σ} {set : τ → σ → τ}

/-- A part of a state that can be taken out and put back. -/
structure IsPart (get : τ → σ) (set : τ → σ → τ) : Prop where
  get_set : ∀ t s, get (set t s) = s
  set_get : ∀ t, set t (get t) = t
  set_set : ∀ t s u, set (set t s) u = set t u

/-- Actions on a part one after the other are one action on that part. -/
theorem forEach_onPart (h : IsPart get set) (act : β → Action σ Unit) (l : List β) :
    forEach (fun b => (act b).onPart get set) l = (forEach act l).onPart get set := by
  induction l with
  | nil =>
    funext t
    simp [forEach, give, onPart, h.set_get]
  | cons b rest ih =>
    funext t
    rw [forEach, ih]
    cases hb : (act b (get t)).result with
    | error e =>
      rw [andThen_of_error (s := t) (f := fun _ => (forEach act rest).onPart get set) (e := e)
        (by rw [onPart, hb])]
      simp only [onPart, forEach, andThen_of_error hb]
    | ok value =>
      rw [andThen_of_ok (s := t) (f := fun _ => (forEach act rest).onPart get set) (a := value)
        (by rw [onPart, hb])]
      simp only [onPart, forEach, andThen_of_ok hb, h.get_set, h.set_set]

theorem StopsAt.of_onPart (h : IsPart get set) {act : β → Action σ Unit} {l : List β} {t : τ}
    {b : β} {cause : Failure} (hs : StopsAt (fun b => (act b).onPart get set) l t b cause) :
    StopsAt act l (get t) b cause := by
  obtain ⟨before, after, heq, hbefore, hb⟩ := hs
  rw [forEach_onPart h] at hbefore hb
  refine ⟨before, after, heq, hbefore, ?_⟩
  simpa only [onPart, h.get_set] using hb

end Action

/-! ## The plain steps -/

theorem Session.isPart_context : Action.IsPart Session.context Session.withContext :=
  ⟨fun _ _ => rfl, fun _ => rfl, fun _ _ _ => rfl⟩

/-- Applies blueprints in order. -/
def applyAll (blueprints : List Blueprint) : Action Context Unit :=
  Action.forEach Blueprint.apply blueprints

/-- Generates step by step: applies the blueprints, of each name only the first, prepares the
entities and writes their snapshots. -/
def generateDirectly (blueprints : List Blueprint) (options : WriteOptions) :
    Action Session (List OutputRecord) :=
  Action.andThen (onContext (applyAll (Blueprint.firsts [] blueprints))) fun _ =>
    Action.andThen (onContext prepareAll) fun _ => SnapshotWriter.writeSnapshots options

namespace Generating

/-! ## Steps and jobs -/

/-- At a state, a sequence of jobs does what plain steps do; where those fail it fails as well, with
a failure that theirs surfaces as. -/
structure Agrees {σ α : Type} (surfaces : Failure → Failure → Prop) (sequence : Action σ Unit)
    (steps : Action σ α) (s : σ) : Prop where
  state : (sequence s).state = (steps s).state
  events : (sequence s).events = (steps s).events
  succeeds : ∀ a, (steps s).result = .ok a → (sequence s).result = .ok ()
  fails : ∀ cause, (steps s).result = .error cause → ∃ failure, surfaces cause failure ∧
    (sequence s).result = .error failure

theorem Agrees.andThen {σ α β : Type} {surfaces : Failure → Failure → Prop}
    {first second : Action σ Unit} {steps : Action σ α} {more : α → Action σ β} {t : σ}
    (h1 : Agrees surfaces first steps t) (h2 : ∀ a, (steps t).result = .ok a →
      Agrees surfaces second (more a) (steps t).state) :
    Agrees surfaces (Action.andThen first fun _ => second) (Action.andThen steps more) t := by
  cases h : (steps t).result with
  | error cause =>
    obtain ⟨failure, hsurfaces, hfirst⟩ := h1.fails cause h
    have hleft := Action.andThen_of_error (f := fun _ => second) hfirst
    have hright := Action.andThen_of_error (f := more) h
    refine ⟨by rw [hleft, hright, h1.state], by rw [hleft, hright, h1.events], ?_, ?_⟩
    · rw [hright]
      exact nofun
    · rw [hleft, hright]
      rintro _ ⟨⟩
      exact ⟨failure, hsurfaces, rfl⟩
  | ok a =>
    have hleft := Action.andThen_of_ok (f := fun _ => second) (h1.succeeds a h)
    have hright := Action.andThen_of_ok (f := more) h
    have hmore := h2 a h
    rw [h1.state, h1.events] at hleft
    constructor
    · rw [hleft, hright, hmore.state]
    · rw [hleft, hright, hmore.events]
    · rw [hleft, hright]
      exact hmore.succeeds
    · rw [hleft, hright]
      exact hmore.fails

/-- How the failure of a step surfaces: with phase, generator and task around it. -/
inductive Surfaces (blueprints : List Blueprint) (options : WriteOptions) (session : Session) :
    Failure → Failure → Prop
  | applying {blueprint cause} :
      Action.StopsAt Blueprint.apply blueprints session.context blueprint cause →
      Surfaces blueprints options session cause
        (.phaseFailed "configuring" blueprint.generatorName "mergeOverrides" cause)
  | preparing {phase cause} : (applyAll blueprints session.context).result = .ok () →
      Action.StopsAt Phase.run Phase.all (applyAll blueprints session.context).state phase cause →
      Surfaces blueprints options session cause
        (.phaseFailed phase.priority bootstrapName phase.task cause)
  | writing {cause} : (applyAll blueprints session.context).result = .ok () →
      (prepareAll (applyAll blueprints session.context).state).result = .ok () →
      (SnapshotWriter.writeSnapshots options (session.withContext
        (prepareAll (applyAll blueprints session.context).state).state)).result = .error cause →
      Surfaces blueprints options session cause
        (.phaseFailed "writingEntities" SnapshotWriter.name "writeSnapshots" cause)

/-- Jobs whose tasks work on the context do what their steps do. -/
theorem agrees_part {β : Type} {act : β → Action Context Unit} {job : β → Job Session}
    (h : ∀ b, (job b).task.run = onContext (act b)) (l : List β) (session : Session)
    {surfaces : Failure → Failure → Prop}
    (hs : ∀ b cause, Action.StopsAt act l session.context b cause →
      surfaces cause ((job b).failure cause)) :
    Agrees surfaces (.forEach Job.run (l.map job)) (onContext (.forEach act l)) session := by
  obtain ⟨hstate, hevents, hok, herror⟩ := forEach_jobs _ job h l session
  have hpart : Action.forEach (fun b => onContext (act b)) l = onContext (.forEach act l) :=
    Action.forEach_onPart Session.isPart_context act l
  rw [hpart] at hstate hevents hok herror
  refine ⟨hstate, hevents, fun _ => hok, fun cause hcause => ?_⟩
  obtain ⟨b, hstops, hresult⟩ := herror cause hcause
  exact ⟨_, hs b cause (hstops.of_onPart Session.isPart_context), hresult⟩

/-- Writing and summing up do what writing does. -/
theorem agrees_writing (options : WriteOptions) (session : Session)
    {surfaces : Failure → Failure → Prop}
    (hs : ∀ cause, (SnapshotWriter.writeSnapshots options session).result = .error cause →
      surfaces cause ((writingJob options).failure cause)) :
    Agrees surfaces (.forEach Job.run [writingJob options, summaryJob])
      (SnapshotWriter.writeSnapshots options) session := by
  have hsum : Action.forEach Job.run [writingJob options, summaryJob] =
      Action.andThen (writingJob options).run fun _ => .give () := rfl
  rw [hsum, Action.andThen_give]
  cases h : (SnapshotWriter.writeSnapshots options session).result with
  | error cause =>
    have hjob : (writingJob options).run session = ⟨.error ((writingJob options).failure cause),
        (SnapshotWriter.writeSnapshots options session).state,
        (SnapshotWriter.writeSnapshots options session).events⟩ := by
      simp [Job.run, writingJob, Action.andThen_of_error h, Except.mapError]
    refine ⟨by rw [hjob], by rw [hjob], by simp [h], ?_⟩
    rw [h, hjob]
    rintro _ ⟨⟩
    exact ⟨_, hs cause h, rfl⟩
  | ok records =>
    have hjob : (writingJob options).run session = ⟨.ok (),
        (SnapshotWriter.writeSnapshots options session).state,
        (SnapshotWriter.writeSnapshots options session).events⟩ := by
      simp [Job.run, writingJob, Action.andThen_of_ok h, Action.give, Except.mapError]
    exact ⟨by rw [hjob], by rw [hjob], fun _ _ => by rw [hjob], by simp [h]⟩

/-- The jobs of a generation do its plain steps. -/
theorem agrees_jobs (blueprints : List Blueprint) (options : WriteOptions) (session : Session) :
    Agrees (Surfaces (Blueprint.firsts [] blueprints) options session)
      (.forEach Job.run (jobs (Blueprint.firsts [] blueprints) options))
      (generateDirectly blueprints options) session := by
  unfold generateDirectly jobs
  rw [Action.forEach_append, Action.forEach_append]
  refine (agrees_part (fun _ => rfl) _ session fun _ _ => .applying).andThen fun _ happlied => ?_
  refine (agrees_part (fun _ => rfl) _ _ fun _ _ => .preparing happlied).andThen ?_
  intro _ hprepared
  exact agrees_writing options _ fun _ => .writing happlied hprepared

theorem raises_generateDirectly (blueprints : List Blueprint) (options : WriteOptions) :
    (generateDirectly blueprints options).Raises :=
  (Action.Raises.forEach Blueprint.raises_apply _).onPart.andThen fun _ =>
    (Action.Raises.forEach Phase.raises_run _).onPart.andThen fun _ =>
      SnapshotWriter.raises_writeSnapshots options

end Generating

/-! ## Commands -/

/-- The output records among events. -/
def outputRecords (events : List Event) : List OutputRecord :=
  events.filterMap fun
    | .fileWritten path status => some ⟨path, status⟩
    | _ => none

theorem outputRecords_append (events more : List Event) :
    outputRecords (events ++ more) = outputRecords events ++ outputRecords more :=
  List.filterMap_append

/-- What tells how a run gets along is no output record. -/
theorem outputRecords_filter (events : List Event) :
    outputRecords (events.filter Event.fromTask) = outputRecords events := by
  unfold outputRecords
  rw [List.filterMap_filter]
  congr 1
  funext event
  cases event <;> rfl

theorem outputRecords_eq_nil {events : List Event}
    (h : ∀ event ∈ events, ∀ path status, event ≠ .fileWritten path status) :
    outputRecords events = [] := by
  refine List.filterMap_eq_nil_iff.2 fun event hin => ?_
  split
  · exact absurd rfl (h _ hin _ _)
  · rfl

namespace Command

theorem outputRecords_readDefinitions (files : FileTree) (paths : List String) :
    outputRecords (readDefinitions files paths).2 = [] := by
  induction paths with
  | nil => rfl
  | cons path rest ih =>
    unfold readDefinitions
    split
    · rfl
    · rename_i warning hread
      have hwarned : ∃ message, warning = .warned message path := by
        unfold DefinitionFile.read at hread
        split at hread
        · cases hread
        split at hread
        · cases hread
          exact ⟨_, rfl⟩
        · split at hread <;> cases hread
        · cases hread
          exact ⟨_, rfl⟩
      obtain ⟨message, rfl⟩ := hwarned
      exact ih
    · exact ih

/-- Loading a project records no output. -/
theorem outputRecords_loadContext (files : FileTree) (path : String) (skipUserManagement : Bool) :
    outputRecords (loadContext files path skipUserManagement).2 = [] := by
  unfold loadContext
  split
  · rfl
  · unfold readProject
    dsimp only
    split
    · rfl
    · exact outputRecords_readDefinitions files _

/-- A command came to what plain steps come to: the same files, output records and text, or the
failure of the step as it surfaces, with the step's own failure as its root cause. -/
structure GeneratedDirectly (outcome : CommandOutcome) (blueprints : List Blueprint)
    (options : WriteOptions) (session : Session) : Prop where
  files : outcome.files = (generateDirectly blueprints options session).state.files
  records : outputRecords outcome.events =
    outputRecords (generateDirectly blueprints options session).events
  succeeds : ∀ records, (generateDirectly blueprints options session).result = .ok records →
    outcome.result =
      .ok (Report.outputs (generateDirectly blueprints options session).state.context.outputs)
  fails : ∀ cause, (generateDirectly blueprints options session).result = .error cause →
    ∃ failure, outcome.result = .error (.failure failure) ∧ failure.rootCause = cause ∧
      Generating.Surfaces (Blueprint.firsts [] blueprints) options session cause failure

/-- A run of a generation comes to its plain steps. -/
theorem generatedDirectly_runOn {events : List Event} (hevents : outputRecords events = [])
    (blueprints : List Blueprint) (options : WriteOptions) (session : Session) :
    GeneratedDirectly (runOn (Generating.scheduler (Blueprint.firsts [] blueprints) options) session
      events fun context => Report.outputs context.outputs) blueprints options session := by
  obtain ⟨hresult, hstate, htrail⟩ := Generating.follows_run_scheduler
    (Generating.firsts_spec [] blueprints).1 options session
  have hjobs := Generating.agrees_jobs blueprints options session
  rw [hjobs.state] at hstate
  rw [hjobs.events] at htrail
  refine ⟨?_, ?_, ?_, ?_⟩
  · simp only [runOn, hstate]
  · simp only [runOn, outputRecords_append, hevents, List.nil_append]
    rw [← outputRecords_filter, htrail, outputRecords_filter]
  · intro records hrecords
    rw [hjobs.succeeds records hrecords] at hresult
    obtain ⟨summary, hrun, -⟩ := map_eq_ok.1 hresult
    simp only [runOn, hrun, hstate]
  · intro cause hcause
    obtain ⟨failure, hsurfaces, hfails⟩ := hjobs.fails cause hcause
    rw [hfails] at hresult
    have hrun := eq_error_of_map hresult
    refine ⟨failure, by simp only [runOn, hrun], ?_, hsurfaces⟩
    have hraised := Generating.raises_generateDirectly blueprints options session cause hcause
    cases hsurfaces <;> exact hraised

/-- With a project and blueprints that load, generating comes to its plain steps. -/
theorem generatedDirectly_runGenerate {files : FileTree} {path : String} {paths : List String}
    {blueprints : List Blueprint} {context : Context} (check : Bool) {skipUserManagement : Bool}
    (hcontext : (loadContext files path skipUserManagement).1 = .ok context)
    (hload : List.Forall₂ (fun path b => Blueprint.load files path = .ok b) paths blueprints) :
    GeneratedDirectly (runGenerate files path paths check skipUserManagement)
      blueprints ⟨path, check⟩ ⟨context, files⟩ := by
  have hwarnings := outputRecords_loadContext files path skipUserManagement
  unfold runGenerate
  generalize loadContext files path skipUserManagement = loaded at hwarnings hcontext ⊢
  obtain ⟨result, warnings⟩ := loaded
  obtain rfl : result = .ok context := hcontext
  have hnone : ∀ b : Blueprint, Session.scheduler.isComposed b.generatorName = true ↔
      b.name ∈ ([] : List String) := by
    simp [← Scheduler.mem_generators, Scheduler.generators, Session.scheduler,
      Scheduler.standard]
  have horder : Session.scheduler.order = .standard := rfl
  obtain ⟨ignored, hcomposed, hignored⟩ :=
    Generating.composeBlueprints_eq hload horder hnone
  have hwriter := Generating.compose_writer_withBlueprints (Blueprint.firsts [] blueprints)
    ⟨path, check⟩
  have hquiet : outputRecords ignored = [] := by
    refine outputRecords_eq_nil fun event hin _ _ heq => ?_
    obtain ⟨name, rfl⟩ := hignored event hin
    cases heq
  simp only [hcomposed, hwriter]
  exact generatedDirectly_runOn (by rw [outputRecords_append, hwarnings, hquiet]; rfl)
    blueprints ⟨path, check⟩ ⟨context, files⟩

/-- With blueprints that load, generating comes to what its plain steps come to. -/
theorem generating_is_direct {files : FileTree} {path : String} {paths : List String}
    {blueprints : List Blueprint} (check skipUserManagement : Bool)
    (hload : List.Forall₂ (fun path b => Blueprint.load files path = .ok b) paths blueprints) :
    match (loadContext files path skipUserManagement).1 with
    | .error e => runGenerate files path paths check skipUserManagement =
        .failed files (loadContext files path skipUserManagement).2 e
    | .ok context => GeneratedDirectly (runGenerate files path paths check skipUserManagement)
        blueprints ⟨path, check⟩ ⟨context, files⟩ := by
  cases hcontext : (loadContext files path skipUserManagement).1 with
  | error e =>
    have hloaded : loadContext files path skipUserManagement =
        (.error e, (loadContext files path skipUserManagement).2) := by
      rw [← hcontext]
    unfold runGenerate
    rw [hloaded]
  | ok context => exact generatedDirectly_runGenerate check hcontext hload

/-- A project with a definition of gifts, and with a blueprint for it. -/
def giftProject : FileTree where
  entries := [([".jhipster"], .folder), ([".jhipster", "Gift.json"], .text "\x7b\x7d"),
    (["wrap.json"], .text
      "\x7b\"name\": \"wrap\", \"entities\": \x7b\"Gift\": \x7b\"javadoc\": \"wrapped\"\x7d\x7d\x7d")]

/-- The blueprint of that project. -/
def giftWrap : Blueprint := (Blueprint.load giftProject "wrap.json").toOption.getD {}

/-- What the project loads as. -/
def giftContext : Context := (loadContext giftProject "." true).1.toOption.getD {}

theorem wrapping_gifts_is_direct :
    List.Forall₂ (fun path b => Blueprint.load giftProject path = .ok b)
      ["wrap.json", "wrap.json"] [giftWrap, giftWrap] ∧
    (generateDirectly [giftWrap, giftWrap] ⟨".", false⟩ ⟨giftContext, giftProject⟩).result.toOption =
      some [⟨"./.jhipster/Gift.json", .updated⟩] ∧
    GeneratedDirectly (runGenerate giftProject "." ["wrap.json", "wrap.json"] false true)
      [giftWrap, giftWrap] ⟨".", false⟩ ⟨giftContext, giftProject⟩ := by
  have hwrap : (Blueprint.load giftProject "wrap.json").toOption.isSome = true := by decide +kernel
  have hgift : (loadContext giftProject "." true).1.toOption.isSome = true := by decide +kernel
  have hload : Blueprint.load giftProject "wrap.json" = .ok giftWrap :=
    eq_ok_getD ({} : Blueprint) hwrap
  have hcontext : (loadContext giftProject "." true).1 = .ok giftContext :=
    eq_ok_getD ({} : Context) hgift
  have hblueprints : List.Forall₂ (fun path b => Blueprint.load giftProject path = .ok b)
      ["wrap.json", "wrap.json"] [giftWrap, giftWrap] := .cons hload (.cons hload .nil)
  have hdirect := @generating_is_direct giftProject "." _ _ false true hblueprints
  rw [hcontext] at hdirect
  exact ⟨hblueprints, by decide +kernel, hdirect⟩

end Command

end EntityPipeline
