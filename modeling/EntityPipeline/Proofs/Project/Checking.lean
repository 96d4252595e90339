-- Runs that find all snapshots as they are to be. Where every snapshot passes for the definition of
-- its entity, taking care of the snapshots changes no file and finds each of them unchanged; and a
-- run that only checks succeeds nowhere else.
import EntityPipeline.Proofs.Preparation.Provenance
import EntityPipeline.Proofs.Project.Generation
import EntityPipeline.Proofs.Project.Snapshots

namespace EntityPipeline

/-! ## Steps without output -/

namespace Action

variable {σ α β : Type}

/-- An action leaves no output record among its events, however far it gets. -/
def Quiet (act : Action σ α) : Prop := ∀ s, outputRecords (act s).events = []

theorem Quiet.andThen {first : Action σ α} {second : α → Action σ β} (h : first.Quiet)
    (h' : ∀ a, (second a).Quiet) : (andThen first second).Quiet := by
  intro s
  unfold Action.andThen
  dsimp only
  split
  · exact h s
  · rw [outputRecords_append, h s, h' _ _, List.nil_append]

theorem Quiet.forEach {act : β → Action σ Unit} (h : ∀ b, (act b).Quiet) (items : List β) :
    (forEach act items).Quiet := by
  induction items with
  | nil => exact fun _ => rfl
  | cons b rest ih => exact (h b).andThen fun _ => ih

end Action

theorem Blueprint.quiet_applyConfig (settings : Json) : (applyConfig settings).Quiet := by
  intro context
  unfold applyConfig
  split
  · rfl
  · cases context.config.mergedWith settings <;> rfl

theorem Blueprint.quiet_applyEntity (name : String) (overrides : Json) :
    (applyEntity name overrides).Quiet := by
  intro context
  unfold applyEntity
  cases Blueprint.change context name overrides <;> rfl

theorem Blueprint.quiet_apply (blueprint : Blueprint) : blueprint.apply.Quiet :=
  (quiet_applyConfig blueprint.config).andThen fun _ =>
    .forEach (fun entity : String × Json => quiet_applyEntity entity.1 entity.2) _

theorem quiet_applyAll (blueprints : List Blueprint) : (applyAll blueprints).Quiet :=
  .forEach Blueprint.quiet_apply _

theorem quiet_finishEntity (place : Nat) (sums : EntityAggregates) :
    (finishEntity place sums).Quiet := by
  intro context
  unfold finishEntity
  split
  · rfl
  · split
    · rfl
    · split <;> rfl

theorem outputs_finishEntity (place : Nat) (sums : EntityAggregates) :
    (finishEntity place sums).LeavesAlone Context.outputs := by
  intro context
  obtain ⟨entities, hstate⟩ := exists_state_finishEntity place sums context
  rw [hstate]

theorem Phase.quiet_run (phase : Phase) : phase.run.Quiet := by
  intro context
  cases phase with
  | configure | load | names | fields | relationships => rfl
  | freeze =>
    have hall : ∀ items, (Action.forEach (fun (place, sums) => finishEntity place sums)
        items).Quiet := .forEach fun item => quiet_finishEntity item.1 item.2
    exact hall _ context

theorem Phase.outputs_run (phase : Phase) : phase.run.LeavesAlone Context.outputs := by
  intro context
  cases phase with
  | configure | load | names | fields | relationships => rfl
  | freeze => exact leavesAlone_freeze outputs_finishEntity context

theorem quiet_prepareAll : prepareAll.Quiet := .forEach Phase.quiet_run _

theorem outputs_prepareAll : prepareAll.LeavesAlone Context.outputs :=
  .forEach fun phase _ => phase.outputs_run

theorem changedPaths_eq (events : List Event) : changedPaths events =
    ((outputRecords events).filter (·.status != .unchanged)).map OutputRecord.path := by
  unfold changedPaths outputRecords
  induction events with
  | nil => rfl
  | cons event rest ih =>
    cases event with
    | fileWritten path status =>
      cases status <;> simp [ih]
    | _ => simp [ih]

namespace SnapshotWriter

open Snapshot

variable {options : WriteOptions} {path directory : String} {definition : EntityDefinition}
  {entity : Entity} {entities : List Entity} {session : Session} {files : FileTree}
  {record : OutputRecord} {records : List OutputRecord}

/-! ## What is recorded -/

/-- The session with more output files. -/
def recording (session : Session) (records : List OutputRecord) : Session :=
  session.withContext { session.context with outputs := session.context.outputs ++ records }

/-- The events of output files. -/
def written (records : List OutputRecord) : List Event :=
  records.map fun record => .fileWritten record.path record.status

theorem outputRecords_written (records : List OutputRecord) :
    outputRecords (written records) = records := by
  unfold outputRecords written
  rw [List.filterMap_map]
  exact List.filterMap_some

theorem quiet_status : (status path definition).Quiet := by
  intro session
  unfold status
  split
  · rfl
  · rfl
  · split
    · rfl
    · split <;> rfl

theorem quiet_settle (found : OutputStatus) : (settle options path definition found).Quiet := by
  intro session
  unfold settle
  split
  · rfl
  · split
    · rfl
    · unfold writeFile
      split <;> rfl

theorem record_of_writeOne (h : (writeOne options entity session).result = .ok record) :
    record.path = Snapshot.path options.directory entity.name ∧
      outputRecords (writeOne options entity session).events = [record] := by
  unfold writeOne at h ⊢
  obtain ⟨found, hstatus, hrest, -⟩ := Action.andThen_eq_ok h
  obtain ⟨_, hsettle, hrecord, -⟩ := Action.andThen_eq_ok hrest
  rw [Action.andThen_of_ok hstatus, Action.andThen_of_ok hsettle]
  simp only [outputRecords_append, quiet_status _, quiet_settle _ _, List.nil_append]
  cases hrecord
  exact ⟨rfl, rfl⟩

/-- Each entity has one record, for its own snapshot. -/
theorem records_of_writeEach (h : (writeEach options entities session).result = .ok records) :
    outputRecords (writeEach options entities session).events = records ∧
      records.map OutputRecord.path = entities.map fun entity =>
        Snapshot.path options.directory entity.name := by
  induction entities generalizing session records with
  | nil =>
    cases h
    exact ⟨rfl, rfl⟩
  | cons entity rest ih =>
    unfold writeEach at h ⊢
    obtain ⟨first, hfirst, hrest, -⟩ := Action.andThen_eq_ok h
    obtain ⟨others, hothers, hgive, -⟩ := Action.andThen_eq_ok hrest
    obtain ⟨hpath, hevent⟩ := record_of_writeOne hfirst
    obtain ⟨hevents, hpaths⟩ := ih hothers
    rw [Action.andThen_of_ok hfirst, Action.andThen_of_ok hothers]
    cases hgive
    refine ⟨?_, by rw [List.map_cons, List.map_cons, hpath, hpaths]⟩
    rw [outputRecords_append, outputRecords_append, hevent, hevents]
    exact congrArg (first :: ·) (List.append_nil others)

/-! ## Snapshots that pass -/

/-- The text at a path passes for the snapshot of a definition. -/
def PassesAt (files : FileTree) (path : String) (definition : EntityDefinition) : Prop :=
  ∃ text, files.read path = .ok text ∧ passesFor text definition = true

/-- The snapshots of entities pass for their definitions. -/
def AllPass (directory : String) (files : FileTree) (entities : List Entity) : Prop :=
  ∀ entity ∈ entities, PassesAt files (Snapshot.path directory entity.name) entity.definition

/-- The records of entities whose snapshots are unchanged. -/
def untouched (directory : String) (entities : List Entity) : List OutputRecord :=
  entities.map fun entity => ⟨Snapshot.path directory entity.name, .unchanged⟩

theorem status_of_passesAt (h : PassesAt session.files path definition) :
    status path definition session = ⟨.ok .unchanged, session, []⟩ := by
  obtain ⟨text, hread, hpasses⟩ := h
  unfold status
  unfold passesFor at hpasses
  rw [hread]
  split at hpasses
  · rename_i existing hparse
    simp only [hparse, hpasses, if_true]
  · cases hpasses

/-- A snapshot that passes is recorded, and nothing else happens. -/
theorem writeOne_of_passesAt
    (h : PassesAt session.files (Snapshot.path options.directory entity.name) entity.definition) :
    writeOne options entity session =
      ⟨.ok ⟨Snapshot.path options.directory entity.name, .unchanged⟩,
        recording session [⟨Snapshot.path options.directory entity.name, .unchanged⟩],
        written [⟨Snapshot.path options.directory entity.name, .unchanged⟩]⟩ := by
  unfold writeOne
  simp only [Action.andThen, status_of_passesAt h]
  rfl

/-- Snapshots that pass are recorded, and nothing else happens. -/
theorem writeEach_of_allPass (h : AllPass options.directory session.files entities) :
    writeEach options entities session =
      ⟨.ok (untouched options.directory entities),
        recording session (untouched options.directory entities),
        written (untouched options.directory entities)⟩ := by
  induction entities generalizing session with
  | nil => simp [writeEach, Action.give, untouched, recording, Session.withContext, written]
  | cons entity rest ih =>
    obtain ⟨hfirst, hrest⟩ := List.forall_mem_cons.1 h
    have hone := writeOne_of_passesAt hfirst
    have hothers : writeEach options rest (writeOne options entity session).state = _ :=
      ih (by rw [hone]; exact hrest)
    unfold writeEach
    rw [Action.andThen_of_ok (by rw [hone]), Action.andThen_of_ok (by rw [hothers]), hothers, hone]
    simp [Action.give, untouched, recording, Session.withContext, written]

theorem passesAt_of_check (hcheck : options.check = true)
    (h : (writeOne options entity session).result = .ok record) :
    PassesAt session.files (Snapshot.path options.directory entity.name) entity.definition := by
  unfold writeOne at h
  obtain ⟨found, hstatus, hrest, -⟩ := Action.andThen_eq_ok h
  obtain ⟨_, hsettle, -, -⟩ := Action.andThen_eq_ok hrest
  rcases status_eq_ok hstatus with ⟨-, hpasses⟩ | ⟨hne, -⟩
  · exact hpasses
  · unfold settle at hsettle
    rw [if_neg (by simpa using hne), if_pos hcheck] at hsettle
    cases hsettle

/-- A run that only checks succeeds only where all snapshots pass. -/
theorem allPass_of_check (hcheck : options.check = true)
    (h : (writeEach options entities session).result = .ok records) :
    AllPass options.directory session.files entities := by
  induction entities generalizing session records with
  | nil => exact List.forall_mem_nil _
  | cons entity rest ih =>
    unfold writeEach at h
    obtain ⟨first, hfirst, hrest, -⟩ := Action.andThen_eq_ok h
    obtain ⟨others, hothers, -, -⟩ := Action.andThen_eq_ok hrest
    have hpasses := passesAt_of_check hcheck hfirst
    have hfiles : (writeOne options entity session).state.files = session.files := by
      rw [writeOne_of_passesAt hpasses]
      rfl
    exact List.forall_mem_cons.2 ⟨hpasses, hfiles ▸ ih hothers⟩

end SnapshotWriter

/-! ## Whole runs -/

open SnapshotWriter

variable {blueprints : List Blueprint} {options : WriteOptions} {session : Session}
  {records : List OutputRecord}

/-- The context in which the snapshots of a run are written. -/
def preparedContext (blueprints : List Blueprint) (context : Context) : Context :=
  (prepareAll (applyAll (Blueprint.firsts [] blueprints) context).state).state

/-- The entities whose snapshots a run takes care of. -/
def handledEntities (blueprints : List Blueprint) (context : Context) : List Entity :=
  writtenEntities (preparedContext blueprints context).entities

/-- Blueprints are applied to a context and its entities are prepared, without a failure. -/
structure Prepares (blueprints : List Blueprint) (context : Context) : Prop where
  applies : (applyAll (Blueprint.firsts [] blueprints) context).result = .ok ()
  prepares : (prepareAll (applyAll (Blueprint.firsts [] blueprints) context).state).result = .ok ()

/-- What is left to do of a run once its entities are prepared: to write their snapshots. -/
def writing (blueprints : List Blueprint) (options : WriteOptions) (session : Session) :
    Outcome Session (List OutputRecord) :=
  writeSnapshots options (session.withContext (preparedContext blueprints session.context))

theorem writing_eq (blueprints : List Blueprint) (options : WriteOptions) (session : Session) :
    writing blueprints options session = writeEach options
      (handledEntities blueprints session.context)
      (session.withContext (preparedContext blueprints session.context)) := rfl

theorem generateDirectly_of_prepares (options : WriteOptions)
    (h : Prepares blueprints session.context) :
    (generateDirectly blueprints options session).result =
        (writing blueprints options session).result ∧
      (generateDirectly blueprints options session).state =
        (writing blueprints options session).state ∧
      outputRecords (generateDirectly blueprints options session).events =
        outputRecords (writing blueprints options session).events := by
  have happlied : (Session.onContext (applyAll (Blueprint.firsts [] blueprints)) session).result =
      .ok () := h.applies
  have hprepared : (Session.onContext prepareAll (Session.onContext
      (applyAll (Blueprint.firsts [] blueprints)) session).state).result = .ok () := h.prepares
  unfold generateDirectly
  rw [Action.andThen_of_ok happlied, Action.andThen_of_ok hprepared]
  refine ⟨rfl, rfl, ?_⟩
  have hquiet : outputRecords (Session.onContext (applyAll (Blueprint.firsts [] blueprints))
      session).events = [] := quiet_applyAll _ _
  have hquiet' : outputRecords (Session.onContext prepareAll (Session.onContext
      (applyAll (Blueprint.firsts [] blueprints)) session).state).events = [] := quiet_prepareAll _
  rw [outputRecords_append, outputRecords_append, hquiet, hquiet']
  rfl

theorem prepares_of_generateDirectly
    (h : (generateDirectly blueprints options session).result = .ok records) :
    Prepares blueprints session.context := by
  unfold generateDirectly at h
  obtain ⟨_, happlied, hrest, -⟩ := Action.andThen_eq_ok h
  obtain ⟨_, hprepared, -, -⟩ := Action.andThen_eq_ok hrest
  exact ⟨happlied, hprepared⟩

namespace Command

variable {outcome : CommandOutcome} {text : String}

/-- A run that succeeds has prepared its entities and written their snapshots. -/
theorem GeneratedDirectly.writes (h : GeneratedDirectly outcome blueprints options session)
    (hok : outcome.result = .ok text) : Prepares blueprints session.context ∧
      ∃ records, (writing blueprints options session).result = .ok records ∧
        outcome.files = (writing blueprints options session).state.files ∧
        outputRecords outcome.events = records := by
  cases hresult : (generateDirectly blueprints options session).result with
  | error cause =>
    obtain ⟨failure, hfails, -⟩ := h.fails cause hresult
    rw [hok] at hfails
    cases hfails
  | ok records =>
    have hprepares := prepares_of_generateDirectly hresult
    obtain ⟨hwritten, hstate, hevents⟩ := generateDirectly_of_prepares options hprepares
    rw [hresult] at hwritten
    refine ⟨hprepares, records, hwritten.symm, by rw [h.files, hstate], ?_⟩
    rw [h.records, hevents]
    exact (records_of_writeEach hwritten.symm).1

/-- A run finds all snapshots as they are to be: it succeeds, writes and changes no file, and
reports each of its snapshots as unchanged. -/
structure FindsUnchanged (outcome : CommandOutcome) (files : FileTree)
    (records : List OutputRecord) : Prop where
  result : outcome.result = .ok (Report.outputs records)
  files : outcome.files = files
  recorded : outputRecords outcome.events = records
  unchanged : ∀ record ∈ records, record.status = .unchanged
  unwritten : changedPaths outcome.events = []

theorem changedPaths_eq_nil {events : List Event}
    (h : ∀ record ∈ outputRecords events, record.status = .unchanged) :
    changedPaths events = [] := by
  rw [changedPaths_eq, List.map_eq_nil_iff, List.filter_eq_nil_iff]
  intro record hin
  simp [h record hin]

/-- Where the snapshots of all entities pass, a run finds them unchanged. -/
theorem GeneratedDirectly.findsUnchanged (h : GeneratedDirectly outcome blueprints options session)
    (hprepares : Prepares blueprints session.context)
    (hnone : (applyAll (Blueprint.firsts [] blueprints) session.context).state.outputs = [])
    (hpass : AllPass options.directory session.files
      (handledEntities blueprints session.context)) :
    FindsUnchanged outcome session.files
      (untouched options.directory (handledEntities blueprints session.context)) := by
  obtain ⟨hresult, hstate, hevents⟩ := generateDirectly_of_prepares options hprepares
  have hpass : AllPass options.directory
      (session.withContext (preparedContext blueprints session.context)).files
      (handledEntities blueprints session.context) := hpass
  have hwriting := writeEach_of_allPass hpass
  rw [← writing_eq] at hwriting
  rw [hwriting] at hresult hstate hevents
  have houtputs : (preparedContext blueprints session.context).outputs = [] :=
    (outputs_prepareAll _).trans hnone
  have hrecorded : outputRecords outcome.events =
      untouched options.directory (handledEntities blueprints session.context) := by
    rw [h.records, hevents, outputRecords_written]
  have hunchanged : ∀ record ∈ untouched options.directory
      (handledEntities blueprints session.context), record.status = .unchanged :=
    List.forall_mem_map.2 fun _ _ => rfl
  refine ⟨?_, by rw [h.files, hstate]; rfl, hrecorded, hunchanged,
    changedPaths_eq_nil (hrecorded ▸ hunchanged)⟩
  rw [h.succeeds _ hresult, hstate]
  simp only [recording, Session.withContext, houtputs, List.nil_append]

end Command

end EntityPipeline
