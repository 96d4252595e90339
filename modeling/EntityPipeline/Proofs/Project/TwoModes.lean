-- Checking set against writing. Both modes go over the entities in order and judge each snapshot by
-- the file it stands in; they part at the first one that does not pass. There a run that only
-- checks fails, and it has changed nothing, so that it tells what a run that writes would do first.
import EntityPipeline.Proofs.Project.Checking

namespace EntityPipeline

/-- Every output file was created, updated or left alone. -/
theorem OutputCounts.sum_ofRecords (records : List OutputRecord) :
    (ofRecords records).created + (ofRecords records).updated + (ofRecords records).unchanged =
      records.length := by
  unfold ofRecords
  induction records with
  | nil => rfl
  | cons record rest ih =>
    simp only [List.countP_cons, List.length_cons] at ih ⊢
    cases record.status <;> simp <;> omega

namespace SnapshotWriter

open Snapshot

variable {options : WriteOptions} {directory path : String} {definition : EntityDefinition}
  {session : Session} {entity : Entity} {entities before after : List Entity}
  {found : OutputStatus} {failure : Failure} {added records : List OutputRecord}

/-! ## What is recorded -/

/-- A run over entities adds records to its context and leaves the rest of it alone. Each record is
for the snapshot of one entity, in their order, and a run that succeeds has one for every entity and
returns them. -/
structure Records (directory : String) (entities : List Entity) (context : Context)
    (outcome : Outcome Session (List OutputRecord)) (added : List OutputRecord) : Prop where
  context : outcome.state.context = { context with outputs := context.outputs ++ added }
  inOrder : ∃ handled rest, entities = handled ++ rest ∧
    List.Forall₂ (fun entity record => record.path = Snapshot.path directory entity.name)
      handled added
  returned : ∀ records, outcome.result = .ok records →
    records = added ∧ records.length = entities.length

theorem context_settle : (settle options path definition found session).state.context =
    session.context := by
  unfold settle
  split
  · rfl
  · split
    · rfl
    · unfold writeFile
      split <;> rfl

/-- Taking care of one snapshot adds its record, or fails and adds none. -/
theorem writeOne_records (options : WriteOptions) (entity : Entity) (session : Session) :
    (∃ record, (writeOne options entity session).result = .ok record ∧
      record.path = Snapshot.path options.directory entity.name ∧
      (writeOne options entity session).state.context =
        { session.context with outputs := session.context.outputs ++ [record] }) ∨
    ∃ failure, (writeOne options entity session).result = .error failure ∧
      (writeOne options entity session).state.context = session.context := by
  unfold writeOne
  cases hstatus : (status (Snapshot.path options.directory entity.name) entity.definition
      session).result with
  | error failure =>
    rw [Action.andThen_of_error hstatus, status_state]
    exact Or.inr ⟨failure, rfl, rfl⟩
  | ok found =>
    rw [Action.andThen_of_ok hstatus, status_state]
    cases hsettle : (settle options (Snapshot.path options.directory entity.name) entity.definition
        found session).result with
    | error failure =>
      rw [Action.andThen_of_error hsettle]
      exact Or.inr ⟨failure, rfl, context_settle⟩
    | ok =>
      rw [Action.andThen_of_ok hsettle]
      refine Or.inl ⟨_, rfl, rfl, ?_⟩
      simp only [record, Session.withContext, Context.recordOutput, context_settle]

theorem records_writeEach (options : WriteOptions) (entities : List Entity) (session : Session) :
    ∃ added, Records options.directory entities session.context
      (writeEach options entities session) added := by
  induction entities generalizing session with
  | nil =>
    refine ⟨[], by simp [writeEach, Action.give], ⟨[], [], rfl, .nil⟩, ?_⟩
    rintro records ⟨⟩
    exact ⟨rfl, rfl⟩
  | cons entity rest ih =>
    unfold writeEach
    rcases writeOne_records options entity session with
      ⟨record, hresult, hpath, hcontext⟩ | ⟨failure, hresult, hcontext⟩
    · rw [Action.andThen_of_ok hresult]
      obtain ⟨added, hrest, ⟨handled, others, rfl, hhandled⟩, hreturned⟩ :=
        ih (writeOne options entity session).state
      rw [hcontext] at hrest
      refine ⟨record :: added, ?_, ⟨entity :: handled, others, rfl, .cons hpath hhandled⟩, ?_⟩
      · cases hothers : (writeEach options (handled ++ others)
            (writeOne options entity session).state).result with
        | error failure => simp [Action.andThen_of_error hothers, hrest]
        | ok records => simp [Action.andThen_of_ok hothers, Action.give, hrest]
      · intro records hok
        obtain ⟨records, hothers, hgive, -⟩ := Action.andThen_eq_ok hok
        obtain ⟨rfl, hlength⟩ := hreturned records hothers
        cases hgive
        exact ⟨rfl, by simp [hlength]⟩
    · rw [Action.andThen_of_error hresult]
      refine ⟨[], by simp [hcontext], ⟨[], entity :: rest, rfl, .nil⟩, ?_⟩
      rintro records ⟨⟩

/-! ## What is to become of a snapshot -/

/-- What has to become of a snapshot, told by the files: a missing one is created, one whose text
does not pass for the definition is updated, and one that is no text cannot be judged. -/
def verdict (files : FileTree) (path : String) (definition : EntityDefinition) :
    Except Failure OutputStatus :=
  match files.read path with
  | .error .absent => .ok .created
  | .error .blocked => .error (.outside .file)
  | .ok text => .ok (if passesFor text definition then .unchanged else .updated)

theorem result_status : (status path definition session).result =
    verdict session.files path definition := by
  unfold status verdict passesFor
  cases session.files.read path with
  | error fault => cases fault <;> rfl
  | ok text =>
    simp only
    cases Json.parse text with
    | error fault => rfl
    | ok existing =>
      simp only
      split <;> rfl

theorem passesAt_iff_verdict {files : FileTree} :
    PassesAt files path definition ↔ verdict files path definition = .ok .unchanged := by
  unfold PassesAt verdict
  cases files.read path with
  | error fault => cases fault <;> simp
  | ok text => simp

/-- What cannot be judged is there, but is no text. -/
theorem blocked_of_verdict {files : FileTree} (h : verdict files path definition = .error failure) :
    files.read path = .error .blocked ∧ failure = .outside .file := by
  unfold verdict at h
  split at h
  · cases h
  · cases h
    exact ⟨by assumption, rfl⟩
  · cases h

/-! ## Up to the first snapshot that does not pass -/

/-- All snapshots pass, or there is a first one that does not. -/
theorem allPass_or_first (directory : String) (files : FileTree) (entities : List Entity) :
    AllPass directory files entities ∨ ∃ before entity after, entities = before ++ entity :: after ∧
      AllPass directory files before ∧
      ¬ PassesAt files (Snapshot.path directory entity.name) entity.definition := by
  induction entities with
  | nil => exact Or.inl (List.forall_mem_nil _)
  | cons entity rest ih =>
    by_cases hfirst : PassesAt files (Snapshot.path directory entity.name) entity.definition
    · rcases ih with hrest | ⟨before, other, after, rfl, hbefore, hother⟩
      · exact Or.inl (List.forall_mem_cons.2 ⟨hfirst, hrest⟩)
      · exact Or.inr ⟨entity :: before, other, after, rfl,
          List.forall_mem_cons.2 ⟨hfirst, hbefore⟩, hother⟩
    · exact Or.inr ⟨[], entity, rest, rfl, List.forall_mem_nil _, hfirst⟩

/-- Behind snapshots that pass, a run goes on as from there with these recorded. -/
theorem writeEach_append (options : WriteOptions)
    (h : AllPass options.directory session.files before) :
    (writeEach options (before ++ after) session).result =
        (writeEach options after
          (recording session (untouched options.directory before))).result.map
            (untouched options.directory before ++ ·) ∧
      (writeEach options (before ++ after) session).state =
        (writeEach options after
          (recording session (untouched options.directory before))).state := by
  induction before generalizing session with
  | nil =>
    have hstart : recording session (untouched options.directory []) = session := by
      simp [recording, untouched, Session.withContext]
    rw [hstart, List.nil_append]
    refine ⟨?_, rfl⟩
    cases (writeEach options after session).result <;> rfl
  | cons entity rest ih =>
    obtain ⟨hfirst, hrest⟩ := List.forall_mem_cons.1 h
    have hone := writeOne_of_passesAt hfirst
    obtain ⟨hresult, hstate⟩ :=
      @ih (writeOne options entity session).state (by rw [hone]; exact hrest)
    have hrecording : recording (writeOne options entity session).state
        (untouched options.directory rest) =
          recording session (untouched options.directory (entity :: rest)) := by
      rw [hone]
      simp [recording, untouched, Session.withContext]
    have hmap (result : Except Failure (List OutputRecord)) :
        result.map (untouched options.directory (entity :: rest) ++ ·) =
          (result.map (untouched options.directory rest ++ ·)).map
            (⟨Snapshot.path options.directory entity.name, .unchanged⟩ :: ·) := by
      cases result <;> rfl
    rw [hrecording] at hresult hstate
    rw [hmap, ← hresult, ← hstate, List.cons_append, writeEach, Action.andThen_of_ok (by rw [hone])]
    cases hothers : (writeEach options (rest ++ after)
        (writeOne options entity session).state).result with
    | error failure =>
      rw [Action.andThen_of_error hothers]
      exact ⟨rfl, rfl⟩
    | ok records =>
      rw [Action.andThen_of_ok hothers]
      exact ⟨rfl, rfl⟩

/-- Where a snapshot does not pass, a run that only checks fails and changes nothing. -/
theorem writeOne_checking (options : WriteOptions) (hcheck : options.check = true)
    (hfound : found ≠ .unchanged)
    (h : verdict session.files (Snapshot.path options.directory entity.name) entity.definition =
      .ok found) :
    (writeOne options entity session).result =
        .error (.outside (.generation ("Snapshot would be " ++ found.name ++ ": " ++
          Snapshot.path options.directory entity.name))) ∧
      (writeOne options entity session).state = session := by
  rw [← result_status] at h
  have hsettle : settle options (Snapshot.path options.directory entity.name) entity.definition
      found = Action.fail (.outside (.generation ("Snapshot would be " ++ found.name ++ ": " ++
        Snapshot.path options.directory entity.name))) := by
    unfold settle
    rw [if_neg (by simpa using hfound), if_pos hcheck]
  unfold writeOne
  rw [Action.andThen_of_ok h, status_state, hsettle]
  exact ⟨rfl, rfl⟩

/-- There a run that writes puts the definition into the file and records it, or is refused the file
and changes nothing. -/
theorem writeOne_writing (options : WriteOptions) (hcheck : options.check = false)
    (hfound : found ≠ .unchanged)
    (h : verdict session.files (Snapshot.path options.directory entity.name) entity.definition =
      .ok found) :
    match session.files.write (Snapshot.path options.directory entity.name)
        (render entity.definition) with
    | .ok files =>
      (writeOne options entity session).result =
          .ok ⟨Snapshot.path options.directory entity.name, found⟩ ∧
        (writeOne options entity session).state = recording { session with files }
          [⟨Snapshot.path options.directory entity.name, found⟩]
    | .error _ =>
      (writeOne options entity session).result = .error (.outside .file) ∧
        (writeOne options entity session).state = session := by
  rw [← result_status] at h
  have hsettle : settle options (Snapshot.path options.directory entity.name) entity.definition
      found =
        writeFile (Snapshot.path options.directory entity.name) (render entity.definition) := by
    unfold settle
    rw [if_neg (by simpa using hfound), if_neg (by simp [hcheck])]
  unfold writeOne
  rw [Action.andThen_of_ok h, status_state, hsettle]
  cases hwrite : session.files.write (Snapshot.path options.directory entity.name)
      (render entity.definition) with
  | error fault => simp [Action.andThen, writeFile, hwrite]
  | ok files => simp [Action.andThen, writeFile, hwrite, record, recording, Session.withContext,
      Context.recordOutput]

/-- A snapshot that cannot be judged fails either run in the same way. -/
theorem writeOne_unjudged (options : WriteOptions)
    (h : verdict session.files (Snapshot.path options.directory entity.name) entity.definition =
      .error failure) :
    (writeOne options entity session).result = .error failure ∧
      (writeOne options entity session).state = session := by
  rw [← result_status] at h
  unfold writeOne
  rw [Action.andThen_of_error h, status_state]
  exact ⟨rfl, rfl⟩

/-- A run over entities ends at the first one whose snapshot cannot be taken care of. -/
theorem writeEach_of_first_error (options : WriteOptions) (after : List Entity)
    (h : AllPass options.directory session.files before)
    (hresult : (writeOne options entity (recording session
      (untouched options.directory before))).result = .error failure) :
    (writeEach options (before ++ entity :: after) session).result = .error failure ∧
      (writeEach options (before ++ entity :: after) session).state = (writeOne options entity
        (recording session (untouched options.directory before))).state := by
  have hrest : writeEach options (entity :: after) (recording session
      (untouched options.directory before)) = _ := Action.andThen_of_error hresult
  have happend : (writeEach options (before ++ entity :: after) session).result = _ ∧
      (writeEach options (before ++ entity :: after) session).state = _ :=
    writeEach_append options h
  rw [happend.1, happend.2, hrest]
  exact ⟨rfl, rfl⟩

/-- A run over entities goes on behind one whose snapshot is taken care of. -/
theorem writeEach_of_first_ok (options : WriteOptions) {record : OutputRecord}
    (h : AllPass options.directory session.files before)
    (hresult : (writeOne options entity (recording session
      (untouched options.directory before))).result = .ok record) :
    (writeEach options (before ++ entity :: after) session).state =
      (writeEach options after (writeOne options entity (recording session
        (untouched options.directory before))).state).state := by
  have happend : (writeEach options (before ++ entity :: after) session).result = _ ∧
      (writeEach options (before ++ entity :: after) session).state = _ :=
    writeEach_append options h
  rw [happend.2, writeEach, Action.andThen_of_ok hresult]
  cases hothers : (writeEach options after (writeOne options entity (recording session
      (untouched options.directory before))).state).result with
  | error failure => rw [Action.andThen_of_error hothers]
  | ok records =>
    rw [Action.andThen_of_ok hothers]
    rfl

theorem writeSnapshots_eq (options : WriteOptions)
    (h : writtenEntities session.context.entities = entities) :
    writeSnapshots options session = writeEach options entities session := by
  subst h
  rfl

/-! ## Where the two modes part -/

/-- A run that writes leaves the snapshots of some entities and comes to one that it changes: it
writes and records it, whatever comes later, or is refused the file. -/
inductive ComesToChange (directory : String) (session : Session) (before : List Entity)
    (entity : Entity) (found : OutputStatus) : Prop
  | writes {files : FileTree} {later : List OutputRecord} :
      session.files.write (Snapshot.path directory entity.name) (render entity.definition) =
        .ok files →
      (writeSnapshots ⟨directory, false⟩ session).state.context.outputs = session.context.outputs ++
        (untouched directory before ++ ⟨Snapshot.path directory entity.name, found⟩ :: later) →
      ComesToChange directory session before entity found
  | isRefused {fault : FileFault} :
      session.files.write (Snapshot.path directory entity.name) (render entity.definition) =
        .error fault →
      (writeSnapshots ⟨directory, false⟩ session).result = .error (.outside .file) →
      (writeSnapshots ⟨directory, false⟩ session).state.context.outputs = session.context.outputs ++
        untouched directory before →
      ComesToChange directory session before entity found

/-- A failure names the path and status of the first snapshot that a run which writes would create
or update. -/
inductive NamesFirstChange (directory : String) (session : Session) : Failure → Prop
  | intro {before after : List Entity} {entity : Entity} {found : OutputStatus} :
      writtenEntities session.context.entities = before ++ entity :: after →
      found ≠ .unchanged →
      verdict session.files (Snapshot.path directory entity.name) entity.definition = .ok found →
      ComesToChange directory session before entity found →
      NamesFirstChange directory session (.outside (.generation ("Snapshot would be " ++
        found.name ++ ": " ++ Snapshot.path directory entity.name)))

/-- A failure is that of the first snapshot which does not pass, since it is there but is no text; a
run that writes fails there in the same way. -/
inductive MeetsUnreadable (directory : String) (session : Session) : Failure → Prop
  | intro {before after : List Entity} {entity : Entity} :
      writtenEntities session.context.entities = before ++ entity :: after →
      AllPass directory session.files before →
      session.files.read (Snapshot.path directory entity.name) = .error .blocked →
      (writeSnapshots ⟨directory, false⟩ session).result = .error (.outside .file) →
      (writeSnapshots ⟨directory, false⟩ session).state =
        (writeSnapshots ⟨directory, true⟩ session).state →
      MeetsUnreadable directory session (.outside .file)

/-- What a run that only checks tells of one that writes, from the same state. -/
structure TellsOfWriting (directory : String) (session : Session) : Prop where
  keepsFiles : (writeSnapshots ⟨directory, true⟩ session).state.files = session.files
  succeeds : (∃ records, (writeSnapshots ⟨directory, true⟩ session).result = .ok records) ↔
    ∃ records, (writeSnapshots ⟨directory, false⟩ session).result = .ok records ∧
      ∀ record ∈ records, record.status = .unchanged
  returns : ∀ records, (writeSnapshots ⟨directory, true⟩ session).result = .ok records →
    (writeSnapshots ⟨directory, false⟩ session).result = .ok records
  fails : ∀ failure, (writeSnapshots ⟨directory, true⟩ session).result = .error failure →
    NamesFirstChange directory session failure ∨ MeetsUnreadable directory session failure

theorem tellsOfWriting_of_allPass
    (h : AllPass directory session.files (writtenEntities session.context.entities)) :
    TellsOfWriting directory session := by
  have hmode (check : Bool) : writeSnapshots ⟨directory, check⟩ session = _ :=
    @writeEach_of_allPass ⟨directory, check⟩ _ _ h
  have hunchanged : ∀ record ∈ untouched directory (writtenEntities session.context.entities),
      record.status = .unchanged := List.forall_mem_map.2 fun _ _ => rfl
  refine ⟨by rw [hmode]; rfl, ?_, ?_, ?_⟩
  · rw [hmode, hmode]
    exact ⟨fun _ => ⟨_, rfl, hunchanged⟩, fun _ => ⟨_, rfl⟩⟩
  · rw [hmode, hmode]
    exact fun _ => id
  · rw [hmode]
    exact nofun

/-- A run that writes comes to the first snapshot that does not pass. -/
theorem comesToChange
    (heq : writtenEntities session.context.entities = before ++ entity :: after)
    (hbefore : AllPass directory session.files before) (hfound : found ≠ .unchanged)
    (h : verdict session.files (Snapshot.path directory entity.name) entity.definition =
      .ok found) :
    ComesToChange directory session before entity found := by
  have hrun := writeSnapshots_eq ⟨directory, false⟩ heq
  have h' : verdict (recording session (untouched directory before)).files
      (Snapshot.path directory entity.name) entity.definition = .ok found := h
  have hone := writeOne_writing ⟨directory, false⟩ rfl hfound h'
  cases hwrite : session.files.write (Snapshot.path directory entity.name)
      (render entity.definition) with
  | error fault =>
    have hwrite' : (recording session (untouched directory before)).files.write
        (Snapshot.path directory entity.name) (render entity.definition) = .error fault := hwrite
    rw [hwrite'] at hone
    obtain ⟨hresult, hstate⟩ := writeEach_of_first_error ⟨directory, false⟩ after hbefore hone.1
    refine .isRefused hwrite (by rw [hrun, hresult]) ?_
    rw [hrun, hstate, hone.2]
    rfl
  | ok files =>
    have hwrite' : (recording session (untouched directory before)).files.write
        (Snapshot.path directory entity.name) (render entity.definition) = .ok files := hwrite
    rw [hwrite'] at hone
    obtain ⟨later, hlater, -, -⟩ := records_writeEach ⟨directory, false⟩ after
      (writeOne ⟨directory, false⟩ entity (recording session (untouched directory before))).state
    refine @ComesToChange.writes _ _ _ _ _ files later hwrite ?_
    rw [hrun, writeEach_of_first_ok ⟨directory, false⟩ hbefore hone.1, hlater, hone.2]
    simp [recording, Session.withContext]

theorem tellsOfWriting_of_change
    (heq : writtenEntities session.context.entities = before ++ entity :: after)
    (hbefore : AllPass directory session.files before) (hfound : found ≠ .unchanged)
    (h : verdict session.files (Snapshot.path directory entity.name) entity.definition =
      .ok found) :
    TellsOfWriting directory session := by
  have hcomes := comesToChange heq hbefore hfound h
  have hrun (check : Bool) := writeSnapshots_eq ⟨directory, check⟩ heq
  have h' : verdict (recording session (untouched directory before)).files
      (Snapshot.path directory entity.name) entity.definition = .ok found := h
  obtain ⟨hone, hstate⟩ := writeOne_checking ⟨directory, true⟩ rfl hfound h'
  obtain ⟨hresult, hfiles⟩ := writeEach_of_first_error ⟨directory, true⟩ after hbefore hone
  rw [← hrun] at hresult hfiles
  refine ⟨by rw [hfiles, hstate]; rfl, ?_, ?_, ?_⟩
  · rw [hresult]
    refine ⟨nofun, ?_⟩
    rintro ⟨records, hwritten, hunchanged⟩
    cases hcomes with
    | isRefused _ hrefused _ =>
      rw [hrefused] at hwritten
      cases hwritten
    | @writes files later _ houtputs =>
      -- the records of the run are those it added, and one of them is of the change
      obtain ⟨added, hcontext, -, hreturned⟩ := records_writeEach ⟨directory, false⟩
        (before ++ entity :: after) session
      rw [← hrun] at hcontext hreturned
      obtain ⟨rfl, -⟩ := hreturned records hwritten
      rw [hcontext, List.append_cancel_left_eq] at houtputs
      have hchange := hunchanged ⟨Snapshot.path directory entity.name, found⟩ (by simp [houtputs])
      exact absurd hchange hfound
  · rw [hresult]
    exact nofun
  · intro failure hfailure
    rw [hresult] at hfailure
    cases hfailure
    exact Or.inl (.intro heq hfound h hcomes)

theorem tellsOfWriting_of_unreadable
    (heq : writtenEntities session.context.entities = before ++ entity :: after)
    (hbefore : AllPass directory session.files before)
    (h : verdict session.files (Snapshot.path directory entity.name) entity.definition =
      .error failure) : TellsOfWriting directory session := by
  have hrun (check : Bool) := writeSnapshots_eq ⟨directory, check⟩ heq
  obtain ⟨hblocked, rfl⟩ := blocked_of_verdict h
  have h' : verdict (recording session (untouched directory before)).files
      (Snapshot.path directory entity.name) entity.definition = .error (.outside .file) := h
  have hmode (check : Bool) :
      (writeSnapshots ⟨directory, check⟩ session).result = .error (.outside .file) ∧
        (writeSnapshots ⟨directory, check⟩ session).state =
          recording session (untouched directory before) := by
    obtain ⟨hone, hstate⟩ := writeOne_unjudged ⟨directory, check⟩ h'
    obtain ⟨hresult, hends⟩ := writeEach_of_first_error ⟨directory, check⟩ after hbefore hone
    rw [hrun, hends, hstate]
    exact ⟨hresult, rfl⟩
  refine ⟨by rw [(hmode true).2]; rfl, ?_, ?_, ?_⟩
  · rw [(hmode true).1, (hmode false).1]
    exact ⟨nofun, nofun⟩
  · rw [(hmode true).1]
    exact nofun
  · intro failure hfailure
    rw [(hmode true).1] at hfailure
    cases hfailure
    refine Or.inr (.intro heq hbefore hblocked (hmode false).1 ?_)
    rw [(hmode true).2, (hmode false).2]

theorem tellsOfWriting (directory : String) (session : Session) :
    TellsOfWriting directory session := by
  rcases allPass_or_first directory session.files (writtenEntities session.context.entities) with
    hall | ⟨before, entity, after, heq, hbefore, hfails⟩
  · exact tellsOfWriting_of_allPass hall
  · cases h : verdict session.files (Snapshot.path directory entity.name) entity.definition with
    | error failure => exact tellsOfWriting_of_unreadable heq hbefore h
    | ok found =>
      have hfound : found ≠ .unchanged := by
        rintro rfl
        exact hfails (passesAt_iff_verdict.2 h)
      exact tellsOfWriting_of_change heq hbefore hfound h

/-- A run that only checks changes no file, and tells what a run that writes would do: it succeeds
just where that one would leave all snapshots, and otherwise fails on the first one it would create
or update, unless it comes to one that neither can read. Both record what became of the snapshots in
the order of their entities. -/
theorem a_check_tells_what_writing_would_do (directory : String) (session : Session) :
    TellsOfWriting directory session ∧
    (∀ check, ∃ added, Records directory (writtenEntities session.context.entities) session.context
      (writeSnapshots ⟨directory, check⟩ session) added) ∧
    ∀ records, (OutputCounts.ofRecords records).created + (OutputCounts.ofRecords records).updated +
      (OutputCounts.ofRecords records).unchanged = records.length :=
  ⟨tellsOfWriting directory session,
    fun check => records_writeEach ⟨directory, check⟩ _ session,
    OutputCounts.sum_ofRecords⟩

/-! ## A snapshot that cannot be read -/

/-- An archived order and a story, prepared in a project where the snapshot of the order is no text
and that of the story is missing. -/
def archiveSession : Session where
  context :=
    (prepareAll (.ofDefinitions {} [{ name := "Archive/Order" }, { name := "Story" }])).state
  files := ⟨[([".jhipster"], .folder), ([".jhipster", "Archive"], .folder),
    ([".jhipster", "Archive", "Order.json"], .binary)]⟩

/-- Checking stops at the snapshot of the order with a fault of its file, and does not name that of
the story, which is missing, or any other. -/
theorem a_check_stops_at_an_unreadable_snapshot :
    (writtenEntities archiveSession.context.entities).map (Snapshot.path "." ·.name) =
      ["./.jhipster/Archive/Order.json", "./.jhipster/Story.json"] ∧
    archiveSession.files.read "./.jhipster/Story.json" = .error .absent ∧
    (writeSnapshots ⟨".", true⟩ archiveSession).result = .error (.outside .file) ∧
    ¬ NamesFirstChange "." archiveSession (.outside .file) := by
  refine ⟨by decide +kernel, by decide +kernel, by decide +kernel, nofun⟩

end SnapshotWriter

end EntityPipeline
