-- Writing snapshots: every entity of a project, except those that the generator adds, has its
-- snapshot in a file. A file is written only if it is missing or differs from the definition; when
-- a run only checks, such a file is a failure instead.
import EntityPipeline.Definition.Difference
import EntityPipeline.Project.Session
import EntityPipeline.Snapshot

namespace EntityPipeline

open EntityPipeline.Action

/-- Where snapshots are written, and whether they are only checked. -/
structure WriteOptions where
  directory : String := "."
  check : Bool := false
deriving DecidableEq, Repr, Inhabited

/-- The path of an entity's snapshot in a project. -/
def Snapshot.path (directory name : String) : String :=
  Path.join (Path.join directory Snapshot.folder) (name ++ ".json")

namespace SnapshotWriter

/-- What has to become of a snapshot: a missing one is created, one that cannot be read as a
value or differs from the definition is updated. -/
def status (path : String) (definition : EntityDefinition) : Action Session OutputStatus :=
  fun session =>
    match session.files.read path with
    | .error .absent => ⟨.ok .created, session, []⟩
    | .error .blocked => ⟨.error (.outside .file), session, []⟩
    | .ok text =>
      match Json.parse text with
      | .error _ => ⟨.ok .updated, session, [.warned "Replacing unreadable snapshot" path]⟩
      | .ok existing =>
        if existing.sameEntity (Snapshot.canonicalValue definition) then
          ⟨.ok .unchanged, session, []⟩
        else ⟨.ok .updated, session, []⟩

/-- Writes a text into a file. -/
def writeFile (path text : String) : Action Session Unit := fun session =>
  match session.files.write path text with
  | .error _ => ⟨.error (.outside .file), session, []⟩
  | .ok files => ⟨.ok (), { session with files }, []⟩

/-- Brings a snapshot up to date, or fails if it is not and is only checked. -/
def settle (options : WriteOptions) (path : String) (definition : EntityDefinition)
    (status : OutputStatus) : Action Session Unit :=
  if status == .unchanged then give ()
  else if options.check then
    fail (.outside (.generation ("Snapshot would be " ++ status.name ++ ": " ++ path)))
  else writeFile path (Snapshot.render definition)

/-- Records an output file. -/
def record (path : String) (status : OutputStatus) : Action Session OutputRecord := fun session =>
  ⟨.ok ⟨path, status⟩, session.withContext (session.context.recordOutput path status),
    [.fileWritten path status]⟩

/-- Takes care of the snapshot of one entity. -/
def writeOne (options : WriteOptions) (entity : Entity) : Action Session OutputRecord :=
  let path := Snapshot.path options.directory entity.name
  andThen (status path entity.definition) fun status =>
    andThen (settle options path entity.definition status) fun () =>
      record path status

/-- Takes care of the snapshots of entities in order, up to the first failure. -/
def writeEach (options : WriteOptions) : List Entity → Action Session (List OutputRecord)
  | [] => give []
  | entity :: rest =>
    andThen (writeOne options entity) fun first =>
      andThen (writeEach options rest) fun others => give (first :: others)

/-- The entities with snapshots: all that the generator did not add. -/
def writtenEntities (registry : Registry) : List Entity :=
  registry.entities.filter fun entity => !entity.builtIn

/-- Takes care of the snapshots of a project. -/
def writeSnapshots (options : WriteOptions) : Action Session (List OutputRecord) :=
  fun session => writeEach options (writtenEntities session.context.entities) session

/-- The name of the generator that writes snapshots. -/
def name : String := "entity-snapshots"

/-- The generator that writes snapshots after the preparation. -/
def generator (options : WriteOptions) : Generator Session where
  name := name
  dependsOn := [bootstrapName]
  groups := [
    ("writingEntities", TaskGroup.single "writeEntities" "writeSnapshots"
      (andThen (writeSnapshots options) fun _ => give ())),
    ("postWritingEntities", TaskGroup.single "summarize" "logSummary" (give ()))]

end SnapshotWriter

/-! ## Counts -/

/-- How many output files were created, updated and left alone. -/
structure OutputCounts where
  created : Nat := 0
  updated : Nat := 0
  unchanged : Nat := 0
deriving DecidableEq, Repr, Inhabited

/-- The counts of output records. -/
def OutputCounts.ofRecords (records : List OutputRecord) : OutputCounts where
  created := records.countP (·.status == .created)
  updated := records.countP (·.status == .updated)
  unchanged := records.countP (·.status == .unchanged)

end EntityPipeline
