-- The commands of the program. Each works on a tree of files and gives a text or an error, the tree
-- it leaves and the events of its run.
import EntityPipeline.CommandLine.Arguments
import EntityPipeline.CommandLine.Report
import EntityPipeline.Project.Load
import EntityPipeline.Run.Execution

namespace EntityPipeline

/-- Why a command fails. -/
inductive CommandError where
  | failure (cause : Failure)
  | blueprint (path : String) (cause : Outside)
deriving DecidableEq, Repr, Inhabited

/-- The wording of a command's error. -/
def CommandError.message : CommandError → Option String
  | .failure cause => cause.message
  | .blueprint path _ => some ("Failed to load blueprint " ++ path)

/-- What a command leaves behind. -/
structure CommandOutcome where
  result : Except CommandError String
  files : FileTree
  events : List Event

namespace CommandOutcome

/-- A command that fails before it changes anything. -/
def failed (files : FileTree) (events : List Event) (failure : Failure) : CommandOutcome :=
  ⟨.error (.failure failure), files, events⟩

end CommandOutcome

namespace Command

/-- The context of a project, and the warnings on the way. -/
def loadContext (files : FileTree) (path : String) (skipUserManagement : Bool) :
    Except Failure Context × List Event :=
  match ApplicationConfig.load files path with
  | .error e => (.error e, [])
  | .ok config =>
    let config := { config with
      skipUserManagement := skipUserManagement || config.skipUserManagement }
    let (definitions, warnings) := readProject files path config
    (definitions.map (Context.ofDefinitions config), warnings)

/-- Runs a scheduler on a project and prints what it leaves. -/
def runOn (scheduler : Scheduler Session) (session : Session) (events : List Event)
    (print : Context → String) : CommandOutcome :=
  let done := (scheduler.run session).2
  ⟨match done.result with
    | .ok _ => .ok (print done.state.context)
    | .error e => .error (.failure e),
    done.state.files, events ++ done.events⟩

/-! ## Generating -/

/-- Loads blueprints and composes them in order. A blueprint whose name is taken is ignored. -/
def composeBlueprints (files : FileTree) (scheduler : Scheduler Session) :
    List String → Except CommandError (Scheduler Session) × List Event
  | [] => (.ok scheduler, [])
  | path :: rest =>
    match Blueprint.load files path with
    | .error cause => (.error (.blueprint path cause), [])
    | .ok blueprint =>
      match scheduler.compose (Session.inContext blueprint.generator) with
      | (_, .error e) => (.error (.failure e), [])
      | (scheduler, .ok isNew) =>
        let (result, events) := composeBlueprints files scheduler rest
        (result, if isNew then events else .blueprintIgnored blueprint.name :: events)

/-- Prepares the entities of a project and brings their snapshots up to date. -/
def runGenerate (files : FileTree) (path : String) (blueprints : List String)
    (check skipUserManagement : Bool) : CommandOutcome :=
  match loadContext files path skipUserManagement with
  | (.error e, events) => .failed files events e
  | (.ok context, events) =>
    let (composed, more) := composeBlueprints files Session.scheduler blueprints
    match composed with
    | .error e => ⟨.error e, files, events ++ more⟩
    | .ok scheduler =>
      match scheduler.compose (SnapshotWriter.generator ⟨path, check⟩) with
      | (_, .error e) => .failed files (events ++ more) e
      | (scheduler, .ok _) =>
        runOn scheduler ⟨context, files⟩ (events ++ more) fun context =>
          Report.outputs context.outputs

/-! ## Listing -/

/-- Prepares the entities of a project and lists them. -/
def runEntities (files : FileTree) (path : String) (json skipUserManagement : Bool) :
    CommandOutcome :=
  match loadContext files path skipUserManagement with
  | (.error e, events) => .failed files events e
  | (.ok context, events) =>
    match Session.scheduler.compose (Session.inContext bootstrap) with
    | (_, .error e) => .failed files events e
    | (scheduler, .ok _) =>
      runOn scheduler ⟨context, files⟩ events fun context =>
        if json then Report.entitiesJson context.entities else Report.entities context.entities

/-- Does what a command asks for. -/
def run (command : Command) (info : BuildInfo) (files : FileTree) : CommandOutcome :=
  match command with
  | .generate path blueprints check skipUserManagement =>
    runGenerate files path blueprints check skipUserManagement
  | .entities path json skipUserManagement => runEntities files path json skipUserManagement
  | .priorities json =>
    ⟨.ok (if json then Report.prioritiesJson .standard else Report.priorities .standard),
      files, []⟩
  | .version => ⟨.ok (Report.version info), files, []⟩

/-! ## Files that a command looks at -/

/-- The files that a command reads before its run begins, and the folder of the definitions. -/
def inputs : Command → List String × Option String
  | .generate path blueprints _ _ =>
    (Path.join path ApplicationConfig.fileName :: blueprints,
      some (Path.join path Snapshot.folder))
  | .entities path _ _ =>
    ([Path.join path ApplicationConfig.fileName], some (Path.join path Snapshot.folder))
  | .priorities _ | .version => ([], none)

/-- The command without a check, so that its run goes through all outputs. -/
def unchecked : Command → Command
  | .generate path blueprints _ skipUserManagement =>
    .generate path blueprints false skipUserManagement
  | command => command

end Command

/-- The paths of the output files among events. -/
def outputPaths (events : List Event) : List String :=
  events.filterMap fun
    | .fileWritten path _ => some path
    | _ => none

/-- The paths of the files that were written. -/
def changedPaths (events : List Event) : List String :=
  events.filterMap fun
    | .fileWritten _ .unchanged => none
    | .fileWritten path _ => some path
    | _ => none

end EntityPipeline
