-- Reading a project from its files: the configuration, the entity definitions and the blueprints.
import EntityPipeline.Config
import EntityPipeline.Blueprint
import EntityPipeline.Definition.Order
import EntityPipeline.Project.Session

namespace EntityPipeline

open Json (Decoder ReadError)

/-! ## Configuration -/

/-- Puts the path of a document to an error in it. -/
def Failure.inDocument (path : String) : Failure → Failure
  | .json error _ => .json error (some path)
  | failure => failure

/-- The configuration of a project; the default one if the project has no settings. -/
def ApplicationConfig.load (files : FileTree) (directory : String) :
    Except Failure ApplicationConfig :=
  let path := Path.join directory ApplicationConfig.fileName
  if !files.contains path then .ok {}
  else match files.read path with
    | .error _ => .error (.file "reading configuration" (some path))
    | .ok text =>
      match Json.parse text with
      | .error fault => .error (.json (.fault fault) (some path))
      | .ok document =>
        (ApplicationConfig.ofDocument document).mapError (Failure.inDocument path)

/-! ## Definitions -/

/-- The definition of a value. One without a name is named for its file. -/
def EntityDefinition.ofFile (path : String) (value : Json) : Except Failure EntityDefinition :=
  match EntityDefinition.ofJson value with
  | .error e => .error (.json e (some path))
  | .ok definition =>
    if definition.name == "" then
      .ok { definition with name := ((Path.stem? path).map Text.upperFirst).getD "" }
    else .ok definition

/-- The definition in a file. -/
def EntityDefinition.load (files : FileTree) (path : String) :
    Except Failure EntityDefinition :=
  match files.read path with
  | .error _ => .error (.file "reading entity definition" (some path))
  | .ok text =>
    match Json.parse text with
    | .error fault => .error (.json (.fault fault) (some path))
    | .ok value => EntityDefinition.ofFile path value

/-- A file that may hold a definition: a definition, a failure, or a reason to skip it. -/
inductive DefinitionFile where
  | holding (definition : EntityDefinition)
  | failure (failure : Failure)
  | skipped (warning : Event)

/-- What a file among the definitions holds. -/
def DefinitionFile.read (files : FileTree) (path : String) : DefinitionFile :=
  match files.read path with
  | .error _ => .failure (.file "reading entity definition" (some path))
  | .ok text =>
    match Json.parse text with
    | .error _ => .skipped (.warned "Skipping file that is not valid JSON" path)
    | .ok (.object members) =>
      match EntityDefinition.ofFile path (.object members) with
      | .ok definition => .holding definition
      | .error e => .failure e
    | .ok _ => .skipped (.warned "Skipping file that is not a JSON object" path)

/-- The definitions in files, up to the first failure, and the warnings on the way. -/
def readDefinitions (files : FileTree) :
    List String → Except Failure (List EntityDefinition) × List Event
  | [] => (.ok [], [])
  | path :: rest =>
    match DefinitionFile.read files path with
    | .failure e => (.error e, [])
    | .skipped warning =>
      let (result, warnings) := readDefinitions files rest
      (result, warning :: warnings)
    | .holding definition =>
      let (result, warnings) := readDefinitions files rest
      (result.map (definition :: ·), warnings)

/-- The definitions of a project in order, and the warnings on the way. -/
def readProject (files : FileTree) (directory : String) (config : ApplicationConfig) :
    Except Failure (List EntityDefinition) × List Event :=
  let folder := Path.join directory Snapshot.folder
  if !files.isFolder folder then
    (.error (.configuration ("entity directory " ++ folder ++ " does not exist")), [])
  else
    let names := (files.namesIn folder).filter fun name =>
      (Path.splitName name).2 == some "json"
    let (result, warnings) := readDefinitions files (names.map (Path.join folder))
    (result.map (sortDefinitions config.entities), warnings)

/-! ## Blueprints -/

/-- The blueprint in a file. One without a name is named for its file. -/
def Blueprint.load (files : FileTree) (path : String) : Except Outside Blueprint :=
  if !files.contains path then .error (.blueprint ("Blueprint file not found: " ++ path))
  else match files.read path with
    | .error _ => .error (.blueprint "Failed to read blueprint: ")
    | .ok text =>
      match (Blueprint.read .text).ofText text with
      | .error e => .error (.json e)
      | .ok blueprint =>
        let name := if blueprint.name == "" then (Path.stem? path).getD "blueprint"
          else blueprint.name
        match blueprint.config with
        | .null | .object _ => .ok { blueprint with name }
        | _ => .error (.blueprint ("Blueprint '" ++ name ++ "' has a non-object config"))

end EntityPipeline
