-- What can stop a generation run. Each cause has a diagnostic code and, unless its wording belongs
-- to the platform, a message. A failure inside a run carries the phase, the generator and the task
-- around the failure that the task itself raised.
import EntityPipeline.Json.ReadError

namespace EntityPipeline

open Json (ReadError)

/-- A failure of a collaborator that has no code of its own. -/
inductive Outside where
  | blueprint (reason : String)
  | generation (reason : String)
  | file
  | json (error : ReadError)
  | other (text : String)
deriving DecidableEq, Repr, Inhabited

/-- The wording of a collaborator's failure. -/
def Outside.message : Outside → Option String
  | .blueprint reason => some ("Blueprint error: " ++ reason)
  | .generation reason => some ("Generation error: " ++ reason)
  | .file => none
  | .json _ => none
  | .other text => some text

/-- Why a step of a generation run fails. -/
inductive Failure where
  | duplicatePriority (name : String)
  | unknownAnchor (priority anchor : String)
  | unknownPriority (name generator : String)
  | unknownGenerator (name : String) (requiredBy : Option String)
  | cyclicDependency (members : List String)
  | unresolvedReference (entity relationship otherEntity : String)
  | unknownFieldType (entity field type : String)
  | invalidRelationship (entity relationship reason : String)
  | duplicateEntity (name : String)
  | entityNotFound (name : String)
  | entityFrozen (name : String)
  | merge (reason : String)
  | configuration (reason : String)
  | file (operation : String) (path : Option String)
  | json (error : ReadError) (path : Option String)
  | outside (cause : Outside)
  | phaseFailed (phase generator task : String) (cause : Failure)
deriving DecidableEq, Repr, Inhabited

namespace Failure

/-- The diagnostic code of a failure. -/
def code : Failure → String
  | .duplicatePriority _ => "entigen::priority::duplicate"
  | .unknownAnchor _ _ => "entigen::priority::unknown_anchor"
  | .unknownPriority _ _ => "entigen::priority::unknown"
  | .unknownGenerator _ _ => "entigen::generator::unknown"
  | .cyclicDependency _ => "entigen::generator::cycle"
  | .unresolvedReference _ _ _ => "entigen::entity::unresolved_reference"
  | .unknownFieldType _ _ _ => "entigen::entity::unknown_field_type"
  | .invalidRelationship _ _ _ => "entigen::entity::invalid_relationship"
  | .duplicateEntity _ => "entigen::entity::duplicate"
  | .entityNotFound _ => "entigen::entity::not_found"
  | .entityFrozen _ => "entigen::entity::frozen"
  | .merge _ => "entigen::merge"
  | .configuration _ => "entigen::config::invalid"
  | .file _ _ => "entigen::io::error"
  | .json _ _ => "entigen::json"
  | .outside _ => "entigen::external"
  | .phaseFailed _ _ _ _ => "entigen::scheduler::phase_failed"

/-- A name between single quotation marks. -/
def named (name : String) : String := "'" ++ name ++ "'"

/-- The wording of a failure, unless it ends in the wording of the platform. -/
def message : Failure → Option String
  | .duplicatePriority name => some ("Priority " ++ named name ++ " is already defined")
  | .unknownAnchor priority anchor =>
    some ("Priority " ++ named priority ++ " is anchored before unknown priority " ++ named anchor)
  | .unknownPriority name generator =>
    some ("Generator " ++ named generator ++ " registered tasks for unknown priority " ++
      named name)
  | .unknownGenerator name none => some ("Unknown generator " ++ named name)
  | .unknownGenerator name (some user) =>
    some ("Unknown generator " ++ named name ++ " required by " ++ named user)
  | .cyclicDependency members =>
    some ("Cyclic generator dependency: " ++ " -> ".intercalate members)
  | .unresolvedReference entity relationship otherEntity =>
    some ("Relationship " ++ named relationship ++ " of entity " ++ named entity ++
      " references unknown entity " ++ named otherEntity)
  | .unknownFieldType entity field type =>
    some ("Field " ++ named field ++ " of entity " ++ named entity ++ " has unknown type " ++
      named type)
  | .invalidRelationship entity relationship reason =>
    some ("Invalid relationship " ++ named relationship ++ " on entity " ++ named entity ++ ": " ++
      reason)
  | .duplicateEntity name => some ("Entity " ++ named name ++ " is defined more than once")
  | .entityNotFound name => some ("Entity " ++ named name ++ " is not registered")
  | .entityFrozen name =>
    some ("Entity " ++ named name ++ " is frozen and can no longer be modified")
  | .merge reason => some ("Merge failed: " ++ reason)
  | .configuration reason => some ("Configuration error: " ++ reason)
  | .file _ _ => none
  | .json _ _ => none
  | .outside cause => cause.message
  | .phaseFailed phase generator task cause =>
    cause.message.map fun text =>
      "Phase " ++ named phase ++ " failed in generator " ++ named generator ++ " (task " ++
        named task ++ "): " ++ text

/-- The failure that was raised first, without the phases around it. -/
def rootCause : Failure → Failure
  | .phaseFailed _ _ _ cause => cause.rootCause
  | failure => failure

/-- The phase that a failure happened in, if it carries one. -/
def phase : Failure → Option String
  | .phaseFailed phase _ _ _ => some phase
  | _ => none

end Failure

end EntityPipeline
