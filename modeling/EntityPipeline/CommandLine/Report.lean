-- The texts that commands print.
import EntityPipeline.Json.Printer
import EntityPipeline.Project.SnapshotWriter

namespace EntityPipeline

namespace Report

/-- A text with blanks after it up to a width. -/
def padRight (width : Nat) (text : String) : String :=
  text ++ String.ofList (List.replicate (width - text.length) ' ')

/-- A text with blanks in front of it up to a width. -/
def padLeft (width : Nat) (text : String) : String :=
  String.ofList (List.replicate (width - text.length) ' ') ++ text

/-- Lines with breaks between them. -/
def lines (items : List String) : String := "\n".intercalate items

/-- What became of each output file, and how many there are of each kind. -/
def outputs (records : List OutputRecord) : String :=
  let counts := OutputCounts.ofRecords records
  lines ((records.map fun record => padRight 9 record.status.name ++ " " ++ record.path) ++
    [toString records.length ++ " entities: " ++ toString counts.created ++ " created, " ++
      toString counts.updated ++ " updated, " ++ toString counts.unchanged ++ " unchanged"])

/-- One prepared entity. -/
def entityLine (entity : Entity) : String :=
  entity.name ++ " (table " ++ entity.tableName ++ ", " ++ toString entity.fields.length ++
    " fields, " ++ toString entity.relationships.length ++ " relationships)" ++
    (if entity.builtIn then " [built-in]" else "")

/-- The prepared entities. -/
def entities (registry : Registry) : String := lines (registry.entities.map entityLine)

/-- The prepared entities as values. -/
def entitiesJson (registry : Registry) : String :=
  (Json.array (registry.entities.map Entity.toJson)).pretty

/-- One priority of an order. -/
def priorityLine (priority : Priority) (place : Nat) : String :=
  padLeft 2 (toString place) ++ ". " ++ priority.name ++
    match priority.before with
    | some anchor => " (before " ++ anchor ++ ")"
    | none => ""

/-- The priorities of an order. -/
def priorities (order : PriorityOrder) : String :=
  lines ((order.priorities.zipIdx 1).map fun (priority, place) => priorityLine priority place)

/-- The priorities of an order as values. -/
def prioritiesJson (order : PriorityOrder) : String :=
  (Json.array (order.priorities.map fun priority => .object [
    ("name", .string priority.name), ("queue", .string priority.queue),
    ("before", match priority.before with
      | some anchor => .string anchor
      | none => .null),
    ("skip", .bool priority.skip)])).pretty

end Report

/-- Where the program was built, and the name of this very run. -/
structure BuildInfo where
  target : String := "unknown"
  date : String := "unknown"
  correlation : String
deriving DecidableEq, Repr, Inhabited

/-- The version of the program. -/
def Report.version (info : BuildInfo) : String :=
  lines [
    "entigen 0.3.0 - Command line interface for the entigen entity pipeline",
    "Target: " ++ info.target,
    "Build Date: " ++ info.date,
    "Correlation ID: " ++ info.correlation]

end EntityPipeline
