-- Snapshots: the written form of a definition as a text with sorted keys, two blanks of indentation
-- and a line break at the end, so that the same definition always gives the same text.
import EntityPipeline.Definition.Read
import EntityPipeline.Json.Printer

namespace EntityPipeline

namespace Snapshot

/-- The folder that holds the snapshots of a project. -/
def folder : String := ".jhipster"

/-- The sorted value of a definition. -/
def canonicalValue (definition : EntityDefinition) : Json := definition.toJson.sorted

/-- The text of a definition. -/
def render (definition : EntityDefinition) : String :=
  (canonicalValue definition).pretty ++ "\n"

/-- The definition of a text. -/
def read (text : String) : Except Json.ReadError EntityDefinition :=
  (EntityDefinition.read .text).ofText text

end Snapshot

end EntityPipeline
