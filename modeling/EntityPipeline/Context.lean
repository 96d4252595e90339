-- What a generation run works on: the configuration, the definitions it was given, the registry of
-- prepared entities and the record of written files.
import EntityPipeline.Registry

namespace EntityPipeline

/-- A definition with the options resolved for it, once they are. -/
structure EntitySource where
  definition : EntityDefinition
  options : Option ResolvedOptions := none
deriving Repr, Inhabited

/-- What became of an output file. -/
inductive OutputStatus where
  | created
  | updated
  | unchanged
deriving DecidableEq, Repr, Inhabited

/-- The word for what became of a file. -/
def OutputStatus.name : OutputStatus → String
  | .created => "created"
  | .updated => "updated"
  | .unchanged => "unchanged"

/-- An output file and what became of it. -/
structure OutputRecord where
  path : String
  status : OutputStatus
deriving DecidableEq, Repr, Inhabited

/-- Puts a value under a key: in place of the old one, or at the end. -/
def putUnder {α : Type} (key : String) (value : α) : List (String × α) → List (String × α)
  | [] => [(key, value)]
  | (k, v) :: rest =>
    if k == key then (k, value) :: rest else (k, v) :: putUnder key value rest

/-- The state of a generation run. -/
structure Context where
  config : ApplicationConfig := {}
  sources : List (String × EntitySource) := []
  entities : Registry := {}
  outputs : List OutputRecord := []
deriving Repr, Inhabited

namespace Context

/-- The context with a definition under its name; its options are to be resolved anew. -/
def addDefinition (context : Context) (definition : EntityDefinition) : Context :=
  { context with sources := putUnder definition.name ⟨definition, none⟩ context.sources }

/-- The context of a configuration and definitions. -/
def ofDefinitions (config : ApplicationConfig) (definitions : List EntityDefinition) : Context :=
  definitions.foldl addDefinition { config := config }

/-- The context with one more output file. -/
def recordOutput (context : Context) (path : String) (status : OutputStatus) : Context :=
  { context with outputs := context.outputs ++ [⟨path, status⟩] }

end Context

end EntityPipeline
