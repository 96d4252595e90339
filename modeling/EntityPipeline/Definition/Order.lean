-- The order of definitions in a project: those that the configuration declares come first, in the
-- order declared there, all others by the date of their changelog and then by name. A definition
-- without a date comes before every dated one.
import EntityPipeline.Definition.Basic

namespace EntityPipeline

/-- Whether a changelog date comes before another; dates are compared as texts. -/
def dateBefore : Option String → Option String → Bool
  | none, some _ => true
  | some first, some second => first < second
  | _, none => false

/-- Whether a definition may stand before another. -/
def EntityDefinition.mayPrecede (declared : List String) (first second : EntityDefinition) :
    Bool :=
  let place := declared.idxOf first.name
  let other := declared.idxOf second.name
  if place == other then
    if first.changelogDate == second.changelogDate then first.name ≤ second.name
    else dateBefore first.changelogDate second.changelogDate
  else place < other

/-- The definitions in order; those that nothing tells apart keep their places. -/
def sortDefinitions (declared : List String) (definitions : List EntityDefinition) :
    List EntityDefinition :=
  definitions.mergeSort (EntityDefinition.mayPrecede declared)

end EntityPipeline
