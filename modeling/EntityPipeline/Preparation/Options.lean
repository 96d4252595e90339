-- Configuring each entity: every source gets its options resolved against the defaults of the
-- application. A source without a name stops the phase; sources before it are configured.
import EntityPipeline.Run.Action

namespace EntityPipeline

/-- Resolves the options of sources in order, up to the first one without a name. -/
def configureSources (defaults : EntityOptions) :
    List (String × EntitySource) → List (String × EntitySource) × Except Failure Unit
  | [] => ([], .ok ())
  | (key, source) :: rest =>
    if key == "" || source.definition.name == "" then
      ((key, source) :: rest, .error (.configuration "an entity definition has no name"))
    else
      let options := ResolvedOptions.resolve source.definition.options defaults
      let (configured, result) := configureSources defaults rest
      ((key, { source with options := some options }) :: configured, result)

/-- Applies the default options to every source. -/
def configureEntities : Action Context Unit := fun context =>
  let (sources, result) := configureSources (ResolvedOptions.defaults context.config) context.sources
  ⟨result, { context with sources }, []⟩

end EntityPipeline
