-- A run inside a project: what the run works on, and the files around it.
import EntityPipeline.Files.FileTree
import EntityPipeline.Preparation.Bootstrap

namespace EntityPipeline

/-- The state of a run inside a project. -/
structure Session where
  context : Context := {}
  files : FileTree := {}
deriving Repr, Inhabited

namespace Session

/-- The session with another context. -/
def withContext (session : Session) (context : Context) : Session := { session with context }

/-- A generator that works on the context alone. -/
def inContext (generator : Generator Context) : Generator Session :=
  generator.onPart Session.context Session.withContext

/-- The scheduler of every project. -/
def scheduler : Scheduler Session := Scheduler.standard (inContext bootstrap)

end Session

end EntityPipeline
