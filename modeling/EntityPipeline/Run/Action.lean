-- Steps of a run. An action changes a state, may fail, and leaves a trail of events. What it did to
-- the state before it failed stays done, and so do the events up to there.
import EntityPipeline.Context

namespace EntityPipeline

/-- A record of what happened in a run. -/
inductive Event where
  | priorityStarted (priority queue : String) (groups : Nat)
  | prioritySkipped (priority : String)
  | priorityCompleted (priority : String) (tasks : Nat)
  | taskStarted (priority generator task : String)
  | taskCompleted (priority generator task : String)
  | taskFailed (priority generator task : String)
  | entityPrepared (entity : String) (fields relationships : Nat)
  | fileWritten (path : String) (status : OutputStatus)
  | blueprintIgnored (blueprint : String)
  | warned (message subject : String)
  | noted (text : String)
deriving DecidableEq, Repr, Inhabited

/-- What an action leaves behind. -/
structure Outcome (σ α : Type) where
  result : Except Failure α
  state : σ
  events : List Event

/-- A step of a run over states of one type. -/
def Action (σ α : Type) := σ → Outcome σ α

namespace Action

variable {σ τ α β : Type}

/-- Does nothing and gives a value. -/
def give (a : α) : Action σ α := fun s => ⟨.ok a, s, []⟩

/-- Does nothing and fails. -/
def fail (failure : Failure) : Action σ α := fun s => ⟨.error failure, s, []⟩

/-- Does one action, then one that depends on its value, unless the first fails. -/
def andThen (first : Action σ α) (second : α → Action σ β) : Action σ β := fun s =>
  let done := first s
  match done.result with
  | .error e => ⟨.error e, done.state, done.events⟩
  | .ok a =>
    let more := second a done.state
    ⟨more.result, more.state, done.events ++ more.events⟩

instance : Monad (Action σ) where
  pure := give
  bind := andThen

/-- Gives the state. -/
def state : Action σ σ := fun s => ⟨.ok s, s, []⟩

/-- Changes the state. -/
def modify (change : σ → σ) : Action σ Unit := fun s => ⟨.ok (), change s, []⟩

/-- Leaves an event. -/
def emit (event : Event) : Action σ Unit := fun s => ⟨.ok (), s, [event]⟩

/-- Does an action for every item, in order, up to the first failure. -/
def forEach (act : β → Action σ Unit) : List β → Action σ Unit
  | [] => give ()
  | b :: rest => andThen (act b) fun _ => forEach act rest

/-- An action on a part of the state. -/
def onPart (get : τ → σ) (set : τ → σ → τ) (act : Action σ α) : Action τ α := fun t =>
  let done := act (get t)
  ⟨done.result, set t done.state, done.events⟩

end Action

end EntityPipeline
