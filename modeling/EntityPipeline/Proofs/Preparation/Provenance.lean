-- What phases leave alone. An entity comes from a definition under a name, added by the generator
-- or not; once it is loaded, no step of a preparation changes that, and no step at all changes the
-- definitions of the sources. This holds of every phase however far it gets before it fails.
import EntityPipeline.Proofs.Preparation.Loading
import EntityPipeline.Proofs.Preparation.Views

namespace EntityPipeline

/-- What an entity comes from: its name, its definition, and whether the generator added it. -/
structure Provenance where
  name : String
  definition : EntityDefinition
  builtIn : Bool

def Entity.provenance (entity : Entity) : Provenance :=
  ⟨entity.name, entity.definition, entity.builtIn⟩

/-- What the entities of a registry come from. -/
def Registry.provenance (registry : Registry) : List Provenance :=
  registry.slots.map fun slot => slot.entity.provenance

namespace Context

/-- The definitions of the sources under their names. -/
def declared (context : Context) : List (String × EntityDefinition) :=
  context.sources.map fun (name, source) => (name, source.definition)

/-- What the entities of a context come from. -/
def provenance (context : Context) : List Provenance := context.entities.provenance

end Context

/-! ## Phases -/

theorem declared_configureSources (defaults : EntityOptions)
    (sources : List (String × EntitySource)) :
    ((configureSources defaults sources).1.map fun (name, source) => (name, source.definition)) =
      sources.map fun (name, source) => (name, source.definition) := by
  induction sources with
  | nil => rfl
  | cons source rest ih =>
    unfold configureSources
    dsimp only
    split
    · rfl
    · simp only [List.map_cons, ih]

theorem sources_finishEntity (place : Nat) (sums : EntityAggregates) :
    (finishEntity place sums).LeavesAlone Context.sources := by
  intro context
  obtain ⟨entities, hstate⟩ := exists_state_finishEntity place sums context
  rw [hstate]

/-- No phase touches a definition that was given, however far it gets. -/
theorem Phase.declared_run (phase : Phase) : phase.run.LeavesAlone Context.declared := by
  intro context
  cases phase with
  | configure => exact declared_configureSources _ _
  | load | names | fields | relationships => rfl
  | freeze =>
    have hsources := leavesAlone_freeze sources_finishEntity context
    exact congrArg (List.map fun source => (source.1, source.2.definition)) hsources

/-- No phase but the one that loads entities changes what they come from. -/
theorem Phase.provenance_run {phase : Phase} (h : phase ≠ .load) :
    phase.run.LeavesAlone Context.provenance := by
  intro context
  cases phase with
  | configure => rfl
  | load => exact absurd rfl h
  | names => exact seen_prepareEntities (fun _ _ => rfl) context
  | fields => exact seen_prepareFields (fun _ _ => rfl) context
  | relationships => exact seen_relate (fun _ _ => rfl) fun _ _ => rfl
  | freeze => exact leavesAlone_freeze (seen_finishEntity (fun _ _ => rfl) fun _ => rfl) context

/-- A preparation leaves the definitions of its sources as they were, whether it succeeds or not. -/
theorem declared_prepareAll : prepareAll.LeavesAlone Context.declared :=
  .forEach fun phase _ => phase.declared_run

/-- However far it gets, no phase changes the configuration. -/
theorem Phase.config_run (phase : Phase) : phase.run.LeavesAlone Context.config := by
  intro context
  cases phase with
  | configure | load | names | fields | relationships => rfl
  | freeze =>
    refine leavesAlone_freeze (fun place sums context => ?_) context
    obtain ⟨entities, hstate⟩ := exists_state_finishEntity place sums context
    rw [hstate]

/-! ## What is loaded -/

/-- What the entities come from that a preparation finds in the sources: all of these, but for that
of the managed user. -/
def Context.expected (context : Context) : List Provenance :=
  (context.declared.filter fun (name, _) =>
    !(managesUsers context.config && name == userEntity)).map fun (_, definition) =>
      ⟨definition.name, definition, false⟩

theorem provenance_bareEntities (context : Context) :
    ((bareEntities context).map Entity.provenance).filter (fun p => !p.builtIn) =
      context.expected := by
  have huser : ((if managesUsers context.config then [managedUser context] else []).map
      Entity.provenance).filter (fun p => !p.builtIn) = [] := by
    split <;> rfl
  unfold bareEntities Context.expected Context.declared
  rw [List.map_append, List.filter_append, huser, List.nil_append, List.filter_eq_self.2,
    List.map_map, List.filter_map, List.map_map]
  · rfl
  · intro p hp
    simp only [List.mem_map] at hp
    obtain ⟨_, ⟨_, _, rfl⟩, rfl⟩ := hp
    rfl

/-- A preparation that succeeds leaves its entities with what they came from when they were
loaded. -/
theorem provenance_loaded {context : Context} (h : (prepareAll context).result = .ok ()) :
    (prepareAll context).state.entities.provenance =
      (bareEntities (configureEntities context).state).map Entity.provenance := by
  obtain ⟨-, hrest, hstate⟩ := forEach_cons_eq_ok h
  obtain ⟨hload, -, hstate'⟩ := forEach_cons_eq_ok hrest
  have hloaded : (loadEntities (configureEntities context).state).state.provenance =
      (bareEntities (configureEntities context).state).map Entity.provenance := by
    refine (congrArg (·.state.provenance) (loadEntities_ok hload).2).trans ?_
    unfold Context.provenance Registry.provenance Registry.unfrozen
    rw [List.map_map]
    rfl
  have hlater : (Action.forEach Phase.run [.names, .fields, .relationships, .freeze]).LeavesAlone
      Context.provenance :=
    .forEach fun phase hin => Phase.provenance_run (by rintro rfl; simp at hin)
  rw [← hloaded]
  unfold prepareAll Phase.all
  rw [hstate, hstate']
  exact hlater _

/-- Those of them that the generator did not add come from the sources. -/
theorem provenance_expected {context : Context} (h : (prepareAll context).result = .ok ()) :
    ((prepareAll context).state.entities.provenance.filter fun p => !p.builtIn) =
      context.expected := by
  have hdeclared : (configureEntities context).state.declared = context.declared :=
    Phase.declared_run .configure context
  have hexpected : (configureEntities context).state.expected = context.expected := by
    unfold Context.expected
    rw [hdeclared]
    rfl
  rw [provenance_loaded h, provenance_bareEntities, hexpected]

end EntityPipeline
