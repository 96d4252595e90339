-- Where failures come from. Only a run puts a phase around a failure: whatever a step raises by
-- itself, in the preparation as in a blueprint or a snapshot, is its own root cause.
import EntityPipeline.Blueprint
import EntityPipeline.Preparation.Phases
import EntityPipeline.Project.SnapshotWriter
import EntityPipeline.Proofs.Preparation.RelatingFailures

namespace EntityPipeline

variable {σ α β : Type}

/-- A failure that a step raised by itself, with no phase around it. -/
def Failure.IsRaised (failure : Failure) : Prop := failure.rootCause = failure

/-- A result whose failure, if it is one, was raised by itself. -/
def Raises (result : Except Failure α) : Prop := ∀ e, result = .error e → e.IsRaised

/-- An action that only fails by itself. -/
def Action.Raises (act : Action σ α) : Prop := ∀ s, EntityPipeline.Raises (act s).result

theorem raises_ok (a : α) : Raises (.ok a : Except Failure α) := by
  rintro e ⟨⟩

theorem raises_error {e : Failure} (h : e.rootCause = e) :
    Raises (.error e : Except Failure α) := by
  rintro _ ⟨⟩
  exact h

theorem Raises.map {result : Except Failure α} (h : Raises result) (f : α → β) :
    Raises (result.map f) := by
  cases result with
  | error e => exact raises_error (h e rfl)
  | ok a => exact raises_ok (f a)

/-! ## Actions -/

namespace Action

theorem Raises.andThen {first : Action σ α} {second : α → Action σ β} (h1 : first.Raises)
    (h2 : ∀ a, (second a).Raises) : (andThen first second).Raises := by
  intro s e he
  unfold Action.andThen at he
  dsimp only at he
  split at he
  · rename_i cause hcause
    cases he
    exact h1 s _ hcause
  · exact h2 _ _ e he

theorem Raises.forEach {act : β → Action σ Unit} (h : ∀ b, (act b).Raises) (items : List β) :
    (forEach act items).Raises := by
  induction items with
  | nil => exact fun _ => raises_ok ()
  | cons b rest ih => exact (h b).andThen fun _ => ih

theorem Raises.onPart {τ : Type} {get : τ → σ} {set : τ → σ → τ} {act : Action σ α}
    (h : act.Raises) : (act.onPart get set).Raises := fun t => h (get t)

end Action

/-! ## Registries -/

theorem Failure.StopsRelating.isRaised {failure : Failure} (h : failure.StopsRelating) :
    failure.IsRaised := by
  cases h <;> rfl

theorem raises_insert (registry : Registry) (entity : Entity) :
    Raises (registry.insert entity) := by
  unfold Registry.insert
  split
  · exact raises_error rfl
  · exact raises_ok _

theorem raises_updatePlace (registry : Registry) (place : Nat) (change : Entity → Entity) :
    Raises (registry.updatePlace place change) :=
  fun e he => (stops_updatePlace registry place change e he).isRaised

theorem raises_freeze (registry : Registry) (name : String) : Raises (registry.freeze name) := by
  unfold Registry.freeze
  split
  · exact raises_error rfl
  · exact raises_ok _

theorem raises_changeAll {change : Entity → Except Failure Entity}
    (h : ∀ entity, Raises (change entity)) (slots : List Slot) :
    Raises (Slot.changeAll change slots).2 := by
  induction slots with
  | nil => exact raises_ok ()
  | cons slot rest ih =>
    unfold Slot.changeAll
    split
    · exact raises_error rfl
    · split
      · rename_i he
        exact raises_error (h _ _ he)
      · exact ih

/-! ## Phases -/

theorem raises_configureSources (defaults : EntityOptions)
    (sources : List (String × EntitySource)) : Raises (configureSources defaults sources).2 := by
  induction sources with
  | nil => exact raises_ok ()
  | cons entry rest ih =>
    unfold configureSources
    split
    · exact raises_error rfl
    · exact ih

theorem raises_registerAll (registry : Registry) (entities : List Entity) :
    Raises (registerAll registry entities).2 := by
  induction entities generalizing registry with
  | nil => exact raises_ok ()
  | cons entity rest ih =>
    unfold registerAll
    split
    · rename_i he
      exact raises_error (raises_insert _ _ _ he)
    · exact ih _

theorem raises_prepareEach (entity : Entity) (config : ApplicationConfig) (singleId : Bool)
    (planned : List PlannedField) : Raises (prepareEach entity config singleId planned) := by
  induction planned with
  | nil => exact raises_ok _
  | cons first rest ih =>
    unfold prepareEach prepareField
    dsimp only
    split
    · rename_i he
      split at he <;> cases he
      exact raises_error rfl
    · split
      · rename_i he
        exact raises_error (ih _ he)
      · exact raises_ok _

theorem raises_relate (registry : Registry) : Raises (relate registry).2 := by
  intro e he
  cases hfirst : registry.firstUnresolved? with
  | none => exact (stops_relate hfirst e he).isRaised
  | some reference =>
    rw [relate_of_unresolved hfirst] at he
    cases he
    rfl

theorem raises_finishEntity (place : Nat) (sums : EntityAggregates) :
    (finishEntity place sums).Raises := by
  intro context
  unfold finishEntity
  split
  · rename_i he
    exact raises_error (raises_updatePlace _ _ _ _ he)
  split
  · exact raises_ok ()
  split
  · rename_i he
    exact raises_error (raises_freeze _ _ _ he)
  · exact raises_ok ()

/-- A phase of the preparation only fails by itself. -/
theorem Phase.raises_run (phase : Phase) : phase.run.Raises := by
  intro context
  cases phase with
  | configure => exact raises_configureSources _ _
  | load => exact raises_registerAll _ _
  | names => exact raises_changeAll (fun _ => raises_ok _) _
  | fields =>
    exact raises_changeAll (fun entity => (raises_prepareEach _ _ _ _).map _) _
  | relationships => exact raises_relate _
  | freeze => exact Action.Raises.forEach (fun _ => raises_finishEntity _ _) _ _

/-! ## Blueprints and snapshots -/

theorem raises_merge (first second : Json) : Raises (merge first second) := by
  unfold merge
  split
  · exact raises_ok _
  split
  · exact raises_ok _
  split
  · exact raises_ok _
  · exact raises_error rfl

theorem raises_mergedWith (config : ApplicationConfig) (overrides : Json) :
    Raises (config.mergedWith overrides) := by
  unfold ApplicationConfig.mergedWith
  split
  · rename_i he
    exact raises_error (raises_merge _ _ _ he)
  · unfold ApplicationConfig.ofJson
    split
    · exact raises_ok _
    · exact raises_error rfl

theorem Blueprint.raises_change (context : Context) (name : String) (overrides : Json) :
    Raises (change context name overrides) := by
  unfold change
  dsimp only
  split
  · rename_i he
    split at he
    · exact raises_error (raises_merge _ _ _ he)
    · cases he
  · split
    · exact raises_error rfl
    · exact raises_ok _

/-- A blueprint only fails by itself. -/
theorem Blueprint.raises_apply (blueprint : Blueprint) : blueprint.apply.Raises := by
  refine Action.Raises.andThen (fun context => ?_) fun _ =>
    Action.Raises.forEach (fun (name, overrides) context => ?_) _
  · unfold applyConfig
    split
    · exact raises_ok ()
    · split
      · rename_i he
        exact raises_error (raises_mergedWith _ _ _ he)
      · exact raises_ok ()
  · dsimp only
    unfold applyEntity
    split
    · rename_i he
      exact raises_error (raises_change _ _ _ _ he)
    · exact raises_ok ()

namespace SnapshotWriter

variable (options : WriteOptions)

theorem raises_writeOne (entity : Entity) : (writeOne options entity).Raises := by
  refine Action.Raises.andThen (fun session => ?_) fun status =>
    Action.Raises.andThen (fun session => ?_) fun _ _ => raises_ok _
  · unfold SnapshotWriter.status
    split
    · exact raises_ok _
    · exact raises_error rfl
    · split
      · exact raises_ok _
      · split <;> exact raises_ok _
  · unfold settle
    split
    · exact raises_ok ()
    split
    · exact raises_error rfl
    · unfold writeFile
      split
      · exact raises_error rfl
      · exact raises_ok ()

theorem raises_writeEach (entities : List Entity) : (writeEach options entities).Raises := by
  induction entities with
  | nil => exact fun _ => raises_ok _
  | cons entity rest ih =>
    exact (raises_writeOne options entity).andThen fun _ => ih.andThen fun _ _ => raises_ok _

/-- Writing snapshots only fails by itself. -/
theorem raises_writeSnapshots : (writeSnapshots options).Raises :=
  fun session => raises_writeEach options _ session

end SnapshotWriter

end EntityPipeline
