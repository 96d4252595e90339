-- What the steps of a preparation leave alone. A view shows some part of each slot of a registry.
-- A step that only changes what the view does not show leaves the registry, as it is seen, as it
-- was, and that holds however far the step gets before it fails.
import EntityPipeline.Preparation.Phases

namespace EntityPipeline

/-! ## Actions -/

namespace Action

variable {σ α β γ : Type} {view : σ → γ}

/-- An action leaves alone what a view shows of the state, however far it gets. -/
def LeavesAlone (view : σ → γ) (act : Action σ α) : Prop := ∀ s, view (act s).state = view s

theorem LeavesAlone.forEach {act : β → Action σ Unit} {items : List β}
    (h : ∀ b ∈ items, (act b).LeavesAlone view) : (forEach act items).LeavesAlone view := by
  induction items with
  | nil => exact fun _ => rfl
  | cons b rest ih =>
    obtain ⟨hfirst, hrest⟩ := List.forall_mem_cons.1 h
    intro s
    unfold Action.forEach andThen
    dsimp only
    split
    · exact hfirst s
    · exact (ih hrest _).trans (hfirst s)

end Action

/-! ## Changes of entities -/

section Changes

variable {γ : Type} {view : Slot → γ} {registry changed : Registry} {change : Entity → Entity}

/-- What a view shows of the slots of a registry. -/
def Registry.seen (view : Slot → γ) (registry : Registry) : List γ := registry.slots.map view

/-- A view does not show what a change does to an entity. -/
def Hides (view : Slot → γ) (change : Entity → Entity) : Prop :=
  ∀ slot : Slot, view { slot with entity := change slot.entity } = view slot

/-- What is true of all slots as they are seen is true of all slots that look the same. -/
theorem forall_of_seen {P : γ → Prop} (heq : changed.seen view = registry.seen view)
    (h : ∀ slot ∈ registry.slots, P (view slot)) : ∀ slot ∈ changed.slots, P (view slot) := by
  intro slot hin
  have hseen : view slot ∈ registry.seen view := heq ▸ List.mem_map_of_mem hin
  obtain ⟨former, hformer, hview⟩ := List.mem_map.1 hseen
  exact hview ▸ h former hformer

theorem Slot.seen_update {slot other : Slot} (h : slot.update change = .ok other)
    (hc : Hides view change) : view other = view slot := by
  unfold Slot.update at h
  split at h
  · cases h
  · cases h
    exact hc slot

theorem Registry.seen_updatePlace {place : Nat}
    (h : registry.updatePlace place change = .ok changed) (hc : Hides view change) :
    changed.seen view = registry.seen view := by
  unfold Registry.updatePlace Registry.updateAt at h
  split at h
  · cases h
  · rename_i slot hslot
    split at h
    · cases h
    · rename_i new hnew
      cases h
      obtain ⟨hlt, rfl⟩ := List.getElem?_eq_some_iff.1 hslot
      unfold Registry.seen
      rw [List.map_set, Slot.seen_update hnew hc]
      apply List.ext_getElem?
      intro i
      by_cases hi : place = i
      · subst hi
        simp [hlt]
      · simp [hi]

theorem Registry.seen_freeze {name : String} (h : registry.freeze name = .ok changed)
    (hf : ∀ slot : Slot, view { slot with frozen := true } = view slot) :
    changed.seen view = registry.seen view := by
  unfold Registry.freeze at h
  split at h
  · cases h
  · cases h
    apply List.ext_getElem?
    intro i
    simp only [Registry.seen, List.getElem?_map, List.getElem?_modify]
    split <;> cases registry.slots[i]? <;> simp [hf]

theorem Slot.seen_changeAll {change : Entity → Except Failure Entity}
    (hc : ∀ (slot : Slot) (other : Entity), change slot.entity = .ok other →
      view { slot with entity := other } = view slot) (slots : List Slot) :
    (changeAll change slots).1.map view = slots.map view := by
  induction slots with
  | nil => rfl
  | cons slot rest ih =>
    unfold changeAll
    split
    · rfl
    · split
      · rfl
      · rename_i other hother
        simp only [List.map_cons, ih, hc slot other hother]

end Changes

/-! ## Relationships -/

section Relationships

variable {γ : Type} {view : Slot → γ}
  (hr : ∀ (change : Entity → List Relationship),
    Hides view fun entity => { entity with relationships := change entity })

include hr

theorem seen_setRelationships (slots : List Slot) (relationships : List (List Relationship)) :
    (setRelationships slots relationships).1.map view = slots.map view := by
  induction slots generalizing relationships with
  | nil => cases relationships <;> rfl
  | cons slot rest ih =>
    cases relationships with
    | nil => rfl
    | cons first others =>
      unfold setRelationships
      split
      · rfl
      · rename_i changed hchanged
        simp only [List.map_cons, ih, Slot.seen_update hchanged (hr fun _ => first)]

theorem seen_appendAll {registry : Registry} (additions : List Addition) :
    (appendAll registry additions).1.seen view = registry.seen view := by
  induction additions generalizing registry with
  | nil => rfl
  | cons addition rest ih =>
    unfold appendAll
    dsimp only
    split
    · rfl
    · rename_i changed hchanged
      rw [ih, Registry.seen_updatePlace hchanged (hr _)]

end Relationships

/-! ## Keys -/

section Keys

variable {γ : Type} {view : Slot → γ}
  (hk : ∀ (change : Entity → Option PrimaryKey),
    Hides view fun entity => { entity with primaryKey := change entity })

include hk

theorem seen_ownKeys {registry : Registry} (places : List Nat) :
    (ownKeys registry places).1.seen view = registry.seen view := by
  induction places generalizing registry with
  | nil => rfl
  | cons place rest ih =>
    unfold ownKeys
    split
    · exact ih
    · split
      · split
        · rfl
        · rename_i changed hchanged
          rw [ih, Registry.seen_updatePlace hchanged (hk _)]
      · exact ih

theorem seen_borrowPass {registry : Registry} (waiting : List Nat) :
    (borrowPass registry waiting).1.seen view = registry.seen view := by
  induction waiting generalizing registry with
  | nil => rfl
  | cons place rest ih =>
    unfold borrowPass
    split
    · exact ih
    · split
      · split
        · rfl
        · rename_i changed hchanged
          rw [ih, Registry.seen_updatePlace hchanged (hk _)]
      · exact ih

theorem seen_borrowKeys {registry : Registry} (passes : Nat) (waiting : List Nat) :
    (borrowKeys passes registry waiting).1.seen view = registry.seen view := by
  induction passes generalizing registry waiting with
  | zero => cases waiting <;> rfl
  | succ passes ih =>
    cases waiting with
    | nil => rfl
    | cons place rest =>
      have hpass : (borrowPass registry (place :: rest)).1.seen view = registry.seen view :=
        seen_borrowPass hk _
      unfold borrowKeys
      dsimp only
      split
      · exact hpass
      · split
        · rw [ih, hpass]
        · exact hpass

theorem seen_deriveKeys {registry : Registry} :
    (deriveKeys registry).1.seen view = registry.seen view := by
  have hown : (ownKeys registry registry.places).1.seen view = registry.seen view :=
    seen_ownKeys hk _
  unfold deriveKeys
  dsimp only
  split
  · exact hown
  · rw [seen_borrowKeys hk, hown]

/-- However far relating gets, it changes no more than relationships and keys. -/
theorem seen_relate {registry : Registry}
    (hr : ∀ (change : Entity → List Relationship),
      Hides view fun entity => { entity with relationships := change entity }) :
    (relate registry).1.seen view = registry.seen view := by
  unfold relate
  split
  · rfl
  · rename_i relationships _
    have hset : Registry.seen view ⟨(setRelationships registry.slots relationships).1⟩ =
        registry.seen view := seen_setRelationships hr _ _
    dsimp only
    split
    · exact hset
    · split
      · rw [seen_appendAll hr, hset]
      · split
        · rw [seen_appendAll hr, hset]
        · split <;> rw [seen_deriveKeys hk, seen_appendAll hr, hset]

end Keys

/-! ## Phases -/

theorem seen_prepareEntities {γ : Type} {view : Slot → γ}
    (hc : ∀ names, Hides view fun entity => { entity with names := names }) :
    prepareEntities.LeavesAlone fun context => context.entities.seen view := by
  intro context
  refine Slot.seen_changeAll (fun slot other hother => ?_) context.entities.slots
  cases hother
  exact hc _ slot

theorem seen_prepareFields {γ : Type} {view : Slot → γ}
    (hc : ∀ fields, Hides view fun entity => { entity with fields := fields }) :
    prepareFields.LeavesAlone fun context => context.entities.seen view := by
  intro context
  refine Slot.seen_changeAll (fun slot other hother => ?_) context.entities.slots
  cases hfields : entityFields slot.entity context.config with
  | error e =>
    rw [hfields] at hother
    cases hother
  | ok fields =>
    rw [hfields] at hother
    cases hother
    exact hc fields slot

theorem seen_finishEntity {γ : Type} {view : Slot → γ}
    (hs : ∀ sums, Hides view fun entity => { entity with aggregates := sums })
    (hf : ∀ slot : Slot, view { slot with frozen := true } = view slot) (place : Nat)
    (sums : EntityAggregates) :
    (finishEntity place sums).LeavesAlone fun context => context.entities.seen view := by
  intro context
  unfold finishEntity
  split
  · rfl
  · rename_i changed hchanged
    have hsums := Registry.seen_updatePlace hchanged (hs sums)
    split
    · exact hsums
    · split
      · exact hsums
      · rename_i frozen hfrozen
        exact (Registry.seen_freeze hfrozen hf).trans hsums

/-- However far it gets, finishing an entity changes the registry alone. -/
theorem exists_state_finishEntity (place : Nat) (sums : EntityAggregates) (context : Context) :
    ∃ entities, (finishEntity place sums context).state = { context with entities } := by
  unfold finishEntity
  split
  · exact ⟨context.entities, rfl⟩
  · split
    · exact ⟨_, rfl⟩
    · split <;> exact ⟨_, rfl⟩

theorem Phase.leavesAlone_freeze {γ : Type} {view : Context → γ}
    (h : ∀ place sums, (finishEntity place sums).LeavesAlone view) :
    (Phase.run .freeze).LeavesAlone view := by
  intro context
  have hall : ∀ items, (Action.forEach (fun (place, sums) => finishEntity place sums)
      items).LeavesAlone view := fun _ => .forEach fun item _ => h item.1 item.2
  exact hall _ context

end EntityPipeline
