-- Phases in any order. Whatever phases a context goes through, and whichever of them fail, its
-- entities are all open or all frozen, and every relationship leads to the entity it names. A
-- frozen entity stays as it is, with sums that agree with its fields and relationships, until the
-- registry is filled anew.
import EntityPipeline.Proofs.Preparation.Freezing
import EntityPipeline.Proofs.Preparation.Given
import EntityPipeline.Proofs.Preparation.Provenance
import EntityPipeline.Proofs.Preparation.Relating
import EntityPipeline.Proofs.Preparation.StablePlaces

namespace EntityPipeline

/-- Goes through phases one after another; one that fails does not stop the next. -/
def Phase.afterAll (phases : List Phase) (context : Context) : Context :=
  phases.foldl (fun context phase => (phase.run context).state) context

namespace Registry

/-- No entity is frozen. -/
def NoneFrozen (registry : Registry) : Prop := ∀ slot ∈ registry.slots, slot.frozen = false

/-- All entities are frozen. -/
def AllFrozen (registry : Registry) : Prop := ∀ slot ∈ registry.slots, slot.frozen = true

/-- A relationship has the place of the entity that it names as its target. -/
structure Leads (registry : Registry) (relationship : Relationship) (place : Nat)
    (entity : Entity) : Prop where
  target : relationship.target = some place
  place_of_name : registry.placeOf? relationship.otherEntity = some place
  resolves : registry.resolve? place = some entity
  name : entity.name = relationship.otherEntity

end Registry

/-- What holds of a context whichever phases it went through. -/
structure Context.FreezesAsOne (context : Context) : Prop where
  whole : context.entities.NoneFrozen ∨ context.entities.AllFrozen
  /-- Only configuring and loading go on from frozen entities. -/
  refused : context.entities.AllFrozen → context.entities.slots ≠ [] → ∀ phase : Phase,
    phase ≠ .configure → phase ≠ .load → ∃ e, (phase.run context).result = .error e
  /-- Only loading changes frozen entities. -/
  kept : context.entities.AllFrozen → ∀ phase : Phase, phase ≠ .load →
    (phase.run context).state.entities = context.entities
  /-- Loading fills the registry with bare entities and nothing else. -/
  filled : (loadEntities context).result = .ok () ∧
    (loadEntities context).state.entities = .unfrozen (bareEntities context) ∧
    ∀ entity ∈ bareEntities context, entity.IsBare
  /-- The sums of a frozen entity are those over the registry as it is. -/
  summed : context.entities.AllFrozen → ∀ slot ∈ context.entities.slots,
    slot.entity.aggregates = aggregates context.entities slot.entity

variable {registry other : Registry} {context : Context} {entities : List Entity}

/-! ## What is kept all through -/

/-- Entities stand under their own names, which differ, and the targets of their relationships are
the places of the names. -/
structure Registry.Sound (registry : Registry) : Prop where
  own_names : ∀ slot ∈ registry.slots, slot.entity.name = slot.name
  names_nodup : registry.names.Nodup
  leads : ∀ slot ∈ registry.slots, ∀ r ∈ slot.entity.relationships,
    ∃ place, r.target = some place ∧ registry.names[place]? = some r.otherEntity

/-- Entities that are frozen have their sums. -/
def Registry.Summed (registry : Registry) : Prop :=
  ∀ slot ∈ registry.slots, slot.entity.aggregates = aggregates registry slot.entity

/-- What every phase keeps of a registry. -/
structure Registry.Kept (registry : Registry) : Prop extends registry.Sound where
  whole : registry.NoneFrozen ∨ registry.AllFrozen ∧ registry.Summed

/-- The sources of a context stand under the names of their definitions, which differ. -/
structure Context.IsNamed (context : Context) : Prop where
  keys_nodup : (context.declared.map Prod.fst).Nodup
  own_names : ∀ entry ∈ context.declared, entry.2.name = entry.1

/-- The part of a slot that tells whether a registry is sound. -/
structure Slot.Shape where
  name : String
  entityName : String
  relationships : List Relationship

def Slot.shape (slot : Slot) : Slot.Shape :=
  ⟨slot.name, slot.entity.name, slot.entity.relationships⟩

theorem names_of_seen (heq : other.seen Slot.shape = registry.seen Slot.shape) :
    other.names = registry.names := by
  have hnames := congrArg (List.map Slot.Shape.name) heq
  rwa [Registry.seen, Registry.seen, List.map_map, List.map_map] at hnames

theorem Registry.Sound.of_seen (h : registry.Sound)
    (heq : other.seen Slot.shape = registry.seen Slot.shape) : other.Sound where
  own_names := forall_of_seen (P := fun shape => shape.entityName = shape.name) heq h.own_names
  names_nodup := names_of_seen heq ▸ h.names_nodup
  leads := by
    rw [names_of_seen heq]
    exact forall_of_seen (P := fun shape => ∀ r ∈ shape.relationships,
      ∃ place, r.target = some place ∧ registry.names[place]? = some r.otherEntity) heq h.leads

/-- A registry that looks like one that is open and sound is kept. -/
theorem Registry.Sound.kept_of_seen (h : registry.Sound) (hopen : registry.NoneFrozen)
    (heq : other.seen Slot.shape = registry.seen Slot.shape)
    (hfrozen : other.seen Slot.frozen = registry.seen Slot.frozen) : other.Kept :=
  ⟨h.of_seen heq, Or.inl (forall_of_seen (P := fun frozen => frozen = false) hfrozen hopen)⟩

theorem noneFrozen_unfrozen (entities : List Entity) : (Registry.unfrozen entities).NoneFrozen := by
  simp [Registry.NoneFrozen, Registry.unfrozen]

/-- An open registry is told by its entities. -/
theorem Registry.Sound.eq_unfrozen (h : registry.Sound) (hopen : registry.NoneFrozen) :
    registry = .unfrozen registry.entities := by
  obtain ⟨slots⟩ := registry
  unfold Registry.unfrozen Registry.entities
  rw [List.map_map, Registry.mk.injEq]
  refine (Eq.trans (List.map_congr_left fun slot hin => ?_) (List.map_id _)).symm
  have hname := h.own_names slot hin
  have hslot := hopen slot hin
  cases slot
  simp_all

/-- The entities of an open registry, told as a list. -/
theorem sound_unfrozen_iff : (Registry.unfrozen entities).Sound ↔
    (entities.map Entity.name).Nodup ∧ ∀ entity ∈ entities, ∀ r ∈ entity.relationships,
      ∃ place, r.target = some place ∧ (entities.map Entity.name)[place]? = some r.otherEntity := by
  rw [← Registry.names_unfrozen]
  constructor
  · intro h
    exact ⟨h.names_nodup, fun entity hin => h.leads _ (List.mem_map_of_mem hin)⟩
  · rintro ⟨hnodup, hleads⟩
    refine ⟨fun slot hin => ?_, hnodup, fun slot hin => ?_⟩
    · obtain ⟨entity, _, rfl⟩ := List.mem_map.1 hin
      rfl
    · obtain ⟨entity, hentity, rfl⟩ := List.mem_map.1 hin
      exact hleads entity hentity

/-! ## Relating -/

/-- Relationships whose other entities are all registered lead to them, and so do the other sides
that are added. -/
theorem sound_related (hnodup : (entities.map Entity.name).Nodup)
    (hfound : ∀ entity ∈ entities, ∀ r ∈ entity.definition.relationships,
      r.otherEntity ∈ entities.map Entity.name) : (Registry.unfrozen (related entities)).Sound := by
  have hnames : (related entities).map Entity.name = entities.map Entity.name := by
    apply List.ext_getElem?
    intro place
    rw [List.getElem?_map, getElem?_related, List.getElem?_map]
    cases entities[place]? <;> rfl
  refine sound_unfrozen_iff.2 ⟨hnames ▸ hnodup, ?_⟩
  rw [hnames]
  intro entity hin r hr
  obtain ⟨place, former, hformer, rfl⟩ := exists_of_mem_related hin
  rcases List.mem_append.1 hr with hr | hr
  · obtain ⟨definition, hdefinition, rfl⟩ := List.mem_map.1 hr
    obtain ⟨found, hfound, hname⟩ := getElem?_placeIn
      (hfound former (List.mem_of_getElem? hformer) definition hdefinition)
    exact ⟨_, rfl, by rw [List.getElem?_map, hfound, Option.map_some, hname]; rfl⟩
  · obtain ⟨source, owner, definition, inverse, howner, _, _, _, rfl⟩ := mem_addedAt hr
    exact ⟨source, rfl, by rw [List.getElem?_map, howner]; rfl⟩

/-- Relating an open registry keeps it open and sound, however far it gets. -/
theorem Registry.Sound.kept_relate (h : registry.Sound) (hopen : registry.NoneFrozen) :
    (relate registry).1.Kept := by
  have heq := h.eq_unfrozen hopen
  rw [heq] at h ⊢
  generalize registry.entities = entities at h
  have hunchanged : (Registry.unfrozen entities).Kept := ⟨h, Or.inl (noneFrozen_unfrozen _)⟩
  rcases resolveAll_outcome entities entities with ⟨hfound, hok⟩ | ⟨_, _, _, _, _, herror⟩
  · have hrelated := sound_related (sound_unfrozen_iff.1 h).1 hfound
    rw [relate_eq hok]
    split
    · exact ⟨hrelated, Or.inl (noneFrozen_unfrozen _)⟩
    · -- deriving keys shows neither names nor relationships
      have hkeys : (keyAndCheck (.unfrozen (related entities))).1 =
          (deriveKeys (.unfrozen (related entities))).1 := by
        unfold keyAndCheck
        dsimp only
        split <;> rfl
      rw [hkeys]
      exact hrelated.kept_of_seen (noneFrozen_unfrozen _) (seen_deriveKeys fun _ _ => rfl)
        (seen_deriveKeys fun _ _ => rfl)
  · unfold relate
    rw [herror]
    exact hunchanged

/-! ## Freezing -/

/-- Sums depend on a registry only by the options of its entities. -/
theorem aggregates_congr {entity : Entity}
    (h : ∀ place, (other.resolve? place).map Entity.options =
      (registry.resolve? place).map Entity.options) :
    aggregates other entity = aggregates registry entity := by
  have hembedded : ∀ r : Relationship,
      (r.target.bind other.resolve?).any (·.options.embedded) =
        (r.target.bind registry.resolve?).any (·.options.embedded) := by
    intro r
    cases r.target with
    | none => rfl
    | some place =>
      have hplace := congrArg (Option.any (·.embedded)) (h place)
      rwa [Option.any_map, Option.any_map] at hplace
  simp only [aggregates, hembedded]

/-- Finishing all entities of an open registry keeps it sound. -/
theorem kept_finished (h : (Registry.unfrozen entities).Sound) :
    Registry.Kept ⟨entities.map (finished (.unfrozen entities))⟩ := by
  refine ⟨h.of_seen ?_, Or.inr ⟨?_, ?_⟩⟩
  · simp [Registry.seen, Slot.shape, finished, Registry.unfrozen]
  · simp [Registry.AllFrozen, finished]
  · intro slot hin
    obtain ⟨entity, _, rfl⟩ := List.mem_map.1 hin
    refine (aggregates_congr fun place => ?_).symm
    simp [Registry.resolve?, finished, Registry.unfrozen, Function.comp_def]

/-! ## Frozen entities -/

theorem changeAll_frozen {change : Entity → Except Failure Entity} {slots : List Slot}
    (h : ∀ slot ∈ slots, slot.frozen = true) : (Slot.changeAll change slots).1 = slots ∧
      (slots ≠ [] → ∃ e, (Slot.changeAll change slots).2 = .error e) := by
  cases slots with
  | nil => exact ⟨rfl, fun hne => absurd rfl hne⟩
  | cons slot rest =>
    unfold Slot.changeAll
    rw [if_pos (h slot List.mem_cons_self)]
    exact ⟨rfl, fun _ => ⟨_, rfl⟩⟩

theorem resolveAll_ne_nil {slots : List Slot} {relationships : List (List Relationship)}
    (h : resolveAll registry slots = .ok relationships) (hne : slots ≠ []) :
    relationships ≠ [] := by
  cases slots with
  | nil => exact absurd rfl hne
  | cons slot rest =>
    unfold resolveAll at h
    split at h
    · cases h
    · split at h <;> cases h
      exact List.cons_ne_nil _ _

/-- Frozen entities get no relationships, so relating ends there. -/
theorem relate_frozen (h : registry.AllFrozen) (hne : registry.slots ≠ []) :
    ∃ e, relate registry = (registry, .error e) := by
  unfold relate
  split
  · exact ⟨_, rfl⟩
  · rename_i relationships hresolved
    obtain ⟨slot, slots, hslots⟩ := List.exists_cons_of_ne_nil hne
    obtain ⟨first, others, rfl⟩ := List.exists_cons_of_ne_nil (resolveAll_ne_nil hresolved hne)
    have hslot : slot.frozen = true := h slot (hslots ▸ List.mem_cons_self)
    have hset : setRelationships registry.slots (first :: others) =
        (registry.slots, .error (.entityFrozen slot.name)) := by
      rw [hslots, setRelationships, Slot.update, if_pos hslot]
    rw [hset]
    exact ⟨_, rfl⟩

theorem relate_nil (h : registry.slots = []) : relate registry = (registry, .ok ()) := by
  obtain ⟨slots⟩ := registry
  subst h
  rfl

theorem updatePlace_frozen (h : registry.AllFrozen) (place : Nat) (change : Entity → Entity) :
    ∃ e, registry.updatePlace place change = .error e := by
  unfold Registry.updatePlace Registry.updateAt
  split
  · exact ⟨_, rfl⟩
  · rename_i slot hslot
    rw [Slot.update, if_pos (h slot (List.mem_of_getElem? hslot))]
    exact ⟨_, rfl⟩

theorem finishEntity_frozen (h : context.entities.AllFrozen) (place : Nat)
    (sums : EntityAggregates) : ∃ e, finishEntity place sums context = ⟨.error e, context, []⟩ := by
  obtain ⟨e, herror⟩ := updatePlace_frozen h place fun entity => { entity with aggregates := sums }
  unfold finishEntity
  rw [herror]
  exact ⟨e, rfl⟩

theorem forEach_finishEntity_frozen (h : context.entities.AllFrozen)
    (items : List (Nat × EntityAggregates)) :
    (Action.forEach (fun (place, sums) => finishEntity place sums) items context).state = context ∧
      (items ≠ [] → ∃ e, (Action.forEach (fun (place, sums) => finishEntity place sums)
        items context).result = .error e) := by
  cases items with
  | nil => exact ⟨rfl, fun hne => absurd rfl hne⟩
  | cons item rest =>
    obtain ⟨e, herror⟩ := finishEntity_frozen h item.1 item.2
    simp [Action.forEach, Action.andThen, herror]

theorem postPrepareEntities_frozen (h : context.entities.AllFrozen) :
    (postPrepareEntities context).state = context ∧
      (context.entities.slots ≠ [] → ∃ e, (postPrepareEntities context).result = .error e) := by
  have hall := forEach_finishEntity_frozen h (context.entities.places.zip
    (context.entities.entities.map (aggregates context.entities)))
  refine ⟨hall.1, fun hne => hall.2 fun hnil => hne ?_⟩
  have hlength := congrArg List.length hnil
  simpa [Registry.places, Registry.entities, Registry.size] using hlength

theorem Phase.entities_frozen (h : context.entities.AllFrozen) {phase : Phase} (hp : phase ≠ .load) :
    (phase.run context).state.entities = context.entities := by
  cases phase with
  | configure => rfl
  | load => exact absurd rfl hp
  | names | fields => exact congrArg Registry.mk (changeAll_frozen h).1
  | relationships =>
    by_cases hnil : context.entities.slots = []
    · exact congrArg Prod.fst (relate_nil hnil)
    · obtain ⟨e, herror⟩ := relate_frozen h hnil
      exact congrArg Prod.fst herror
  | freeze => rw [Phase.run, (postPrepareEntities_frozen h).1]

theorem Phase.fails_frozen (h : context.entities.AllFrozen) (hne : context.entities.slots ≠ [])
    {phase : Phase} (hc : phase ≠ .configure) (hp : phase ≠ .load) :
    ∃ e, (phase.run context).result = .error e := by
  cases phase with
  | configure => exact absurd rfl hc
  | load => exact absurd rfl hp
  | names | fields => exact (changeAll_frozen h).2 hne
  | relationships =>
    obtain ⟨e, herror⟩ := relate_frozen h hne
    exact ⟨e, congrArg Prod.snd herror⟩
  | freeze => exact (postPrepareEntities_frozen h).2 hne

/-! ## One phase -/

theorem name_managedUser (context : Context) : (managedUser context).name = userEntity := by
  unfold managedUser
  dsimp only
  split <;> rfl

theorem nodup_bareEntities (h : context.IsNamed) :
    ((bareEntities context).map Entity.name).Nodup := by
  let others := context.sources.filter fun source =>
    !(managesUsers context.config && source.1 == userEntity)
  have hkeys : (others.map fun source => source.2.definition.name) = others.map Prod.fst :=
    List.map_congr_left fun source hin =>
      h.own_names (source.1, source.2.definition) (List.mem_map_of_mem (List.mem_filter.1 hin).1)
  have hothers : (others.map Prod.fst).Nodup := by
    refine List.Nodup.sublist (List.filter_sublist.map _) ?_
    have hall := h.keys_nodup
    rwa [Context.declared, List.map_map] at hall
  have hnames : (bareEntities context).map Entity.name =
      (if managesUsers context.config then [userEntity] else []) ++ others.map Prod.fst := by
    rw [← hkeys, bareEntities, List.map_append, List.map_map]
    congr 1
    split
    · rw [List.map_singleton, name_managedUser]
    · rfl
  rw [hnames]
  split
  · rename_i hmanaged
    refine List.nodup_append'.2 ⟨List.nodup_singleton _, hothers, ?_⟩
    rw [List.singleton_disjoint]
    intro hin
    obtain ⟨source, hsource, hkey⟩ := List.mem_map.1 hin
    have hother := (List.mem_filter.1 hsource).2
    simp [hmanaged, hkey] at hother
  · exact hothers

/-- Loading fills the registry with bare entities, whatever was in it. -/
theorem loadEntities_of_isNamed (h : context.IsNamed) : loadEntities context =
    ⟨.ok (), { context with entities := .unfrozen (bareEntities context) }, []⟩ :=
  loadEntities_of_nodup (nodup_bareEntities h)

theorem sound_bareEntities (h : context.IsNamed) :
    (Registry.unfrozen (bareEntities context)).Sound := by
  refine sound_unfrozen_iff.2 ⟨nodup_bareEntities h, fun entity hin r hr => ?_⟩
  rw [(isBare_of_mem_bareEntities hin).relationships] at hr
  cases hr

/-- A phase keeps what holds of open entities. -/
theorem Phase.kept_open (hn : context.IsNamed) (hs : context.entities.Sound)
    (hopen : context.entities.NoneFrozen) (phase : Phase) :
    (phase.run context).state.entities.Kept := by
  have hkept : context.entities.Kept := ⟨hs, Or.inl hopen⟩
  cases phase with
  | configure => exact hkept
  | load =>
    rw [Phase.run, loadEntities_of_isNamed hn]
    exact ⟨sound_bareEntities hn, Or.inl (noneFrozen_unfrozen _)⟩
  | names =>
    exact hs.kept_of_seen hopen (seen_prepareEntities (fun _ _ => rfl) context)
      (seen_prepareEntities (fun _ _ => rfl) context)
  | fields =>
    exact hs.kept_of_seen hopen (seen_prepareFields (fun _ _ => rfl) context)
      (seen_prepareFields (fun _ _ => rfl) context)
  | relationships => exact hs.kept_relate hopen
  | freeze =>
    have heq := hs.eq_unfrozen hopen
    rw [heq] at hs
    rw [Phase.run, (postPrepareEntities_eq heq (sound_unfrozen_iff.1 hs).1).2]
    exact kept_finished hs

theorem Phase.kept_run (hn : context.IsNamed) (h : context.entities.Kept) (phase : Phase) :
    (phase.run context).state.entities.Kept := by
  rcases h.whole with hopen | ⟨hfrozen, _⟩
  · exact kept_open hn h.toSound hopen phase
  · by_cases hload : phase = .load
    · subst hload
      rw [Phase.run, loadEntities_of_isNamed hn]
      exact ⟨sound_bareEntities hn, Or.inl (noneFrozen_unfrozen _)⟩
    · rw [entities_frozen hfrozen hload]
      exact h

theorem Phase.isNamed_run (h : context.IsNamed) (phase : Phase) :
    (phase.run context).state.IsNamed := by
  have hdeclared := phase.declared_run context
  exact ⟨hdeclared ▸ h.keys_nodup, hdeclared ▸ h.own_names⟩

/-! ## Any phases -/

theorem Phase.kept_afterAll (phases : List Phase) (hn : context.IsNamed)
    (h : context.entities.Kept) :
    (Phase.afterAll phases context).IsNamed ∧ (Phase.afterAll phases context).entities.Kept := by
  induction phases generalizing context with
  | nil => exact ⟨hn, h⟩
  | cons phase rest ih => exact ih (isNamed_run hn phase) (kept_run hn h phase)

theorem Context.IsGiven.isNamed (h : context.IsGiven) : context.IsNamed where
  keys_nodup := by
    have hkeys := h.distinct
    rwa [declared, List.map_map]
  own_names := by
    intro entry hin
    obtain ⟨source, hsource, rfl⟩ := List.mem_map.1 hin
    exact (congrArg Prod.fst (h.unresolved source hsource)).symm

theorem kept_afterAll_ofDefinitions (config : ApplicationConfig)
    (definitions : List EntityDefinition) (phases : List Phase) :
    (Phase.afterAll phases (.ofDefinitions config definitions)).IsNamed ∧
      (Phase.afterAll phases (.ofDefinitions config definitions)).entities.Kept := by
  have hgiven := Context.isGiven_ofDefinitions config definitions
  refine Phase.kept_afterAll phases hgiven.isNamed ?_
  rw [hgiven.unprepared]
  exact ⟨⟨List.forall_mem_nil _, List.nodup_nil, List.forall_mem_nil _⟩,
    Or.inl (List.forall_mem_nil _)⟩

/-- Whatever phases a context of definitions goes through, it freezes as one: all entities are open
or all are frozen, frozen ones have their sums and do not change, and only loading opens them. -/
theorem freezesAsOne_afterAll (config : ApplicationConfig) (definitions : List EntityDefinition)
    (phases : List Phase) :
    (Phase.afterAll phases (.ofDefinitions config definitions)).FreezesAsOne := by
  obtain ⟨hnamed, hkept⟩ := kept_afterAll_ofDefinitions config definitions phases
  have hload := loadEntities_of_isNamed hnamed
  refine ⟨hkept.whole.imp_right And.left, ?_, ?_, ?_, ?_⟩
  · exact fun hfrozen hne _ hc hl => Phase.fails_frozen hfrozen hne hc hl
  · exact fun hfrozen _ hl => Phase.entities_frozen hfrozen hl
  · exact ⟨congrArg Outcome.result hload, congrArg (·.state.entities) hload,
      fun _ => isBare_of_mem_bareEntities⟩
  · intro hfrozen slot hin
    rcases hkept.whole with hopen | ⟨_, hsummed⟩
    · -- what is open and frozen at once has no entities
      exact absurd (hfrozen slot hin) (by simp [hopen slot hin])
    · exact hsummed slot hin

/-- Frozen entities stay frozen whatever fails on them. -/
example : (Phase.afterAll [.load, .freeze, .names, .relationships] (.ofDefinitions
    { skipUserManagement := true } [{ name := "Author" }, { name := "Book" }])).entities.slots.map
      Slot.frozen = [true, true] := by
  decide +kernel

/-! ## Relationships that lead -/

/-- Every relationship of an entity leads to the entity it names. -/
def Registry.AllLead (registry : Registry) : Prop :=
  ∀ slot ∈ registry.slots, ∀ r ∈ slot.entity.relationships,
    ∃ place entity, registry.Leads r place entity

theorem Registry.Sound.allLead (h : registry.Sound) : registry.AllLead := by
  intro slot hin r hr
  obtain ⟨place, htarget, hname⟩ := h.leads slot hin r hr
  have hat := hname
  rw [names, List.getElem?_map] at hat
  obtain ⟨found, hfound, hother⟩ := Option.map_eq_some_iff.1 hat
  refine ⟨place, found.entity, htarget, placeOf?_of_nodup h.names_nodup hname, ?_, ?_⟩
  · rw [resolve?, hfound]
    rfl
  · rw [h.own_names found (List.mem_of_getElem? hfound), hother]

/-- Whatever phases a context of definitions goes through, every relationship of its entities,
declared or added, has the place of the entity that it names as its target. -/
theorem allLead_afterAll (config : ApplicationConfig) (definitions : List EntityDefinition)
    (phases : List Phase) :
    (Phase.afterAll phases (.ofDefinitions config definitions)).entities.AllLead :=
  (kept_afterAll_ofDefinitions config definitions phases).2.toSound.allLead

/-- A side that is added leads back, after phases that fail and phases that start anew. -/
example :
    let author : RelationshipDefinition :=
      { cardinality := .manyToOne, otherEntity := "Author", inverseName := some "book" }
    ((Phase.afterAll [.freeze, .load, .relationships, .load, .relationships, .freeze]
      (.ofDefinitions { skipUserManagement := true }
        [{ name := "Book", relationships := [author] }, { name := "Author" }])).entities.entities.map
          fun entity => entity.relationships.map fun r => (r.otherEntity, r.target)) =
      [[("Author", some 1)], [("Book", some 0)]] := by
  decide +kernel

end EntityPipeline
