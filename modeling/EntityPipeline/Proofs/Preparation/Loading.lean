-- From definitions to bare entities. Every definition is a source under its own name, and every
-- source is registered once, the built-in user merged with what is supplied for it.
import EntityPipeline.Preparation.Load
import EntityPipeline.Preparation.Options
import EntityPipeline.Proofs.Preparation.FirstFailure
import Mathlib.Data.List.Nodup

namespace EntityPipeline

/-! ## Registries without frozen entities -/

/-- The registry of entities that are not frozen, each under its own name. -/
def Registry.unfrozen (entities : List Entity) : Registry :=
  ⟨entities.map fun entity => ⟨entity.name, entity, false⟩⟩

namespace Registry

variable {entities : List Entity} {place : Nat} {change : Entity → Entity}

@[simp] theorem names_unfrozen : (unfrozen entities).names = entities.map Entity.name := by
  simp [names, unfrozen]

@[simp] theorem entities_unfrozen : (unfrozen entities).entities = entities := by
  simp [Registry.entities, unfrozen, Function.comp_def]

@[simp] theorem places_unfrozen : (unfrozen entities).places = List.range entities.length := by
  simp [places, size, unfrozen]

@[simp] theorem resolve?_unfrozen : (unfrozen entities).resolve? place = entities[place]? := by
  simp [resolve?, unfrozen, Function.comp_def]

@[simp] theorem placeOf?_unfrozen {name : String} :
    (unfrozen entities).placeOf? name = entities.findIdx? (·.name == name) := by
  simp [placeOf?, unfrozen, List.findIdx?_map, Function.comp_def]

theorem get?_unfrozen {name : String} :
    (unfrozen entities).get? name = entities.find? (·.name == name) := by
  simp [get?, slot?, unfrozen, List.find?_map, Function.comp_def]

theorem slots_unfrozen_cons (entity : Entity) (rest : List Entity) :
    (unfrozen (entity :: rest)).slots = ⟨entity.name, entity, false⟩ :: (unfrozen rest).slots := rfl

/-- One entity is changed, the others stay. -/
theorem updatePlace_unfrozen (hlt : place < entities.length)
    (hname : ∀ entity, (change entity).name = entity.name) :
    (unfrozen entities).updatePlace place change =
      .ok (unfrozen (entities.modify place change)) := by
  unfold updatePlace updateAt unfrozen
  simp only [List.getElem?_map, List.getElem?_eq_getElem hlt, Option.map_some, Slot.update,
    Bool.false_eq_true, if_false, Except.ok.injEq, Registry.mk.injEq]
  apply List.ext_getElem?
  intro i
  by_cases hi : place = i
  · subst hi
    simp [hlt, hname]
  · simp [hi]

end Registry

/-- Entities that are registered in order under distinct names are all registered. -/
theorem registerAll_eq {registered entities : List Entity}
    (hn : ((registered ++ entities).map Entity.name).Nodup) :
    registerAll (.unfrozen registered) entities = (.unfrozen (registered ++ entities), .ok ()) := by
  induction entities generalizing registered with
  | nil => simp [registerAll]
  | cons entity rest ih =>
    have hnew : entity.name ∉ registered.map Entity.name := by
      rw [List.map_append] at hn
      exact fun hin => List.disjoint_of_nodup_append hn hin List.mem_cons_self
    have hinsert : (Registry.unfrozen registered).insert entity =
        .ok (.unfrozen (registered ++ [entity]), (Registry.unfrozen registered).size) := by
      unfold Registry.insert
      rw [Registry.names_unfrozen]
      simp [hnew, Registry.unfrozen]
    unfold registerAll
    rw [hinsert]
    simp only
    rw [ih (by simpa using hn)]
    simp

/-- A change of all entities that keeps their names goes through them up to the first failure. -/
theorem changeAll_unfrozen {change : Entity → Except Failure Entity}
    (hname : ∀ entity other, change entity = .ok other → other.name = entity.name)
    (entities : List Entity) :
    match entities.mapM change with
    | .ok changed => Slot.changeAll change (Registry.unfrozen entities).slots =
        ((Registry.unfrozen changed).slots, .ok ())
    | .error e => (Slot.changeAll change (Registry.unfrozen entities).slots).2 = .error e := by
  induction entities with
  | nil => rfl
  | cons entity rest ih =>
    rw [mapM_cons_eq, Registry.slots_unfrozen_cons]
    unfold Slot.changeAll
    simp only [Bool.false_eq_true, if_false]
    cases hentity : change entity with
    | error e => rfl
    | ok other =>
      cases hrest : rest.mapM change with
      | error e =>
        rw [hrest] at ih
        exact ih
      | ok changed =>
        rw [hrest] at ih
        simp only at ih ⊢
        rw [ih]
        simp [Registry.unfrozen, hname entity other hentity]

/-! ## Steps one after the other -/

theorem forEach_cons_of_ok {σ β : Type} {act : β → Action σ Unit} {b : β} {rest : List β}
    {state next : σ} {events : List Event} (h : act b state = ⟨.ok (), next, events⟩) :
    (Action.forEach act (b :: rest) state).result = (Action.forEach act rest next).result := by
  simp only [Action.forEach, Action.andThen, h]

theorem forEach_cons_of_error {σ β : Type} {act : β → Action σ Unit} {b : β} {rest : List β}
    {state : σ} {e : Failure} (h : (act b state).result = .error e) :
    (Action.forEach act (b :: rest) state).result = .error e := by
  simp [Action.forEach, Action.andThen, h]

theorem forEach_singleton {σ β : Type} (act : β → Action σ Unit) (b : β) (state : σ) :
    (Action.forEach act [b] state).result = (act b state).result := by
  cases h : (act b state).result with
  | error e => exact forEach_cons_of_error h
  | ok _ => simp [Action.forEach, Action.andThen, Action.give, h]

/-- Where all steps succeed, so does the first one, and the others go on from where it ends. -/
theorem forEach_cons_eq_ok {σ β : Type} {act : β → Action σ Unit} {b : β} {rest : List β}
    {state : σ} (h : (Action.forEach act (b :: rest) state).result = .ok ()) :
    (act b state).result = .ok () ∧
      (Action.forEach act rest (act b state).state).result = .ok () ∧
      (Action.forEach act (b :: rest) state).state =
        (Action.forEach act rest (act b state).state).state := by
  cases hfirst : (act b state).result with
  | error e =>
    rw [forEach_cons_of_error hfirst] at h
    cases h
  | ok _ =>
    simp only [Action.forEach, Action.andThen, hfirst] at h ⊢
    exact ⟨trivial, h, trivial⟩

/-! ## Sources -/

theorem putUnder_of_new {α : Type} {key : String} {value : α} {l : List (String × α)}
    (h : key ∉ l.map Prod.fst) : putUnder key value l = l ++ [(key, value)] := by
  induction l with
  | nil => rfl
  | cons entry rest ih =>
    simp only [List.map_cons, List.mem_cons, not_or] at h
    unfold putUnder
    rw [if_neg (by simpa using Ne.symm h.1), ih h.2]
    rfl

theorem ofDefinitions_eq {config : ApplicationConfig} {definitions : List EntityDefinition}
    (hn : (definitions.map EntityDefinition.name).Nodup) :
    Context.ofDefinitions config definitions =
      { config := config, sources := definitions.map fun d => (d.name, ⟨d, none⟩) } := by
  -- the sources so far have other names than the definitions that are left
  have hadd : ∀ (rest : List EntityDefinition) (context : Context),
      (context.sources.map Prod.fst ++ rest.map EntityDefinition.name).Nodup →
      rest.foldl Context.addDefinition context =
        { context with sources := context.sources ++ rest.map fun d => (d.name, ⟨d, none⟩) } := by
    intro rest
    induction rest with
    | nil => simp
    | cons d rest ih =>
      intro context hn
      have hnew : d.name ∉ context.sources.map Prod.fst := fun hin =>
        List.disjoint_of_nodup_append hn hin List.mem_cons_self
      have hone : context.addDefinition d =
          { context with sources := context.sources ++ [(d.name, ⟨d, none⟩)] } := by
        unfold Context.addDefinition
        rw [putUnder_of_new hnew]
      rw [List.foldl_cons, hone, ih _ (by simpa using hn)]
      simp
  unfold Context.ofDefinitions
  rw [hadd definitions _ (by simpa using hn)]
  rfl

/-- Definitions as sources with their options resolved. -/
def configured (config : ApplicationConfig) (definitions : List EntityDefinition) :
    List (String × EntitySource) :=
  definitions.map fun d =>
    (d.name, ⟨d, some (.resolve d.options (ResolvedOptions.defaults config))⟩)

/-- Sources are configured unless one of them has no name. -/
theorem configureSources_eq (config : ApplicationConfig) (definitions : List EntityDefinition) :
    if definitions.any (·.name == "") then
      (configureSources (ResolvedOptions.defaults config)
        (definitions.map fun d => (d.name, ⟨d, none⟩))).2 =
          .error (.configuration "an entity definition has no name")
    else configureSources (ResolvedOptions.defaults config)
      (definitions.map fun d => (d.name, ⟨d, none⟩)) = (configured config definitions, .ok ()) := by
  induction definitions with
  | nil => rfl
  | cons d rest ih =>
    simp only [List.map_cons, List.any_cons]
    unfold configureSources
    simp only [Bool.or_self]
    cases hname : d.name == "" with
    | true => simp
    | false =>
      simp only [Bool.false_or, Bool.false_eq_true, if_false]
      split at ih
      · rename_i hany
        simp [hany, ih]
      · rename_i hany
        simp only [hany, if_false, Bool.false_eq_true, ih]
        rfl

/-! ## Registered definitions -/

/-- The definition of the built-in user, with what is supplied for it merged in. -/
def mergedUser (config : ApplicationConfig) (definitions : List EntityDefinition) :
    EntityDefinition :=
  match definitions.find? (·.name == userEntity) with
  | some supplied => mergeUser (builtInUser config) supplied
  | none => builtInUser config

/-- Whether a definition is that of a user that the run manages. -/
def isManagedUser (config : ApplicationConfig) (definition : EntityDefinition) : Bool :=
  managesUsers config && definition.name == userEntity

theorem isManagedUser_iff {config : ApplicationConfig} {definition : EntityDefinition} :
    isManagedUser config definition = true ↔
      managesUsers config = true ∧ definition.name = userEntity := by
  simp [isManagedUser]

/-- The definitions that a run registers, in order. -/
def registered (config : ApplicationConfig) (definitions : List EntityDefinition) :
    List EntityDefinition :=
  (if managesUsers config then [mergedUser config definitions] else []) ++
    definitions.filter (!isManagedUser config ·)

theorem lookup_map_name {β : Type} (f : EntityDefinition → β) (name : String)
    (definitions : List EntityDefinition) :
    (definitions.map fun d => (d.name, f d)).lookup name =
      (definitions.find? (·.name == name)).map f := by
  induction definitions with
  | nil => rfl
  | cons d rest ih =>
    rw [List.map_cons, List.lookup_cons, List.find?_cons, ih, Bool.beq_comm]
    cases d.name == name <;> rfl

theorem name_mergedUser (config : ApplicationConfig) (definitions : List EntityDefinition) :
    (mergedUser config definitions).name = userEntity := by
  unfold mergedUser
  split <;> rfl

/-- An entity that only holds its definition. -/
structure Entity.IsBare (entity : Entity) : Prop where
  name : entity.name = entity.definition.name
  fields : entity.fields = []
  relationships : entity.relationships = []
  primaryKey : entity.primaryKey = none

/-- The bare entities of configured definitions are those of the registered ones. -/
theorem definition_bareEntities {context : Context} {definitions : List EntityDefinition}
    (hs : context.sources = configured context.config definitions) :
    (bareEntities context).map Entity.definition = registered context.config definitions := by
  have huser : (managedUser context).definition = mergedUser context.config definitions := by
    unfold managedUser mergedUser
    rw [hs, configured, lookup_map_name]
    cases definitions.find? (·.name == userEntity) <;> rfl
  unfold bareEntities registered
  rw [List.map_append, hs, configured, List.filter_map, List.map_map, List.map_map]
  congr 1
  · split
    · simp [huser]
    · rfl
  · exact List.map_id _

theorem isBare_of_mem_bareEntities {context : Context} {entity : Entity}
    (h : entity ∈ bareEntities context) : entity.IsBare := by
  rcases List.mem_append.1 h with h | h
  · split at h
    · rw [List.mem_singleton.1 h]
      exact ⟨rfl, rfl, rfl, rfl⟩
    · cases h
  · obtain ⟨source, _, rfl⟩ := List.mem_map.1 h
    exact ⟨rfl, rfl, rfl, rfl⟩

theorem nodup_registered {config : ApplicationConfig} {definitions : List EntityDefinition}
    (hn : (definitions.map EntityDefinition.name).Nodup) :
    ((registered config definitions).map EntityDefinition.name).Nodup := by
  have hothers : ((definitions.filter (!isManagedUser config ·)).map EntityDefinition.name).Nodup :=
    hn.sublist (List.filter_sublist.map _)
  unfold registered
  rw [List.map_append]
  split
  · rename_i hmanaged
    refine List.nodup_append'.2 ⟨List.nodup_singleton _, hothers, ?_⟩
    rw [List.map_singleton, List.singleton_disjoint, name_mergedUser]
    intro hin
    obtain ⟨d, hd, hname⟩ := List.mem_map.1 hin
    have hother := (List.mem_filter.1 hd).2
    simp [isManagedUser_iff.2 ⟨hmanaged, hname⟩] at hother
  · exact hothers

/-- Bare entities under distinct names are all registered. -/
theorem loadEntities_of_nodup {context : Context}
    (hn : ((bareEntities context).map Entity.name).Nodup) :
    loadEntities context =
      ⟨.ok (), { context with entities := .unfrozen (bareEntities context) }, []⟩ := by
  have hload : registerAll (.unfrozen []) (bareEntities context) =
      (.unfrozen ([] ++ bareEntities context), .ok ()) := registerAll_eq hn
  unfold loadEntities
  exact congrArg (fun done => Outcome.mk done.2 { context with entities := done.1 } []) hload

/-- Entities whose names are all new and distinct are registered in order; else one name is
reported. -/
theorem registerAll_ok {registered entities : List Entity}
    (hn : (registered.map Entity.name).Nodup)
    (h : (registerAll (.unfrozen registered) entities).2 = .ok ()) :
    ((registered ++ entities).map Entity.name).Nodup := by
  induction entities generalizing registered with
  | nil => simpa using hn
  | cons entity rest ih =>
    unfold registerAll Registry.insert at h
    rw [Registry.names_unfrozen] at h
    split at h
    · cases h
    · rename_i grown place hinsert
      split at hinsert
      · cases hinsert
      · rename_i hnew
        cases hinsert
        have hgrown : (⟨(Registry.unfrozen registered).slots ++ [⟨entity.name, entity, false⟩]⟩ :
            Registry) = .unfrozen (registered ++ [entity]) := by
          simp [Registry.unfrozen]
        rw [hgrown] at h
        have hnodup : ((registered ++ [entity]).map Entity.name).Nodup := by
          rw [List.map_append, List.map_singleton, List.nodup_append']
          refine ⟨hn, List.nodup_singleton _, ?_⟩
          rw [List.disjoint_singleton]
          simpa using hnew
        simpa using ih hnodup h

/-- A registry that was loaded holds bare entities under distinct names. -/
theorem loadEntities_ok {before : Context} (h : (loadEntities before).result = .ok ()) :
    ((bareEntities before).map Entity.name).Nodup ∧
      loadEntities before =
        ⟨.ok (), { before with entities := .unfrozen (bareEntities before) }, []⟩ := by
  have hnodup : (([] ++ bareEntities before).map Entity.name).Nodup :=
    registerAll_ok List.nodup_nil h
  exact ⟨hnodup, loadEntities_of_nodup hnodup⟩

/-- Loading registers the bare entities of all registered definitions. -/
theorem loadEntities_eq {context : Context} {definitions : List EntityDefinition}
    (hn : (definitions.map EntityDefinition.name).Nodup)
    (hs : context.sources = configured context.config definitions) :
    loadEntities context =
      ⟨.ok (), { context with entities := .unfrozen (bareEntities context) }, []⟩ := by
  have hnames : (bareEntities context).map Entity.name =
      (registered context.config definitions).map EntityDefinition.name := by
    rw [← definition_bareEntities hs, List.map_map]
    exact List.map_congr_left fun entity hin => (isBare_of_mem_bareEntities hin).name
  exact loadEntities_of_nodup (hnames ▸ nodup_registered hn)

end EntityPipeline
