-- Sources under blueprints. An applied blueprint keeps every source at its place and puts the
-- entities that were not there behind them. What it does not name it leaves alone; what it names
-- has a new definition and no options yet.
import EntityPipeline.Proofs.Project.Overrides

namespace EntityPipeline

open Json

variable {name : String} {context : Context} {entities : List (String × Json)}

theorem nodup_append_filter {l l' : List String} (h : l.Nodup) (h' : l'.Nodup) :
    (l ++ l'.filter (· ∉ l)).Nodup := by
  refine List.nodup_append.2 ⟨h, h'.filter _, ?_⟩
  rintro key hkey _ hadded rfl
  exact absurd hkey (by simpa using (List.mem_filter.1 hadded).2)

/-! ## Changes of entities -/

/-- Changes leave alone what they do not name, however far they get. -/
theorem lookup_applyEntities (hname : name ∉ keys entities) :
    Action.LeavesAlone (fun context => context.sources.lookup name) (applyEntities entities) := by
  refine .forEach fun entity hin context => ?_
  unfold Blueprint.applyEntity
  split
  · rfl
  · rename_i changed hchanged
    have hchanged : changed.name = entity.1 := name_of_changeOf (change_eq .. ▸ hchanged)
    show (putUnder changed.name _ context.sources).lookup name = context.sources.lookup name
    rw [lookup_putUnder, hchanged, if_neg]
    rintro rfl
    exact hname (List.mem_map_of_mem hin)

/-- What is named has the definition that the changes made, and no options. -/
theorem lookup_applyEntities_of_mem (h : (applyEntities entities context).result = .ok ())
    (hname : name ∈ keys entities) : (applyEntities entities context).state.sources.lookup name =
      ((applyEntities entities context).state.definition? name).map (⟨·, none⟩) := by
  suffices hfresh : ∃ definition, (applyEntities entities context).state.sources.lookup name =
      some ⟨definition, none⟩ by
    obtain ⟨definition, hlookup⟩ := hfresh
    rw [Context.definition?, hlookup]
    rfl
  induction entities generalizing context with
  | nil => cases hname
  | cons entity rest ih =>
    obtain ⟨changed, hchanged, hcons⟩ := applyEntities_cons_eq_ok h
    rw [hcons] at h ⊢
    by_cases hrest : name ∈ keys rest
    · exact ih h hrest
    · obtain rfl : name = entity.1 := (List.mem_cons.1 hname).resolve_right hrest
      refine ⟨changed, (lookup_applyEntities hrest _).trans ?_⟩
      show (putUnder changed.name _ context.sources).lookup entity.1 = _
      rw [lookup_putUnder, if_pos (name_of_changeOf hchanged).symm]

/-- Sources keep their places, and entities that were not there come behind them in order. -/
theorem keys_applyEntities (hdistinct : (keys entities).Nodup)
    (h : (applyEntities entities context).result = .ok ()) :
    keys (applyEntities entities context).state.sources =
      keys context.sources ++ (keys entities).filter (· ∉ keys context.sources) := by
  induction entities generalizing context with
  | nil => exact (List.append_nil _).symm
  | cons entity rest ih =>
    obtain ⟨hnew, hdistinct⟩ := List.nodup_cons.1 hdistinct
    obtain ⟨changed, hchanged, hcons⟩ := applyEntities_cons_eq_ok h
    rw [hcons] at h ⊢
    have hnext : keys (context.addDefinition changed).sources =
        if entity.1 ∈ keys context.sources then keys context.sources
        else keys context.sources ++ [entity.1] := by
      rw [Context.addDefinition, keys_putUnder, name_of_changeOf hchanged]
    have hkeys : keys (entity :: rest) = entity.1 :: keys rest := rfl
    rw [ih hdistinct h, hnext, hkeys]
    by_cases hin : entity.1 ∈ keys context.sources
    · rw [if_pos hin, List.filter_cons_of_neg (by simpa using hin)]
    · have hsame : ∀ key ∈ keys rest, decide (key ∉ keys context.sources ++ [entity.1]) =
          decide (key ∉ keys context.sources) := by
        intro key hkey
        have hne : key ≠ entity.1 := fun heq => hnew (heq ▸ hkey)
        simp [hne]
      rw [if_neg hin, List.filter_cons_of_pos (by simpa using hin), List.filter_congr hsame,
        List.append_assoc, List.singleton_append]

/-! ## Blueprints -/

namespace Blueprint

variable {blueprint : Blueprint}

/-- Blueprints leave prepared entities and written files alone, however far they get. -/
theorem entities_outputs_apply (blueprint : Blueprint) :
    Action.LeavesAlone (fun context => (context.entities, context.outputs)) blueprint.apply := by
  have hentities : Action.LeavesAlone (fun context : Context => (context.entities, context.outputs))
      (applyEntities blueprint.entities) := by
    refine .forEach fun entity _ context => ?_
    unfold applyEntity
    split <;> rfl
  intro context
  cases hconfig : blueprint.configured context.config with
  | error failure => rw [apply_of_not_configured hconfig]
  | ok config => rw [apply_of_configured hconfig, hentities]

/-- A blueprint leaves alone what it does not name, however far it gets. -/
theorem lookup_apply (hname : name ∉ keys blueprint.entities) :
    Action.LeavesAlone (fun context => context.sources.lookup name) blueprint.apply := by
  intro context
  cases hconfig : blueprint.configured context.config with
  | error failure => rw [apply_of_not_configured hconfig]
  | ok config => rw [apply_of_configured hconfig, lookup_applyEntities hname]

/-- What a blueprint names has the definition that it made, and no options. -/
theorem lookup_apply_of_mem (h : (blueprint.apply context).result = .ok ())
    (hname : name ∈ keys blueprint.entities) : (blueprint.apply context).state.sources.lookup name =
      ((blueprint.apply context).state.definition? name).map (⟨·, none⟩) := by
  obtain ⟨config, -, happly⟩ := exists_configured_of_apply h
  rw [happly] at h ⊢
  exact lookup_applyEntities_of_mem h hname

/-- Sources keep their places, and entities that a blueprint adds come behind them in order. -/
theorem keys_apply (hdistinct : (keys blueprint.entities).Nodup)
    (h : (blueprint.apply context).result = .ok ()) :
    keys (blueprint.apply context).state.sources =
      keys context.sources ++ (keys blueprint.entities).filter (· ∉ keys context.sources) := by
  obtain ⟨config, -, happly⟩ := exists_configured_of_apply h
  rw [happly] at h ⊢
  exact keys_applyEntities hdistinct h

theorem nodup_apply (hdistinct : (keys blueprint.entities).Nodup)
    (h : (blueprint.apply context).result = .ok ()) (hnodup : (keys context.sources).Nodup) :
    (keys (blueprint.apply context).state.sources).Nodup :=
  keys_apply hdistinct h ▸ nodup_append_filter hnodup hdistinct

end Blueprint

end EntityPipeline
