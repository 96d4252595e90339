-- What a blueprint leaves of a context, whether it gets to its end or not. Sources stay under the
-- names of their definitions and at their places; where a change cannot be made, the context is the
-- one that the settings and the changes before it leave.
import EntityPipeline.Proofs.Preparation.AnyOrder
import EntityPipeline.Proofs.Project.Layers

namespace EntityPipeline

open Json

variable {names : List String} {name : String} {context after : Context} {blueprint : Blueprint}
  {failure : Failure}

/-! ## Sources under their names -/

theorem Context.isNamed_iff : context.IsNamed ↔ (keys context.sources).Nodup ∧
    ∀ source ∈ context.sources, source.2.definition.name = source.1 := by
  have hkeys : context.declared.map Prod.fst = keys context.sources := keys_map _
  constructor
  · exact fun h => ⟨hkeys ▸ h.keys_nodup, List.forall_mem_map.1 h.own_names⟩
  · exact fun h => ⟨hkeys ▸ h.1, List.forall_mem_map.2 h.2⟩

theorem Context.IsNamed.distinct (h : context.IsNamed) : (keys context.sources).Nodup :=
  (isNamed_iff.1 h).1

theorem Context.IsNamed.addDefinition (h : context.IsNamed) (definition : EntityDefinition) :
    (context.addDefinition definition).IsNamed := by
  obtain ⟨hdistinct, hnamed⟩ := isNamed_iff.1 h
  refine isNamed_iff.2 ⟨nodup_putUnder hdistinct, fun source hin => ?_⟩
  rcases mem_putUnder hin with rfl | hin
  · rfl
  · exact hnamed source hin

theorem Blueprint.isNamed_applyEntity (name : String) (overrides : Json) (h : context.IsNamed) :
    (Blueprint.applyEntity name overrides context).state.IsNamed := by
  unfold Blueprint.applyEntity
  split
  · exact h
  · exact h.addDefinition _

/-- Blueprints keep sources under the names of their definitions, however far they get. -/
theorem Blueprint.isNamed_apply (blueprint : Blueprint) (h : context.IsNamed) :
    (blueprint.apply context).state.IsNamed := by
  have hentities : ∀ start : Context, start.IsNamed →
      (applyEntities blueprint.entities start).state.IsNamed := fun _ hstart =>
    Action.forEach_keeps (fun entity _ => isNamed_applyEntity entity.1 entity.2) hstart
  cases hconfig : blueprint.configured context.config with
  | error cause =>
    rw [apply_of_not_configured hconfig]
    exact h
  | ok config =>
    rw [apply_of_configured hconfig]
    exact hentities _ ⟨h.keys_nodup, h.own_names⟩

/-! ## What names change -/

/-- One context comes of another by changes to the entities with the given names. -/
structure Context.ChangedIn (names : List String) (context after : Context) : Prop where
  named : after.IsNamed
  /-- Sources keep their places; entities that were not there come behind them. -/
  places : keys after.sources = keys context.sources ++ names.filter (· ∉ keys context.sources)
  /-- What is not named is the same source at the same place, with its options. -/
  kept : ∀ (place : Nat) name source, context.sources[place]? = some (name, source) →
    name ∉ names → after.sources[place]? = some (name, source)
  /-- What is named has no options. -/
  cleared : ∀ name source, (name, source) ∈ after.sources → name ∈ names → source.options = none
  entities : after.entities = context.entities
  outputs : after.outputs = context.outputs

/-- A source under a name is at the place of that name. -/
theorem getElem?_of_lookup {l : List (String × EntitySource)} {place : Nat} {source : EntitySource}
    (hkey : (keys l)[place]? = some name) (hdistinct : (keys l).Nodup)
    (hlookup : l.lookup name = some source) : l[place]? = some (name, source) := by
  rw [keys, List.getElem?_map] at hkey
  obtain ⟨⟨key, found⟩, hfound, rfl⟩ := Option.map_eq_some_iff.1 hkey
  have hin := lookup_eq_some hdistinct (List.mem_of_getElem? hfound)
  rw [hfound, Option.some.inj (hin.symm.trans hlookup)]

/-- An applied blueprint changes the entities that it names. -/
theorem Blueprint.changedIn_apply (hcontext : context.IsNamed)
    (hdistinct : (keys blueprint.entities).Nodup)
    (h : (blueprint.apply context).result = .ok ()) :
    context.ChangedIn (keys blueprint.entities) (blueprint.apply context).state := by
  have hnamed := isNamed_apply blueprint hcontext
  have hplaces := keys_apply hdistinct h
  have hframe := entities_outputs_apply blueprint context
  refine ⟨hnamed, hplaces, fun place name source hplace hname => ?_,
    fun name source hin hname => ?_, congrArg Prod.fst hframe, congrArg Prod.snd hframe⟩
  · have hkey : (keys context.sources)[place]? = some name := by
      rw [keys, List.getElem?_map, hplace]
      rfl
    have hbound : place < (keys context.sources).length := (List.getElem?_eq_some_iff.1 hkey).1
    refine getElem?_of_lookup ?_ hnamed.distinct ?_
    · rw [hplaces, List.getElem?_append_left hbound, hkey]
    · exact (lookup_apply hname context).trans
        (lookup_eq_some hcontext.distinct (List.mem_of_getElem? hplace))
  · have hlookup := lookup_eq_some hnamed.distinct hin
    rw [lookup_apply_of_mem h hname] at hlookup
    obtain ⟨definition, -, rfl⟩ := Option.map_eq_some_iff.1 hlookup
    rfl

/-! ## Changes that cannot be made -/

/-- The blueprint with the same settings and other changes. -/
def Blueprint.withEntities (blueprint : Blueprint) (entities : List (String × Json)) : Blueprint :=
  { blueprint with entities }

/-- Where a blueprint fails: with its settings, before anything is done, or with a change to an
entity that cannot be made in what the settings and the changes before it leave. -/
inductive Blueprint.FailsWith (blueprint : Blueprint) (context : Context) (failure : Failure) :
    Context → Prop
  | settings : blueprint.configured context.config = .error failure →
      blueprint.FailsWith context failure context
  | entity {before rest : List (String × Json)} {name : String} {overrides : Json}
      {reached : Context} :
      blueprint.entities = before ++ (name, overrides) :: rest →
      ((blueprint.withEntities before).apply context).result = .ok () →
      ((blueprint.withEntities before).apply context).state = reached →
      Blueprint.change reached name overrides = .error failure →
      blueprint.FailsWith context failure reached

theorem Blueprint.applyEntity_eq_error {overrides : Json}
    (h : (applyEntity name overrides context).result = .error failure) :
    change context name overrides = .error failure ∧
      (applyEntity name overrides context).state = context := by
  unfold applyEntity at h ⊢
  split at h
  · rename_i cause hchange
    cases h
    exact ⟨hchange, rfl⟩
  · cases h

theorem Blueprint.failsWith_apply (h : (blueprint.apply context).result = .error failure) :
    blueprint.FailsWith context failure (blueprint.apply context).state := by
  cases hconfig : blueprint.configured context.config with
  | error cause =>
    rw [apply_of_not_configured hconfig] at h ⊢
    cases h
    exact .settings hconfig
  | ok config =>
    rw [apply_of_configured hconfig] at h ⊢
    obtain ⟨before, ⟨name, overrides⟩, rest, hsplit, hbefore, hfails, hstate⟩ :=
      Action.forEach_eq_error h
    obtain ⟨hchange, hreached⟩ := applyEntity_eq_error hfails
    have hsettings : (blueprint.withEntities before).configured context.config = .ok config :=
      hconfig
    have hstart : (blueprint.withEntities before).apply context =
        applyEntities before { context with config } := apply_of_configured hsettings
    have hleft : ((blueprint.withEntities before).apply context).state =
        (applyEntities blueprint.entities { context with config }).state := by
      rw [hstart]
      exact (hstate.trans hreached).symm
    refine .entity hsplit (by rw [hstart]; exact hbefore) hleft ?_
    rw [← hleft, hstart]
    exact hchange

/-- A blueprint that goes through changes the entities it names and nothing else. One that does not
leaves the context as it was, if its settings fail, and otherwise as its settings and the changes
before the failing one leave it. -/
theorem blueprint_applies_up_to_a_failure (hcontext : context.IsNamed)
    (hdistinct : (keys blueprint.entities).Nodup) :
    ((blueprint.apply context).result = .ok () →
      context.ChangedIn (keys blueprint.entities) (blueprint.apply context).state) ∧
    ∀ failure, (blueprint.apply context).result = .error failure →
      blueprint.FailsWith context failure (blueprint.apply context).state :=
  ⟨Blueprint.changedIn_apply hcontext hdistinct, fun _ => Blueprint.failsWith_apply⟩

/-- A stall with three entities, each with its options. -/
def stall : Context where
  sources := ["Fruit", "Price", "Basket"].map fun name =>
    (name, ⟨{ name }, some (.resolve {} (ResolvedOptions.defaults {}))⟩)

/-- A new entity under another name, a known one that is left as it is, and a change that is no
object. -/
def market : Blueprint where
  name := "market"
  config := .object [("zone", .string "east")]
  entities := [("Crate", .object [("name", .string "Box")]), ("Fruit", .null),
    ("Price", .bool true), ("Scale", .object [])]

theorem market_applies_up_to_the_price : stall.IsNamed ∧ (keys market.entities).Nodup ∧
    (market.apply stall).result =
      .error (.merge "can only merge objects, got an object and a boolean") ∧
    market.FailsWith stall (.merge "can only merge objects, got an object and a boolean")
      (market.apply stall).state ∧
    ((market.withEntities (market.entities.take 2)).apply stall).result = .ok () ∧
    stall.ChangedIn ["Crate", "Fruit"]
      ((market.withEntities (market.entities.take 2)).apply stall).state := by
  have hstall : stall.IsNamed := Context.isNamed_iff.2 ⟨by decide, by simp [stall]⟩
  have hdistinct : (keys market.entities).Nodup := by decide
  have hfails : (market.apply stall).result =
      .error (.merge "can only merge objects, got an object and a boolean") := by decide +kernel
  have hfirst : ((market.withEntities (market.entities.take 2)).apply stall).result = .ok () := by
    decide +kernel
  exact ⟨hstall, hdistinct, hfails,
    (blueprint_applies_up_to_a_failure hstall hdistinct).2 _ hfails, hfirst,
    (blueprint_applies_up_to_a_failure hstall (by decide)).1 hfirst⟩

end EntityPipeline
