-- Blueprints laid over one another. Applying two blueprints in turn writes and reads each record in
-- between; still it comes to what one blueprint makes that has the settings and the changes of both
-- merged, for what a record is written as is settled member by member.
import EntityPipeline.Proofs.Definition.Settings
import EntityPipeline.Proofs.Project.Sources

namespace EntityPipeline

open Json

variable {name : String} {context : Context} {config middle last : ApplicationConfig}
  {first second blueprint merged : Blueprint} {layer : List (String × Json)}

/-! ## What was read -/

/-- A definition that was read from a text or a value, whatever name it goes by. -/
def EntityDefinition.WasRead (definition : EntityDefinition) : Prop :=
  ∃ name, (∃ text, Snapshot.read text = .ok { definition with name }) ∨
    ∃ value, ofJson value = .ok { definition with name }

theorem EntityDefinition.WasRead.survives {definition : EntityDefinition} (h : definition.WasRead) :
    definition.Survives := by
  obtain ⟨name, ⟨text, h⟩ | ⟨value, h⟩⟩ := h
  · have hsurvives : Survives { definition with name } := ⟨122, isProper_of_snapshot h⟩
    exact hsurvives.named definition.name
  · exact (survives_of_ofJson h).named definition.name

/-- A context whose configuration and definitions were read, each source under a name of its own. -/
structure Context.WasRead (context : Context) : Prop where
  config : ∃ value, ApplicationConfig.ofJson value = .ok context.config
  definitions : ∀ source ∈ context.sources, source.2.definition.WasRead
  distinct : (keys context.sources).Nodup

theorem Context.WasRead.survives (h : context.WasRead) (name : String) :
    ∀ definition ∈ context.definition? name, definition.Survives := by
  intro definition hdefinition
  obtain ⟨source, hlookup, rfl⟩ := Option.map_eq_some_iff.1 hdefinition
  exact (h.definitions _ (mem_of_lookup hlookup)).survives

theorem Context.eq_of_parts {other : Context} (hconfig : context.config = other.config)
    (hsources : context.sources = other.sources)
    (hrest : (context.entities, context.outputs) = (other.entities, other.outputs)) :
    context = other := by
  obtain ⟨hentities, houtputs⟩ := Prod.mk.inj hrest
  cases context
  cases other
  simp_all

/-! ## Settings in layers -/

namespace ApplicationConfig

theorem mergedWith_object (hlayer : Increasing layer) :
    config.mergedWith (.object layer) = ofJson (.object (overlay config.written layer)) := by
  unfold mergedWith
  rw [toJson_eq_object, merge_objects hlayer]

end ApplicationConfig

namespace Blueprint

/-- Settings that are null or an object are laid over what is written for a configuration. -/
theorem configured_of_layer (hread : ∃ value, ApplicationConfig.ofJson value = .ok config)
    (hlayer : layer? blueprint.config = some layer) (hincreasing : Increasing layer) :
    blueprint.configured config =
      ApplicationConfig.ofJson (.object (overlay config.written layer)) := by
  unfold configured
  cases hconfig : blueprint.config with
  | null =>
    rw [hconfig] at hlayer
    obtain rfl := Option.some.inj hlayer
    obtain ⟨value, hread⟩ := hread
    rw [if_pos (by rfl), overlay_nil, ApplicationConfig.memberwise.again hread]
  | object members =>
    rw [hconfig] at hlayer
    obtain rfl := Option.some.inj hlayer
    rw [if_neg (by simp [isNull]), ApplicationConfig.mergedWith_object hincreasing]
  | _ =>
    rw [hconfig] at hlayer
    cases hlayer

/-! ## One blueprint for two -/

/-- The change to an entity with a later change to the same entity laid over it, if there is one. -/
def mergedChange (later : List (String × Json)) (name : String) (change : Json) :
    Except Failure Json :=
  match later.lookup name with
  | some upper => merge change upper
  | none => .ok change

/-- Changes, each with the later change to its entity. -/
def mergedChanges (later : List (String × Json)) :
    List (String × Json) → Except Failure (List (String × Json))
  | [] => .ok []
  | (name, change) :: rest => do
    let change ← mergedChange later name change
    let rest ← mergedChanges later rest
    return (name, change) :: rest

/-- The settings and the changes of two blueprints in one: those of the second laid over those of
the first, and the entities that only the second one names behind the others. -/
def mergedWith (first second : Blueprint) : Except Failure Blueprint := do
  let config ← merge first.config second.config
  let changes ← mergedChanges second.entities first.entities
  return { first with
    config
    entities := changes ++ second.entities.filter fun (name, _) => name ∉ keys first.entities }

/-- A blueprint of settings that are null or an object and of changes that are objects. As with all
maps, each entity is named once and the objects are in the order of their keys. -/
structure OfObjects (blueprint : Blueprint) : Prop where
  config : blueprint.config = .null ∨ ∃ members, blueprint.config = .object members
  changes : ∀ entity ∈ blueprint.entities, ∃ members, entity.2 = .object members
  sortedConfig : blueprint.config.IsSorted
  sortedChanges : ∀ entity ∈ blueprint.entities, entity.2.IsSorted
  distinct : (keys blueprint.entities).Nodup

theorem OfObjects.exists_layer (h : blueprint.OfObjects) :
    ∃ layer, layer? blueprint.config = some layer := by
  rcases h.config with hnull | ⟨members, hobject⟩
  · exact ⟨[], by rw [hnull]; rfl⟩
  · exact ⟨members, by rw [hobject]; rfl⟩

/-- The change to an entity is an object in the order of its keys. -/
theorem OfObjects.exists_members (h : blueprint.OfObjects) {change : Json}
    (hlookup : blueprint.entities.lookup name = some change) :
    change.IsSorted ∧ ∃ members, change = .object members :=
  ⟨h.sortedChanges _ (mem_of_lookup hlookup), h.changes _ (mem_of_lookup hlookup)⟩

theorem exists_mergedChanges {later changes : List (String × Json)}
    (h : ∀ entity ∈ changes, ∃ change, mergedChange later entity.1 entity.2 = .ok change) :
    ∃ merged, mergedChanges later changes = .ok merged ∧ keys merged = keys changes ∧
      ∀ name change, changes.lookup name = some change →
        ∃ laid, mergedChange later name change = .ok laid ∧ merged.lookup name = some laid := by
  induction changes with
  | nil => exact ⟨[], rfl, rfl, nofun⟩
  | cons entity rest ih =>
    obtain ⟨⟨laid, hlaid⟩, hrest⟩ := List.forall_mem_cons.1 h
    obtain ⟨merged, hmerged, hkeys, hlookup⟩ := ih hrest
    refine ⟨(entity.1, laid) :: merged, ?_, congrArg (entity.1 :: ·) hkeys, ?_⟩
    · simp only [mergedChanges, hlaid, hmerged]
      rfl
    · intro name change hin
      by_cases hname : name = entity.1
      · subst hname
        rw [List.lookup_cons_self, Option.some.injEq] at hin
        exact ⟨laid, hin ▸ hlaid, List.lookup_cons_self⟩
      · rw [lookup_cons_of_ne hname] at hin
        obtain ⟨again, hagain, hin⟩ := hlookup name change hin
        have hrest : ((entity.1, laid) :: merged).lookup name = merged.lookup name :=
          lookup_cons_of_ne hname
        exact ⟨again, hagain, hrest.trans hin⟩

/-- What the merged blueprint holds: the settings of both, each entity of the first with the change
that is merged for it, and behind them those that only the second one names. -/
structure Merges (first second merged : Blueprint) : Prop where
  config : merge first.config second.config = .ok merged.config
  names : keys merged.entities =
    keys first.entities ++ (keys second.entities).filter (· ∉ keys first.entities)
  changed : ∀ name change, first.entities.lookup name = some change →
    ∃ laid, mergedChange second.entities name change = .ok laid ∧
      merged.entities.lookup name = some laid
  added : ∀ name, first.entities.lookup name = none →
    merged.entities.lookup name = second.entities.lookup name

/-- Blueprints of objects can be merged. -/
theorem exists_mergedWith (hfirst : first.OfObjects) (hsecond : second.OfObjects) :
    ∃ merged, first.mergedWith second = .ok merged ∧ first.Merges second merged := by
  obtain ⟨layer, hlayer⟩ := hfirst.exists_layer
  obtain ⟨upper, hupper⟩ := hsecond.exists_layer
  obtain ⟨config, hconfig, -⟩ := merge_layers hsecond.sortedConfig hlayer hupper
  have hchanges : ∀ entity ∈ first.entities,
      ∃ change, mergedChange second.entities entity.1 entity.2 = .ok change := by
    intro entity hin
    obtain ⟨members, hmembers⟩ := hfirst.changes entity hin
    unfold mergedChange
    cases hlookup : second.entities.lookup entity.1 with
    | none => exact ⟨entity.2, rfl⟩
    | some change =>
      obtain ⟨hsorted, upper, rfl⟩ := hsecond.exists_members hlookup
      rw [hmembers]
      exact ⟨_, merge_objects (isSorted_object.1 hsorted).1⟩
  obtain ⟨changes, hmerged, hkeys, hlookup⟩ := exists_mergedChanges hchanges
  let added := second.entities.filter fun entity => decide (entity.1 ∉ keys first.entities)
  have hadded (name : String) : added.lookup name =
      if name ∉ keys first.entities then second.entities.lookup name else none := by
    rw [lookup_filter fun name => decide (name ∉ keys first.entities)]
    simp only [decide_eq_true_eq]
  refine ⟨{ first with config, entities := changes ++ added }, ?_, hconfig, ?_, ?_, ?_⟩
  · simp only [mergedWith, hconfig, hmerged]
    rfl
  · rw [keys_append, hkeys]
    congr 1
    show added.map Prod.fst = (second.entities.map Prod.fst).filter _
    rw [List.filter_map]
    rfl
  · intro name change hin
    obtain ⟨laid, hlaid, hin⟩ := hlookup name change hin
    exact ⟨laid, hlaid, by rw [List.lookup_append, hin]; rfl⟩
  · intro name hnone
    have hname : name ∉ keys first.entities := lookup_eq_none_iff.1 hnone
    have hchanged : changes.lookup name = none := lookup_eq_none_iff.2 (hkeys ▸ hname)
    rw [List.lookup_append, hchanged, Option.none_or, hadded, if_pos hname]

/-! ## Each part at once -/

/-- Where settings are merged in turn, they may as well be merged at once. -/
theorem Merges.configured (h : first.Merges second merged) (hfirst : first.OfObjects)
    (hsecond : second.OfObjects) (hread : ∃ value, ApplicationConfig.ofJson value = .ok config)
    (hmiddle : first.configured config = .ok middle)
    (hlast : second.configured middle = .ok last) : merged.configured config = .ok last := by
  obtain ⟨layer, hlayer⟩ := hfirst.exists_layer
  obtain ⟨upper, hupper⟩ := hsecond.exists_layer
  obtain ⟨both, hboth, hlayers⟩ := merge_layers hsecond.sortedConfig hlayer hupper
  obtain rfl := Except.ok.inj (hboth.symm.trans h.config)
  have hincreasing := increasing_layer hfirst.sortedConfig hlayer
  have hincreasing' := increasing_layer hsecond.sortedConfig hupper
  rw [configured_of_layer hread hlayer hincreasing] at hmiddle
  rw [configured_of_layer ⟨_, hmiddle⟩ hupper hincreasing'] at hlast
  obtain ⟨once, honce, hsame⟩ := ApplicationConfig.memberwise.layered (fun _ => True)
    config.increasing_written middle.increasing_written hincreasing hincreasing' hmiddle
    (fun _ _ => rfl) hlast
  have hequal : once = last :=
    ApplicationConfig.memberwise.ext honce hlast fun key => hsame key trivial
  rw [configured_of_layer hread hlayers (hincreasing.overlay upper), honce, hequal]

theorem OfObjects.configured_again (h : blueprint.OfObjects)
    (hread : ∃ value, ApplicationConfig.ofJson value = .ok config)
    (hmiddle : blueprint.configured config = .ok middle) :
    blueprint.configured middle = .ok middle := by
  obtain ⟨layer, hlayer⟩ := h.exists_layer
  have hincreasing := increasing_layer h.sortedConfig hlayer
  rw [configured_of_layer hread hlayer hincreasing] at hmiddle
  rw [configured_of_layer ⟨_, hmiddle⟩ hlayer hincreasing]
  exact ApplicationConfig.memberwise.layered_again config.increasing_written hincreasing hmiddle

/-- The changes to an entity that is named once. -/
theorem changesTo_of_nodup {entities : List (String × Json)} (hdistinct : (keys entities).Nodup)
    (name : String) : changesTo name entities = (entities.lookup name).toList := by
  induction entities with
  | nil => rfl
  | cons entity rest ih =>
    obtain ⟨hnew, hdistinct⟩ := List.nodup_cons.1 hdistinct
    have hrest := ih hdistinct
    unfold changesTo at hrest ⊢
    rw [List.filterMap_cons, hrest]
    by_cases hname : entity.1 = name
    · subst hname
      rw [if_pos rfl, lookup_eq_none_iff.2 hnew, List.lookup_cons_self]
      rfl
    · rw [if_neg hname, lookup_cons_of_ne (Ne.symm hname)]

theorem Merges.nodup (h : first.Merges second merged) (hfirst : first.OfObjects)
    (hsecond : second.OfObjects) : (keys merged.entities).Nodup :=
  h.names ▸ nodup_append_filter hfirst.distinct hsecond.distinct

theorem Merges.mem_names (h : first.Merges second merged) : name ∈ keys merged.entities ↔
    name ∈ keys first.entities ∨ name ∈ keys second.entities := by
  rw [h.names, List.mem_append, List.mem_filter]
  by_cases hname : name ∈ keys first.entities <;> simp [hname]

/-- Where a definition is changed in turn, it may as well be changed at once. -/
theorem Merges.changeAll (h : first.Merges second merged) (hfirst : first.OfObjects)
    (hsecond : second.OfObjects) {found between result : Option EntityDefinition}
    (hfound : ∀ definition ∈ found, definition.Survives)
    (hbetween : changeAll name found (changesTo name first.entities) = .ok between)
    (hresult : changeAll name between (changesTo name second.entities) = .ok result) :
    changeAll name found (changesTo name merged.entities) = .ok result := by
  rw [changesTo_of_nodup hfirst.distinct] at hbetween
  rw [changesTo_of_nodup hsecond.distinct] at hresult
  rw [changesTo_of_nodup (h.nodup hfirst hsecond)]
  cases hchange : first.entities.lookup name with
  | none =>
    rw [hchange] at hbetween
    obtain rfl := Except.ok.inj hbetween
    rwa [h.added name hchange]
  | some change =>
    obtain ⟨laid, hlaid, hmerged⟩ := h.changed name change hchange
    rw [hchange] at hbetween
    rw [hmerged]
    unfold mergedChange at hlaid
    cases hupper : second.entities.lookup name with
    | none =>
      rw [hupper] at hlaid hresult
      obtain rfl := Except.ok.inj hlaid
      obtain rfl := Except.ok.inj hresult
      exact hbetween
    | some upper =>
      rw [hupper] at hlaid hresult
      obtain ⟨hsorted, members, rfl⟩ := hfirst.exists_members hchange
      obtain ⟨hsorted', layer, rfl⟩ := hsecond.exists_members hupper
      dsimp only at hlaid
      rw [merge_objects (isSorted_object.1 hsorted').1, Except.ok.injEq] at hlaid
      subst hlaid
      obtain ⟨middle, hmiddle, rfl⟩ := changeAll_singleton.1 hbetween
      obtain ⟨last, hlast, rfl⟩ := changeAll_singleton.1 hresult
      exact changeAll_singleton.2
        ⟨last, changeOf_layered hfound hsorted hsorted' hmiddle hlast, rfl⟩

/-! ## Whole contexts -/

section InTurn

variable (h : first.Merges second merged) (hfirst : first.OfObjects) (hsecond : second.OfObjects)
  (hmiddle : (first.apply context).result = .ok ())
  (hlast : (second.apply (first.apply context).state).result = .ok ())
  (hmerged : (merged.apply context).result = .ok ())
include h hfirst hsecond hmiddle hlast hmerged

/-- Entities come behind the others in the order in which either way adds them. -/
theorem Merges.places : keys (merged.apply context).state.sources =
    keys (second.apply (first.apply context).state).state.sources := by
  rw [keys_apply (h.nodup hfirst hsecond) hmerged, keys_apply hsecond.distinct hlast,
    keys_apply hfirst.distinct hmiddle, h.names, List.filter_append, List.filter_filter,
    List.append_assoc]
  congr 2
  refine List.filter_congr fun key _ => ?_
  by_cases hold : key ∈ keys context.sources <;> simp [hold]

/-- Where the definitions are the same in the end, so are the sources. -/
theorem Merges.sources (hdistinct : (keys context.sources).Nodup)
    (hsame : ∀ name, (merged.apply context).state.definition? name =
      (second.apply (first.apply context).state).state.definition? name) :
    (merged.apply context).state.sources =
      (second.apply (first.apply context).state).state.sources := by
  refine eq_of_keys_of_lookup (nodup_apply (h.nodup hfirst hsecond) hmerged hdistinct)
    (h.places hfirst hsecond hmiddle hlast hmerged) fun name => ?_
  by_cases hupper : name ∈ keys second.entities
  · rw [lookup_apply_of_mem hmerged (h.mem_names.2 (Or.inr hupper)),
      lookup_apply_of_mem hlast hupper, hsame]
  · have hkept := lookup_apply hupper (first.apply context).state
    by_cases hlower : name ∈ keys first.entities
    · have hdefinition : (second.apply (first.apply context).state).state.definition? name =
          (first.apply context).state.definition? name := congrArg (Option.map _) hkept
      rw [lookup_apply_of_mem hmerged (h.mem_names.2 (Or.inl hlower)), hsame, hdefinition]
      exact (lookup_apply_of_mem hmiddle hlower).symm.trans hkept.symm
    · have hneither : name ∉ keys merged.entities := fun hname =>
        (h.mem_names.1 hname).elim hlower hupper
      exact (lookup_apply hneither context).trans
        ((lookup_apply hlower context).symm.trans hkept.symm)

end InTurn

/-- Changes that are made again leave what they left, and stop where they stopped. -/
theorem applyEntities_again {entities : List (String × Json)}
    (hdistinct : (keys entities).Nodup) (hsorted : ∀ entity ∈ entities, entity.2.IsSorted)
    (hfound : ∀ name, ∀ definition ∈ context.definition? name, definition.Survives) :
    applyEntities entities (applyEntities entities context).state =
      applyEntities entities context := by
  induction entities generalizing context with
  | nil => rfl
  | cons entity rest ih =>
    obtain ⟨hnew, hdistinct⟩ := List.nodup_cons.1 hdistinct
    obtain ⟨hfirst, hsorted⟩ := List.forall_mem_cons.1 hsorted
    cases hchange : changeOf entity.1 (context.definition? entity.1) entity.2 with
    | error failure =>
      rw [applyEntities_cons_of_error hchange, applyEntities_cons_of_error hchange]
    | ok changed =>
      have hname : changed.name = entity.1 := name_of_changeOf hchange
      rw [applyEntities_cons_of_ok hchange]
      -- the others leave alone what the first change made
      have hlookup : (applyEntities rest (context.addDefinition changed)).state.sources.lookup
          changed.name = some ⟨changed, none⟩ := by
        rw [hname]
        refine (lookup_applyEntities hnew _).trans ?_
        show (putUnder changed.name _ context.sources).lookup entity.1 = _
        rw [lookup_putUnder, if_pos hname.symm]
      have hagain := changeOf_again hfirst (hfound entity.1) hchange
      have hmade : (applyEntities rest (context.addDefinition changed)).state.definition? entity.1 =
          some changed := by
        rw [Context.definition?, ← hname, hlookup]
        rfl
      rw [applyEntities_cons_of_ok (hmade ▸ hagain), Context.addDefinition,
        putUnder_of_lookup hlookup]
      refine ih hdistinct hsorted fun name definition hdefinition => ?_
      rw [definition?_addDefinition] at hdefinition
      split at hdefinition
      · exact Option.some.inj hdefinition ▸ survives_of_changeOf hchange
      · exact hfound name definition hdefinition

theorem OfObjects.apply_again (h : blueprint.OfObjects) (hcontext : context.WasRead) :
    blueprint.apply (blueprint.apply context).state = blueprint.apply context := by
  cases hconfig : blueprint.configured context.config with
  | error failure => rw [apply_of_not_configured hconfig, apply_of_not_configured hconfig]
  | ok config =>
    have hagain := h.configured_again hcontext.config hconfig
    have hchanges : applyEntities blueprint.entities
        (applyEntities blueprint.entities { context with config }).state =
          applyEntities blueprint.entities { context with config } :=
      applyEntities_again h.distinct h.sortedChanges hcontext.survives
    rw [apply_of_configured hconfig]
    have hkept : (applyEntities blueprint.entities { context with config }).state.config = config :=
      config_applyEntities _
    generalize hdone : applyEntities blueprint.entities { context with config } = done at *
    obtain ⟨result, state, events⟩ := done
    subst hkept
    exact (apply_of_configured hagain).trans hchanges

end Blueprint

open Blueprint in
/-- Two blueprints that are applied in turn leave the same as one that merges both, and a blueprint
that is applied again leaves what it left. -/
theorem blueprints_apply_at_once (hcontext : context.WasRead) :
    (∀ first second : Blueprint, first.OfObjects → second.OfObjects →
      (first.apply context).result = .ok () →
      (second.apply (first.apply context).state).result = .ok () →
      ∃ merged, first.mergedWith second = .ok merged ∧ (merged.apply context).result = .ok () ∧
        (merged.apply context).state = (second.apply (first.apply context).state).state) ∧
    ∀ blueprint : Blueprint, blueprint.OfObjects →
      blueprint.apply (blueprint.apply context).state = blueprint.apply context := by
  refine ⟨fun first second hfirst hsecond hmiddle hlast => ?_, fun _ h => h.apply_again hcontext⟩
  obtain ⟨merged, hmerged, h⟩ := exists_mergedWith hfirst hsecond
  obtain ⟨hconfig, hchanges⟩ := apply_eq_ok hmiddle
  obtain ⟨hconfig', hchanges'⟩ := apply_eq_ok hlast
  have hconfigured := h.configured hfirst hsecond hcontext.config hconfig hconfig'
  have hall name := h.changeAll hfirst hsecond (hcontext.survives name) (hchanges name)
    (hchanges' name)
  have happlied := apply_succeeds hconfigured fun name => ⟨_, hall name⟩
  obtain ⟨hconfig'', hchanges''⟩ := apply_eq_ok happlied
  refine ⟨merged, hmerged, happlied, Context.eq_of_parts ?_ ?_ ?_⟩
  · exact Except.ok.inj (hconfig''.symm.trans hconfigured)
  · refine h.sources hfirst hsecond hmiddle hlast happlied hcontext.distinct fun name => ?_
    exact Except.ok.inj ((hchanges'' name).symm.trans (hall name))
  · exact (entities_outputs_apply merged context).trans
      ((entities_outputs_apply first context).symm.trans
        (entities_outputs_apply second _).symm)

/-- A shop with one entity whose options are resolved. -/
def shop : Context where
  config := { baseName := "shop", extra := [("zone", .bool true)] }
  sources := [("Order", ⟨{ name := "Order", options := { readOnly := some true } },
    some (.resolve {} (ResolvedOptions.defaults {}))⟩)]

/-- Settings, a change to the entity of the shop, and another entity. -/
def catalogue : Blueprint where
  name := "catalogue"
  config := .object [("jhiPrefix", .string "cat"), ("searchEngine", .bool false)]
  entities := [("Order", .object [("javadoc", .null), ("readOnly", .string "no")]),
    ("Item", .object [("dto", .object [("mapstruct", .null)]), ("name", .string "Article")])]

/-- Settings again, a third entity, and changes to both others. -/
def discounts : Blueprint where
  name := "discounts"
  config := .object [("searchEngine", .string "no"), ("zone", .null)]
  entities := [("Discount", .object []),
    ("Item", .object [("embedded", .null), ("weight", .null)]),
    ("Order", .object [("pagination", .string "pagination")])]

theorem wasRead_shop : shop.WasRead where
  config := ⟨.object [("baseName", .string "shop"), ("zone", .bool true)], rfl⟩
  definitions := List.forall_mem_singleton.2 ⟨"Order", Or.inr
    ⟨.object [("name", .string "Order"), ("readOnly", .string "yes")], rfl⟩⟩
  distinct := List.nodup_singleton _

theorem ofObjects_catalogue : catalogue.OfObjects where
  config := Or.inr ⟨_, rfl⟩
  changes := by simp [catalogue]
  sortedConfig := by rfl
  sortedChanges := by
    simp only [catalogue, List.forall_mem_cons]
    exact ⟨rfl, rfl, List.forall_mem_nil _⟩
  distinct := by decide

theorem ofObjects_discounts : discounts.OfObjects where
  config := Or.inr ⟨_, rfl⟩
  changes := by simp [discounts]
  sortedConfig := by rfl
  sortedChanges := by
    simp only [discounts, List.forall_mem_cons]
    exact ⟨rfl, rfl, rfl, List.forall_mem_nil _⟩
  distinct := by decide

theorem catalogue_and_discounts_apply_at_once :
    (∃ merged, catalogue.mergedWith discounts = .ok merged ∧
      (merged.apply shop).result = .ok () ∧
      (merged.apply shop).state = (discounts.apply (catalogue.apply shop).state).state) ∧
    catalogue.apply (catalogue.apply shop).state = catalogue.apply shop := by
  obtain ⟨honce, hagain⟩ := blueprints_apply_at_once wasRead_shop
  exact ⟨honce catalogue discounts ofObjects_catalogue ofObjects_discounts (by decide +kernel)
    (by decide +kernel), hagain catalogue ofObjects_catalogue⟩

end EntityPipeline
