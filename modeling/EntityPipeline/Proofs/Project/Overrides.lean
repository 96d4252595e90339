-- Applying blueprints again. What blueprints make of the definition of one entity depends on that
-- definition and on the changes to it alone, so the definitions that came of them stay as they are.
import EntityPipeline.Proofs.Definition.Changes
import EntityPipeline.Proofs.Preparation.Given
import EntityPipeline.Proofs.Preparation.Provenance
import EntityPipeline.Proofs.Project.Generation
import EntityPipeline.Proofs.Project.Snapshots

namespace EntityPipeline

open Json

variable {name : String} {changed : EntityDefinition} {found : Option EntityDefinition}
  {change : Json} {context : Context} {entities : List (String × Json)}

/-! ## What actions keep -/

namespace Action

variable {σ α β : Type} {P : σ → Prop} {s : σ}

theorem andThen_keeps {first : Action σ α} {second : α → Action σ β} (h : P (first s).state)
    (h' : ∀ a s, P s → P (second a s).state) : P (andThen first second s).state := by
  unfold andThen
  dsimp only
  split
  · exact h
  · exact h' _ _ h

theorem forEach_keeps {act : β → Action σ Unit} {items : List β}
    (h : ∀ b s, P s → P (act b s).state) (hs : P s) : P (forEach act items s).state := by
  induction items generalizing s with
  | nil => exact hs
  | cons b rest ih => exact andThen_keeps (h b s hs) fun _ _ => ih

end Action

/-! ## Applying to a context -/

theorem change_eq (context : Context) (name : String) (change : Json) :
    Blueprint.change context name change = changeOf name (context.definition? name) change := by
  unfold Blueprint.change changeOf Context.definition?
  cases context.sources.lookup name <;> rfl

theorem name_of_changeOf (h : changeOf name found change = .ok changed) : changed.name = name := by
  unfold changeOf at h
  split at h
  · cases h
  · split at h
    · cases h
    · cases h
      rfl

/-- The changes to one entity, in order. -/
def changesTo (name : String) (entities : List (String × Json)) : List Json :=
  entities.filterMap fun entity => if entity.1 = name then some entity.2 else none

theorem mem_changesTo : change ∈ changesTo name entities ↔ (name, change) ∈ entities := by
  unfold changesTo
  rw [List.mem_filterMap]
  constructor
  · rintro ⟨⟨key, value⟩, hin, heq⟩
    split at heq
    · rename_i hkey
      obtain rfl : key = name := hkey
      exact Option.some.inj heq ▸ hin
    · cases heq
  · exact fun hin => ⟨_, hin, if_pos rfl⟩

theorem changesTo_append (name : String) (first second : List (String × Json)) :
    changesTo name (first ++ second) = changesTo name first ++ changesTo name second :=
  List.filterMap_append

/-- Applies changes in order. -/
def applyEntities (entities : List (String × Json)) : Action Context Unit :=
  Action.forEach (fun entity => Blueprint.applyEntity entity.1 entity.2) entities

/-- Once the first change is applied, the others go on from what it made. -/
theorem changeAll_step {entity : String × Json}
    (h : changeOf entity.1 (context.definition? entity.1) entity.2 = .ok changed)
    (rest : List (String × Json)) (name : String) :
    changeAll name (context.definition? name) (changesTo name (entity :: rest)) =
      changeAll name ((context.addDefinition changed).definition? name) (changesTo name rest) := by
  rw [definition?_addDefinition, name_of_changeOf h, changesTo, List.filterMap_cons]
  by_cases hname : entity.1 = name
  · subst hname
    rw [if_pos rfl, if_pos rfl, changeAll, h]
    rfl
  · rw [if_neg hname, if_neg (Ne.symm hname)]
    rfl

theorem applyEntities_cons_of_ok {entity : String × Json}
    (h : changeOf entity.1 (context.definition? entity.1) entity.2 = .ok changed)
    (rest : List (String × Json)) :
    applyEntities (entity :: rest) context =
      applyEntities rest (context.addDefinition changed) := by
  have hfirst : Blueprint.applyEntity entity.1 entity.2 context =
      ⟨.ok (), context.addDefinition changed, []⟩ := by
    unfold Blueprint.applyEntity
    rw [change_eq, h]
  exact (Action.andThen_of_ok (by rw [hfirst])).trans (by rw [hfirst]; rfl)

theorem applyEntities_cons_of_error {entity : String × Json} {failure : Failure}
    (h : changeOf entity.1 (context.definition? entity.1) entity.2 = .error failure)
    (rest : List (String × Json)) :
    applyEntities (entity :: rest) context = ⟨.error failure, context, []⟩ := by
  have hfirst : Blueprint.applyEntity entity.1 entity.2 context =
      ⟨.error failure, context, []⟩ := by
    unfold Blueprint.applyEntity
    rw [change_eq, h]
  exact (Action.andThen_of_error (by rw [hfirst])).trans (by rw [hfirst])

/-- Where changes are applied, so is the first one, and the others go on from what it made. -/
theorem applyEntities_cons_eq_ok {entity : String × Json} {rest : List (String × Json)}
    (h : (applyEntities (entity :: rest) context).result = .ok ()) :
    ∃ changed, changeOf entity.1 (context.definition? entity.1) entity.2 = .ok changed ∧
      applyEntities (entity :: rest) context =
        applyEntities rest (context.addDefinition changed) := by
  cases hchange : changeOf entity.1 (context.definition? entity.1) entity.2 with
  | error failure =>
    rw [applyEntities_cons_of_error hchange] at h
    cases h
  | ok changed => exact ⟨changed, rfl, applyEntities_cons_of_ok hchange rest⟩

/-- Applied changes make of each definition what the changes to it make of it. -/
theorem definition?_applyEntities (h : (applyEntities entities context).result = .ok ())
    (name : String) : changeAll name (context.definition? name) (changesTo name entities) =
      .ok ((applyEntities entities context).state.definition? name) := by
  induction entities generalizing context with
  | nil => rfl
  | cons entity rest ih =>
    obtain ⟨changed, hchanged, hcons⟩ := applyEntities_cons_eq_ok h
    rw [hcons] at h ⊢
    rw [changeAll_step hchanged]
    exact ih h

/-- Changes are applied if those to each definition succeed. -/
theorem applyEntities_succeeds (h : ∀ name, ∃ result,
    changeAll name (context.definition? name) (changesTo name entities) = .ok result) :
    (applyEntities entities context).result = .ok () := by
  induction entities generalizing context with
  | nil => rfl
  | cons entity rest ih =>
    obtain ⟨result, hresult⟩ := h entity.1
    rw [changesTo, List.filterMap_cons, if_pos rfl] at hresult
    obtain ⟨changed, hchanged, -⟩ := changeAll_cons_eq_ok.1 hresult
    rw [applyEntities_cons_of_ok hchanged]
    exact ih fun name => changeAll_step hchanged rest name ▸ h name

/-! ## Blueprints -/

namespace Blueprint

variable {blueprint : Blueprint} {blueprints : List Blueprint} {config : ApplicationConfig}

/-- The configuration with the settings of a blueprint. -/
def configured (blueprint : Blueprint) (config : ApplicationConfig) :
    Except Failure ApplicationConfig :=
  if blueprint.config.isNull then .ok config else config.mergedWith blueprint.config

/-- The configuration with the settings of blueprints, in order. -/
def configuredAll : List Blueprint → ApplicationConfig → Except Failure ApplicationConfig
  | [], config => .ok config
  | blueprint :: rest, config =>
    match blueprint.configured config with
    | .error e => .error e
    | .ok config => configuredAll rest config

/-- Settings are merged before the first change is made. -/
theorem apply_of_configured (h : blueprint.configured context.config = .ok config) :
    blueprint.apply context = applyEntities blueprint.entities { context with config } := by
  have hfirst : applyConfig blueprint.config context = ⟨.ok (), { context with config }, []⟩ := by
    unfold configured at h
    unfold applyConfig
    split
    · rename_i hnull
      rw [if_pos hnull] at h
      obtain rfl := Except.ok.inj h
      rfl
    · rename_i hnull
      rw [if_neg hnull] at h
      rw [h]
  exact (Action.andThen_of_ok (by rw [hfirst])).trans (by rw [hfirst]; rfl)

/-- Settings that cannot be merged leave all as it is. -/
theorem apply_of_not_configured {failure : Failure}
    (h : blueprint.configured context.config = .error failure) :
    blueprint.apply context = ⟨.error failure, context, []⟩ := by
  have hfirst : applyConfig blueprint.config context = ⟨.error failure, context, []⟩ := by
    unfold configured at h
    unfold applyConfig
    split
    · rename_i hnull
      rw [if_pos hnull] at h
      cases h
    · rename_i hnull
      rw [if_neg hnull] at h
      rw [h]
  exact (Action.andThen_of_error (by rw [hfirst])).trans (by rw [hfirst])

theorem config_applyEntities : Action.LeavesAlone Context.config (applyEntities entities) := by
  refine .forEach fun entity _ context => ?_
  unfold applyEntity
  split <;> rfl

/-- An applied blueprint has merged its settings, then made its changes. -/
theorem exists_configured_of_apply (h : (blueprint.apply context).result = .ok ()) :
    ∃ config, blueprint.configured context.config = .ok config ∧
      blueprint.apply context = applyEntities blueprint.entities { context with config } := by
  cases hconfig : blueprint.configured context.config with
  | error failure =>
    rw [apply_of_not_configured hconfig] at h
    cases h
  | ok config => exact ⟨config, rfl, apply_of_configured hconfig⟩

/-- The configuration that an applied blueprint leaves, and the definition under each name. -/
theorem apply_eq_ok (h : (blueprint.apply context).result = .ok ()) :
    blueprint.configured context.config = .ok (blueprint.apply context).state.config ∧
      ∀ name, changeAll name (context.definition? name) (changesTo name blueprint.entities) =
        .ok ((blueprint.apply context).state.definition? name) := by
  obtain ⟨config, hconfig, happly⟩ := exists_configured_of_apply h
  rw [happly] at h ⊢
  exact ⟨by rw [hconfig, config_applyEntities], definition?_applyEntities h⟩

/-- A blueprint is applied if its settings can be merged and its changes made. -/
theorem apply_succeeds (hconfig : blueprint.configured context.config = .ok config)
    (h : ∀ name, ∃ result, changeAll name (context.definition? name)
      (changesTo name blueprint.entities) = .ok result) :
    (blueprint.apply context).result = .ok () := by
  rw [apply_of_configured hconfig]
  exact applyEntities_succeeds h

theorem firsts_sublist (taken : List String) (blueprints : List Blueprint) :
    (firsts taken blueprints).Sublist blueprints := by
  induction blueprints generalizing taken with
  | nil => exact List.Sublist.refl _
  | cons blueprint rest ih =>
    unfold firsts
    split
    · exact (ih taken).cons blueprint
    · exact (ih _).cons_cons blueprint

/-- All changes that blueprints make. -/
def changesOf (blueprints : List Blueprint) : List (String × Json) :=
  blueprints.flatMap Blueprint.entities

/-- Applied blueprints have merged their settings and made of each definition what all the changes
to it make of it. -/
theorem applyAll_eq_ok (h : (applyAll blueprints context).result = .ok ()) :
    configuredAll blueprints context.config = .ok (applyAll blueprints context).state.config ∧
      ∀ name, changeAll name (context.definition? name) (changesTo name (changesOf blueprints)) =
        .ok ((applyAll blueprints context).state.definition? name) := by
  induction blueprints generalizing context with
  | nil => exact ⟨rfl, fun _ => rfl⟩
  | cons blueprint rest ih =>
    obtain ⟨hfirst, hrest, hstate⟩ := forEach_cons_eq_ok h
    obtain ⟨hconfig, hchanges⟩ := apply_eq_ok hfirst
    obtain ⟨hconfigs, hall⟩ := ih hrest
    have hstate : (applyAll (blueprint :: rest) context).state =
        (applyAll rest (blueprint.apply context).state).state := hstate
    rw [hstate, configuredAll, hconfig]
    refine ⟨hconfigs, fun name => ?_⟩
    rw [changesOf, List.flatMap_cons, changesTo_append]
    exact changeAll_append_eq_ok.2 ⟨_, hchanges name, hall name⟩

/-- Blueprints are applied if all their settings can be merged and all their changes made. -/
theorem applyAll_succeeds (hconfig : configuredAll blueprints context.config = .ok config)
    (h : ∀ name, ∃ result, changeAll name (context.definition? name)
      (changesTo name (changesOf blueprints)) = .ok result) :
    (applyAll blueprints context).result = .ok () := by
  induction blueprints generalizing context with
  | nil => rfl
  | cons blueprint rest ih =>
    have hsplit : ∀ name, ∃ middle, changeAll name (context.definition? name)
        (changesTo name blueprint.entities) = .ok middle ∧
        ∃ result, changeAll name middle (changesTo name (changesOf rest)) = .ok result := by
      intro name
      obtain ⟨result, hresult⟩ := h name
      rw [changesOf, List.flatMap_cons, changesTo_append] at hresult
      obtain ⟨middle, hmiddle, hrest⟩ := changeAll_append_eq_ok.1 hresult
      exact ⟨middle, hmiddle, result, hrest⟩
    unfold configuredAll at hconfig
    split at hconfig
    · cases hconfig
    · rename_i next hnext
      have hfirst := apply_succeeds hnext fun name => (hsplit name).imp fun _ h => h.1
      obtain ⟨hconfigured, hchanges⟩ := apply_eq_ok hfirst
      obtain rfl := Except.ok.inj (hnext.symm.trans hconfigured)
      have hcons : (applyAll (blueprint :: rest) context).result =
          (applyAll rest (blueprint.apply context).state).result := by
        show (Action.andThen blueprint.apply (fun _ => applyAll rest) context).result = _
        rw [Action.andThen_of_ok hfirst]
      rw [hcons]
      refine ih hconfig fun name => ?_
      obtain ⟨middle, hmiddle, hrest⟩ := hsplit name
      obtain rfl := Except.ok.inj (hmiddle.symm.trans (hchanges name))
      exact hrest

/-! ## What is kept -/

theorem isGiven_applyEntity (name : String) (change : Json) (h : context.IsGiven) :
    (applyEntity name change context).state.IsGiven := by
  unfold applyEntity
  split
  · exact h
  · exact h.addDefinition _

theorem isGiven_apply (blueprint : Blueprint) (h : context.IsGiven) :
    (blueprint.apply context).state.IsGiven := by
  refine Action.andThen_keeps ?_ fun _ _ => Action.forEach_keeps fun entity _ =>
    isGiven_applyEntity entity.1 entity.2
  unfold applyConfig
  split
  · exact h
  · split
    · exact h
    · exact h.withConfig _

/-- Blueprints leave a context with definitions alone. -/
theorem isGiven_applyAll (blueprints : List Blueprint) (h : context.IsGiven) :
    (applyAll blueprints context).state.IsGiven :=
  Action.forEach_keeps (fun blueprint _ => isGiven_apply blueprint) h

/-- Where each definition is as it was before blueprints were applied, or as they left it, applying
them again comes to the same definitions. -/
theorem applyAll_again {again : Context} (hconfig : again.config = context.config)
    (hsurvive : ∀ name, ∀ definition ∈ context.definition? name, definition.Survives)
    (hsorted : ∀ change ∈ changesOf blueprints, change.2.IsSorted)
    (h : (applyAll blueprints context).result = .ok ())
    (hmixed : ∀ name, again.definition? name = context.definition? name ∨
      again.definition? name = (applyAll blueprints context).state.definition? name) :
    (applyAll blueprints again).result = .ok () ∧
      (applyAll blueprints again).state.config = (applyAll blueprints context).state.config ∧
      ∀ name, (applyAll blueprints again).state.definition? name =
        (applyAll blueprints context).state.definition? name := by
  obtain ⟨hconfigs, hchanges⟩ := applyAll_eq_ok h
  have hagain : ∀ name, changeAll name (again.definition? name)
      (changesTo name (changesOf blueprints)) =
        .ok ((applyAll blueprints context).state.definition? name) := by
    intro name
    have hchangesSorted : ∀ change ∈ changesTo name (changesOf blueprints), change.IsSorted :=
      fun change hin => hsorted _ (mem_changesTo.1 hin)
    rcases hmixed name with heq | heq
    · rw [heq]
      exact hchanges name
    · rw [heq]
      exact changeAll_again hchangesSorted (hsurvive name) (hchanges name)
  have hok : (applyAll blueprints again).result = .ok () :=
    applyAll_succeeds (hconfig ▸ hconfigs) fun name => ⟨_, hagain name⟩
  obtain ⟨hconfigs', hchanges'⟩ := applyAll_eq_ok hok
  rw [hconfig, hconfigs] at hconfigs'
  refine ⟨hok, (Except.ok.inj hconfigs').symm, fun name => ?_⟩
  exact Except.ok.inj ((hchanges' name).symm.trans (hagain name))

end Blueprint

end EntityPipeline
