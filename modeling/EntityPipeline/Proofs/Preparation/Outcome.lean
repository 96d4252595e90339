-- The outcome of a preparation. Each phase succeeds just when the definitions satisfy what it looks
-- at, so a preparation succeeds when they satisfy all conditions, and else fails with the first one
-- that is violated.
import EntityPipeline.Proofs.Preparation.Freezing
import EntityPipeline.Proofs.Preparation.Relating

namespace EntityPipeline

variable {entities : List Entity} {entity : Entity} {config : ApplicationConfig}
  {definitions : List EntityDefinition}

/-! ## From the fields to the keys -/

/-- A failure tells of the first condition that is violated. -/
def TellsOfFirst (config : ApplicationConfig) (definitions : List EntityDefinition)
    (failure : Failure) : Prop :=
  ∃ condition : Condition, condition.IsFirst config definitions ∧
    condition.Reports config definitions failure

section Registered

variable (hn : (definitions.map EntityDefinition.name).Nodup)
  (hd : entities.map Entity.definition = registered config definitions)
  (hf : ∀ entity ∈ entities, entity.IsFilled)

include hd hf in
theorem names_filled :
    entities.map Entity.name = (registered config definitions).map EntityDefinition.name := by
  rw [← hd, List.map_map]
  exact List.map_congr_left fun entity hin => (hf entity hin).name

include hn hd in
theorem declaredBy_filled :
    DeclaredBy (entities.map Entity.definition) = DeclaredBy definitions := by
  rw [hd, declaredBy_registered hn]

include hn hd hf in
theorem resolved_iff : Resolved entities ↔ Condition.resolved.Holds config definitions := by
  simp only [Resolved, Condition.Holds, declaredBy_filled hn hd, names_filled hd hf,
    mem_names_registered]

include hn hd hf in
/-- Keys are derived and checked when the last two conditions hold. Else the failure tells of the
first of them that is violated. -/
theorem keyAndCheck_outcome
    (hbefore : ∀ earlier ∈ [Condition.named, .typed, .resolved, .supported],
      earlier.Holds config definitions) :
    ((∀ condition : Condition, condition.Holds config definitions) ∧
      ∃ keys, keyAndCheck (.unfrozen (related entities)) =
        (.unfrozen (withKeys (related entities) keys), .ok ())) ∨
    ∃ failure, (keyAndCheck (.unfrozen (related entities))).2 = .error failure ∧
      TellsOfFirst config definitions failure := by
  have hdistinct : (entities.map Entity.name).Nodup := names_filled hd hf ▸ nodup_registered hn
  have hby := declaredBy_filled hn hd
  have hresolved := (resolved_iff hn hd hf).2 (hbefore .resolved (by simp))
  have hidentified : IdentifiedBy (entities.map Entity.definition) = IdentifiedBy definitions := by
    funext name other
    simp only [IdentifiedBy, hby]
  have hends := borrowingEnds_related hf hdistinct hresolved
  rw [hidentified] at hends
  unfold keyAndCheck
  rcases deriveKeys_outcome (keyable_related hf hresolved) (primaryKey_related hf) with
    ⟨hend, keys, hderived, hsettled⟩ | ⟨hcircle, owner, relationship, herror⟩
  swap
  · rw [hends] at hcircle
    exact Or.inr ⟨_, by simp only [herror], .acyclic, ⟨_, _, rfl, hbefore, hcircle⟩,
      owner, relationship, rfl⟩
  have hacyclic : Condition.acyclic.Holds config definitions := hends.1 hend
  simp only [hderived]
  rcases simple_outcome hf hdistinct hresolved hsettled with
    ⟨hsimple, hok⟩ | ⟨⟨name, other, hbetween, hcomposite⟩, owner, relationship, herror⟩
  · refine Or.inl ⟨?_, keys, by rw [hok]⟩
    have hsimple : Condition.simple.Holds config definitions := fun name other hbetween =>
      hd ▸ hsimple name other (hbetween.of_declaredBy hby.symm)
    intro condition
    cases condition with
    | acyclic => exact hacyclic
    | simple => exact hsimple
    | _ => exact hbefore _ (by simp)
  · refine Or.inr ⟨_, herror, .simple, ⟨[.named, .typed, .resolved, .supported, .acyclic], _, rfl,
      ?_, fun hholds => ?_⟩, owner, relationship, rfl⟩
    · simpa [hacyclic] using hbefore
    · have hnone := hholds name other (hbetween.of_declaredBy hby)
      rw [← hd] at hnone
      exact hcomposite.elim hnone.1 hnone.2

include hn hd hf in
/-- Relating succeeds when the conditions on relationships hold, and else tells of the first one
that is violated. -/
theorem relate_outcome
    (hbefore : ∀ earlier ∈ [Condition.named, .typed], earlier.Holds config definitions) :
    ((∀ condition : Condition, condition.Holds config definitions) ∧
      ∃ keys, relate (.unfrozen entities) =
        (.unfrozen (withKeys (related entities) keys), .ok ())) ∨
    ∃ failure, (relate (.unfrozen entities)).2 = .error failure ∧
      TellsOfFirst config definitions failure := by
  have hby := declaredBy_filled hn hd
  rcases resolve_outcome hf with ⟨hresolved, hok⟩ | ⟨name, relationship, hr, hmissing, herror⟩
  swap
  · rw [hby] at hr
    rw [names_filled hd hf, mem_names_registered] at hmissing
    exact Or.inr ⟨_, herror, .resolved, ⟨_, _, rfl, hbefore, fun hholds =>
      hmissing (hholds name relationship hr)⟩, name, relationship, hr, hmissing, rfl⟩
  rw [resolved_iff hn hd hf] at hresolved
  rw [relate_eq hok]
  rcases support_outcome hf with ⟨hsupported, hok⟩ | ⟨name, relationship, hr, hid, hnot, herror⟩
  · have hsupported : Condition.supported.Holds config definitions := fun name relationship hr =>
      hsupported name relationship (hby ▸ hr)
    rw [hok]
    exact keyAndCheck_outcome hn hd hf (by simpa [hresolved, hsupported] using hbefore)
  · rw [hby] at hr
    refine Or.inr ⟨_, by rw [herror], .supported, ⟨[.named, .typed, .resolved], _, rfl, ?_,
      fun hholds => hnot (hholds name relationship hr hid)⟩, name, relationship, hr, hid, hnot, rfl⟩
    simpa [hresolved] using hbefore

end Registered

theorem typed_outcome (hn : (definitions.map EntityDefinition.name).Nodup) {context : Context}
    (h : context.entities = .unfrozen entities)
    (hb : ∀ entity ∈ entities, entity.IsBare)
    (hd : entities.map Entity.definition = registered config definitions) :
    (Condition.typed.Holds config definitions ∧ ∃ filled, prepareFields context =
        ⟨.ok (), { context with entities := .unfrozen filled }, []⟩ ∧
      filled.map Entity.definition = registered config definitions ∧
      ∀ entity ∈ filled, entity.IsFilled) ∨
    ¬Condition.typed.Holds config definitions ∧ ∃ failure,
      (prepareFields context).result = .error failure ∧
      Condition.typed.Reports config definitions failure := by
  rcases prepareFields_outcome h hb with
    ⟨filled, hok, hdefs, hfilled, htyped⟩ | ⟨definition, hin, field, hfield, hnone, herror⟩
  · refine Or.inl ⟨?_, filled, hok, hdefs.trans hd, hfilled⟩
    intro definition hin field hkept
    obtain ⟨given, hgiven, hfield⟩ := field_of_keeps hn hin hkept
    exact htyped given (hd ▸ hgiven) field hfield
  · rw [hd] at hin
    rcases field_registered hn hin hfield with hknown | ⟨given, hgiven, hname, hkept⟩
    · rw [hnone] at hknown
      cases hknown
    · refine Or.inr ⟨fun hholds => ?_, _, herror, given, hgiven, field, hkept, hnone, by rw [hname]⟩
      have hknown := hholds given hgiven field hkept
      have hparse : FieldType.parse field.type field.blobContent field.values.isSome = none := hnone
      rw [hparse] at hknown
      cases hknown

/-! ## The phases up to the names -/

/-- What is there once all sources are configured. -/
def configuredContext (config : ApplicationConfig) (definitions : List EntityDefinition) :
    Context :=
  { config := config, sources := configured config definitions }

/-- The bare entities of definitions, with their names. -/
def namedEntities (config : ApplicationConfig) (definitions : List EntityDefinition) :
    List Entity :=
  (bareEntities (configuredContext config definitions)).map fun entity =>
    { entity with names := entityNames entity config }

/-- What is there once all entities are named. -/
def namedContext (config : ApplicationConfig) (definitions : List EntityDefinition) : Context :=
  { configuredContext config definitions with
    entities := .unfrozen (namedEntities config definitions) }

theorem isBare_of_mem_namedEntities (h : entity ∈ namedEntities config definitions) :
    entity.IsBare := by
  obtain ⟨bare, hin, rfl⟩ := List.mem_map.1 h
  have hbare := isBare_of_mem_bareEntities hin
  exact ⟨hbare.name, hbare.fields, hbare.relationships, hbare.primaryKey⟩

theorem definition_namedEntities (config : ApplicationConfig)
    (definitions : List EntityDefinition) :
    (namedEntities config definitions).map Entity.definition = registered config definitions := by
  have hbare : (bareEntities (configuredContext config definitions)).map Entity.definition =
      registered config definitions := definition_bareEntities rfl
  rw [← hbare, namedEntities, List.map_map]
  rfl

/-- A definition without a name stops the preparation at once. -/
theorem prepareAll_of_unnamed (hn : (definitions.map EntityDefinition.name).Nodup)
    (h : definitions.any (·.name == "") = true) :
    (prepareAll (.ofDefinitions config definitions)).result =
      .error (.configuration "an entity definition has no name") := by
  have hconfigure := configureSources_eq config definitions
  rw [if_pos h] at hconfigure
  rw [ofDefinitions_eq hn]
  exact forEach_cons_of_error hconfigure

/-- Where all definitions have names, the first phases get as far as the names of the entities. -/
theorem prepareAll_of_named (hn : (definitions.map EntityDefinition.name).Nodup)
    (h : definitions.any (·.name == "") = false) :
    (prepareAll (.ofDefinitions config definitions)).result =
      (Action.forEach Phase.run [.fields, .relationships, .freeze]
        (namedContext config definitions)).result := by
  have hsources := configureSources_eq config definitions
  rw [h, if_neg Bool.false_ne_true] at hsources
  have hconfigure : Phase.run .configure { config := config, sources := definitions.map fun d =>
      (d.name, ⟨d, none⟩) } = ⟨.ok (), configuredContext config definitions, []⟩ := by
    unfold Phase.run configureEntities
    simp only [hsources]
    rfl
  let loaded : Context := { configuredContext config definitions with
    entities := .unfrozen (bareEntities (configuredContext config definitions)) }
  have hload : Phase.run .load (configuredContext config definitions) = ⟨.ok (), loaded, []⟩ :=
    loadEntities_eq hn rfl
  have hnames : Phase.run .names loaded = ⟨.ok (), namedContext config definitions, []⟩ :=
    prepareEntities_eq rfl
  rw [ofDefinitions_eq hn]
  unfold prepareAll Phase.all
  rw [forEach_cons_of_ok hconfigure, forEach_cons_of_ok hload, forEach_cons_of_ok hnames]

/-! ## The whole preparation -/

/-- A preparation succeeds when all conditions hold, and else tells of the first one that is
violated. -/
theorem prepareAll_outcome (config : ApplicationConfig)
    (hn : (definitions.map EntityDefinition.name).Nodup) :
    ((∀ condition : Condition, condition.Holds config definitions) ∧
      (prepareAll (.ofDefinitions config definitions)).result = .ok ()) ∨
    ∃ failure, (prepareAll (.ofDefinitions config definitions)).result = .error failure ∧
      TellsOfFirst config definitions failure := by
  cases hany : definitions.any (·.name == "") with
  | true =>
    refine Or.inr ⟨_, prepareAll_of_unnamed hn hany, .named, ⟨[], _, rfl, by simp, ?_⟩, rfl⟩
    obtain ⟨definition, hin, hname⟩ := List.any_eq_true.1 hany
    exact fun hholds => hholds definition hin (beq_iff_eq.1 hname)
  | false =>
    have hnamed : Condition.named.Holds config definitions := by
      simpa [Condition.Holds] using hany
    have hopen : (namedContext config definitions).entities =
        .unfrozen (namedEntities config definitions) := rfl
    rw [prepareAll_of_named hn hany]
    rcases typed_outcome hn hopen (fun _ => isBare_of_mem_namedEntities)
        (definition_namedEntities config definitions) with
      ⟨htyped, filled, hfields, hdefs, hfilled⟩ | ⟨hnot, failure, herror, hreports⟩
    swap
    · refine Or.inr ⟨failure, forEach_cons_of_error herror, .typed, ⟨[.named], _, rfl, ?_, hnot⟩,
        hreports⟩
      simpa using hnamed
    let fieldsSet : Context := { namedContext config definitions with entities := .unfrozen filled }
    have hfields : Phase.run .fields (namedContext config definitions) =
        ⟨.ok (), fieldsSet, []⟩ := hfields
    have hrelate : Phase.run .relationships fieldsSet = ⟨(relate (.unfrozen filled)).2,
        { fieldsSet with entities := (relate (.unfrozen filled)).1 }, []⟩ := rfl
    rw [forEach_cons_of_ok hfields]
    rcases relate_outcome hn hdefs hfilled (by simpa using ⟨hnamed, htyped⟩) with
      ⟨hall, keys, hok⟩ | ⟨failure, herror, hfirst⟩
    · let keyed : Context :=
        { fieldsSet with entities := .unfrozen (withKeys (related filled) keys) }
      have hkeyed : Phase.run .relationships fieldsSet = ⟨.ok (), keyed, []⟩ := by
        rw [hrelate, hok]
      have hdistinct : ((withKeys (related filled) keys).map Entity.name).Nodup := by
        rw [names_withKeys_related, names_filled hdefs hfilled]
        exact nodup_registered hn
      have hopen : keyed.entities = .unfrozen (withKeys (related filled) keys) := rfl
      rw [forEach_cons_of_ok hkeyed, forEach_singleton]
      exact Or.inl ⟨hall, (postPrepareEntities_eq hopen hdistinct).1⟩
    · rw [herror] at hrelate
      exact Or.inr ⟨failure, forEach_cons_of_error (congrArg Outcome.result hrelate), hfirst⟩

/-- The kind of an outcome: success, or the code of the failure. -/
def outcomeKind : Except Failure Unit → Option String
  | .ok () => none
  | .error failure => some failure.code

/-- What becomes of a preparation: it succeeds just when all conditions hold, it fails with the
first one that is violated, and of what kind the outcome is does not depend on the order of the
definitions. -/
structure EndsByConditions (config : ApplicationConfig) (definitions : List EntityDefinition) :
    Prop where
  succeeds : (prepareAll (.ofDefinitions config definitions)).result = .ok () ↔
    ∀ condition : Condition, condition.Holds config definitions
  fails : ∀ failure, (prepareAll (.ofDefinitions config definitions)).result = .error failure →
    ∃ condition : Condition, condition.IsFirst config definitions ∧
      condition.Reports config definitions failure
  order_free : ∀ others, others.Perm definitions →
    outcomeKind (prepareAll (.ofDefinitions config others)).result =
      outcomeKind (prepareAll (.ofDefinitions config definitions)).result

theorem TellsOfFirst.not_all {failure : Failure} (h : TellsOfFirst config definitions failure) :
    ¬∀ condition : Condition, condition.Holds config definitions := by
  obtain ⟨condition, ⟨_, _, _, _, hnot⟩, _⟩ := h
  exact fun hall => hnot (hall condition)

/-- In another order, a condition is still the first one that is violated. -/
theorem Condition.IsFirst.of_perm {others : List EntityDefinition} {condition : Condition}
    (h : others.Perm definitions) (hn : (definitions.map EntityDefinition.name).Nodup)
    (hc : condition.IsFirst config others) : condition.IsFirst config definitions := by
  have hn' : (others.map EntityDefinition.name).Nodup := (h.map _).nodup_iff.2 hn
  obtain ⟨before, after, heq, hholds, hnot⟩ := hc
  exact ⟨before, after, heq, fun earlier hin => holds_of_perm h.symm hn' (hholds earlier hin),
    fun hc => hnot (holds_of_perm h hn hc)⟩

/-- The kind of an outcome does not depend on the order of the definitions. -/
theorem outcomeKind_of_perm {others : List EntityDefinition} (h : others.Perm definitions)
    (hn : (definitions.map EntityDefinition.name).Nodup) :
    outcomeKind (prepareAll (.ofDefinitions config others)).result =
      outcomeKind (prepareAll (.ofDefinitions config definitions)).result := by
  have hn' : (others.map EntityDefinition.name).Nodup := (h.map _).nodup_iff.2 hn
  -- both orders succeed, or both fail with the same first condition
  rcases prepareAll_outcome config hn' with ⟨hall', hok'⟩ | ⟨failure', herror', htells'⟩ <;>
    rcases prepareAll_outcome config hn with ⟨hall, hok⟩ | ⟨failure, herror, htells⟩
  · rw [hok, hok']
  · exact absurd (fun c => Condition.holds_of_perm h.symm hn' (hall' c)) htells.not_all
  · exact absurd (fun c => Condition.holds_of_perm h hn (hall c)) htells'.not_all
  · obtain ⟨first', hfirst', hreports'⟩ := htells'
    obtain ⟨first, hfirst, hreports⟩ := htells
    obtain rfl := (hfirst'.of_perm h hn).unique hfirst
    rw [herror, herror', outcomeKind, outcomeKind, Condition.code_of_reports hreports',
      Condition.code_of_reports hreports]

/-- Definitions of distinct names are prepared when they satisfy all conditions, and else fail by
the first one they violate. -/
theorem a_preparation_ends_by_its_conditions (config : ApplicationConfig)
    (definitions : List EntityDefinition)
    (hn : (definitions.map EntityDefinition.name).Nodup) : EndsByConditions config definitions := by
  have houtcome := prepareAll_outcome config hn
  refine ⟨⟨fun hok => ?_, fun hall => ?_⟩, fun failure herror => ?_,
    fun others h => outcomeKind_of_perm h hn⟩
  · rcases houtcome with ⟨hall, _⟩ | ⟨failure, herror, _⟩
    · exact hall
    · rw [hok] at herror
      cases herror
  · rcases houtcome with ⟨_, hok⟩ | ⟨failure, _, htells⟩
    · exact hok
    · exact absurd hall htells.not_all
  · rcases houtcome with ⟨_, hok⟩ | ⟨found, hfound, htells⟩
    · rw [hok] at herror
      cases herror
    · rw [herror] at hfound
      cases hfound
      exact htells

/-- An entity that is identified by another one, which is related to the managed user. -/
def orderDefinitions : List EntityDefinition := [
  { name := "Line"
    fields := [{ name := "number", type := "Integer", id := some true }]
    relationships := [{ cardinality := .manyToOne, otherEntity := "Order", id := some true }] },
  { name := "Order"
    relationships :=
      [{ cardinality := .manyToMany, otherEntity := "User", inverseName := some "orders" }] }]

theorem orders_end_by_their_conditions : (orderDefinitions.map EntityDefinition.name).Nodup ∧
    EndsByConditions {} orderDefinitions :=
  have hn : (orderDefinitions.map EntityDefinition.name).Nodup := by decide
  ⟨hn, a_preparation_ends_by_its_conditions {} orderDefinitions hn⟩

end EntityPipeline
