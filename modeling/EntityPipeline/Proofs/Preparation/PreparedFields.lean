-- Preparing the fields of a registry. The entities get their fields one after the other, up to the
-- first declared field of unknown type. The entities before it are done, its own and all later
-- ones keep the fields they had.
import EntityPipeline.Proofs.Preparation.AddedIds

namespace EntityPipeline

variable {config : ApplicationConfig} {entity : Entity} {slot former : Slot}
  {slots before filled : List Slot} {fields : List Field} {e : Failure}

/-! ## The fields of one entity -/

/-- A prepared field beside the declared one. -/
structure FieldDefinition.PreparesTo (definition : FieldDefinition) (field : Field) : Prop where
  name : field.name = definition.name
  type : FieldType.parse definition.type definition.blobContent definition.values.isSome =
    some field.type

/-- Prepared fields beside a definition: each is of one family of types, and there is one for each
declared field in order, behind an added identifier if no part of a primary key is declared. -/
structure EntityDefinition.PreparesTo (definition : EntityDefinition) (config : ApplicationConfig)
    (fields : List Field) : Prop where
  one_family : ∀ field ∈ fields, field.typeFlags.families.count true = 1
  in_order : if definition.hasIdField || definition.hasIdRelationship then
      List.Forall₂ FieldDefinition.PreparesTo definition.fields fields
    else ∃ id declared, fields = id :: declared ∧ id.IsAddedId config ∧
      List.Forall₂ FieldDefinition.PreparesTo definition.fields declared

theorem count_families_of_entityFields (h : entityFields entity config = .ok fields) :
    ∀ field ∈ fields, field.typeFlags.families.count true = 1 := by
  unfold entityFields at h
  dsimp only at h
  rw [prepareEach_eq] at h
  intro field hin
  obtain ⟨planned, -, hfield⟩ := exists_source_of_mapM h field hin
  obtain ⟨type, -, rfl⟩ := eq_preparedField hfield
  exact FieldTypeFlags.count_families_ofType type

theorem preparesTo_of_entityFields (h : entityFields entity config = .ok fields) :
    entity.definition.PreparesTo config fields := by
  refine ⟨count_families_of_entityFields h, ?_⟩
  by_cases hlacks : lacksId entity.definition = true
  · obtain ⟨hfield, hrelationship⟩ := lacksId_iff.1 hlacks
    obtain ⟨id, declared, heq, hid, hplain⟩ :=
      startsWithId_of_plansId h (plansId_of_lacksId config entity.builtIn hlacks)
    rw [hfield, hrelationship]
    exact ⟨id, declared, heq, hid, hplain.imp fun _ _ hplain => ⟨hplain.name, hplain.type⟩⟩
  · have hpart : (entity.definition.hasIdField || entity.definition.hasIdRelationship) = true := by
      simpa [lacksId, Bool.or_eq_true, or_iff_not_imp_left] using hlacks
    rw [if_pos hpart]
    unfold entityFields plannedFields at h
    dsimp only at h
    rw [if_neg hlacks, prepareEach_eq] at h
    refine (List.forall₂_map_left_iff.1 (mapM_eq_ok.1 h)).imp fun definition field hfield => ?_
    obtain ⟨type, htype, rfl⟩ := eq_preparedField hfield
    exact ⟨rfl, htype⟩

/-- Preparing the fields of an entity fails with the first declared one of unknown type. -/
theorem failsFirst_of_entityFields (h : entityFields entity config = .error e) :
    ∃ known field rest, entity.definition.fields = known ++ field :: rest ∧
      (∀ earlier ∈ known, earlier.fieldType.isSome = true) ∧ field.fieldType = none ∧
      e = .unknownFieldType entity.name field.name field.type := by
  unfold entityFields at h
  dsimp only at h
  rw [prepareEach_eq] at h
  generalize hasSingleId entity.definition (plannedFields entity.definition config) = singleId at h
  have hdeclared : (entity.definition.fields.map (⟨·, false⟩)).mapM
      (prepareField entity config singleId) = .error e := by
    unfold plannedFields at h
    split at h
    · -- the type of an added identifier is known
      rw [mapM_cons_eq] at h
      split at h
      · rename_i cause hid
        have hnone := (prepareField_error hid).1
        rw [FieldDefinition.fieldType, parse_primaryKeyType] at hnone
        cases hnone
      · split at h
        · rename_i hdeclared
          rw [hdeclared]
          exact h
        · cases h
    · exact h
  obtain ⟨first, planned, after, heq, hfirst, hfails⟩ := failsFirst_of_mapM hdeclared
  obtain ⟨known, others, hfields, rfl, hothers⟩ := List.map_eq_append_iff.1 heq
  obtain ⟨field, rest, rfl, rfl, -⟩ := List.map_eq_cons_iff.1 hothers
  obtain ⟨hnone, rfl⟩ := prepareField_error hfails
  refine ⟨known, field, rest, hfields, ?_, hnone, rfl⟩
  intro earlier hin
  obtain ⟨prepared, hprepared⟩ := hfirst _ (List.mem_map_of_mem hin)
  exact (prepareField_ok hprepared).1

/-! ## The registry -/

/-- Every declared field has a type that is known, with its content and its values. -/
def Slot.IsTyped (slot : Slot) : Prop :=
  ∀ field ∈ slot.entity.definition.fields,
    (FieldType.parse field.type field.blobContent field.values.isSome).isSome = true

/-- A slot as it was, but for the fields of its entity, which are newly prepared. -/
def Slot.FillsFrom (config : ApplicationConfig) (former slot : Slot) : Prop :=
  ∃ fields, entityFields former.entity config = .ok fields ∧
    former.entity.definition.PreparesTo config fields ∧
    slot = { former with entity := { former.entity with fields } }

/-- What slots become when a declared field has an unknown type: the first such field, in the order
of registration and then of declaration, is told, and nothing from its entity on is changed. -/
inductive StopsAtField (config : ApplicationConfig) : List Slot → List Slot → Failure → Prop
  | intro {before filled after : List Slot} {slot : Slot} {known rest : List FieldDefinition}
      {field : FieldDefinition} :
      (∀ earlier ∈ before, earlier.IsTyped) →
      List.Forall₂ (Slot.FillsFrom config) before filled →
      slot.entity.definition.fields = known ++ field :: rest →
      (∀ earlier ∈ known, earlier.fieldType.isSome = true) → field.fieldType = none →
      StopsAtField config (before ++ slot :: after) (filled ++ slot :: after)
        (.unknownFieldType slot.entity.name field.name field.type)

theorem Slot.FillsFrom.isTyped (h : former.FillsFrom config slot) : former.IsTyped := by
  obtain ⟨fields, hfields, -, -⟩ := h
  exact (entityFields_ok hfields).1

theorem StopsAtField.cons {changed : List Slot} (hfirst : former.FillsFrom config slot)
    (h : StopsAtField config slots changed e) :
    StopsAtField config (former :: slots) (slot :: changed) e := by
  cases h with
  | intro hbefore hfilled hfields hknown hnone =>
    exact .intro (List.forall_mem_cons.2 ⟨hfirst.isTyped, hbefore⟩) (hfilled.cons hfirst) hfields
      hknown hnone

theorem StopsAtField.not_typed {changed : List Slot} (h : StopsAtField config slots changed e) :
    ¬∀ slot ∈ slots, slot.IsTyped := by
  cases h with
  | @intro before filled after slot known rest field _ _ hfields _ hnone =>
    intro htyped
    have hknown := htyped slot (by simp) field (by simp [hfields])
    rw [show FieldType.parse field.type field.blobContent field.values.isSome = none from hnone]
      at hknown
    cases hknown

/-- Filling the next slot either fills it or tells of the first of its fields of unknown type. -/
theorem fill_slot (config : ApplicationConfig) (slot : Slot) :
    (∃ changed, fill config slot.entity = .ok changed ∧
      slot.FillsFrom config { slot with entity := changed }) ∨
    ∃ e, fill config slot.entity = .error e ∧
      ∀ rest, StopsAtField config (slot :: rest) (slot :: rest) e := by
  cases hfill : fill config slot.entity with
  | ok changed =>
    obtain ⟨fields, hfields, rfl⟩ := fill_ok hfill
    exact Or.inl ⟨_, rfl, fields, hfields, preparesTo_of_entityFields hfields, rfl⟩
  | error e =>
    obtain ⟨known, field, rest, hfields, hknown, hnone, rfl⟩ :=
      failsFirst_of_entityFields (fill_error hfill)
    refine Or.inr ⟨_, rfl, fun others => ?_⟩
    have hbefore : List.Forall₂ (Slot.FillsFrom config) [] [] := .nil
    exact .intro (List.forall_mem_nil _) hbefore hfields hknown hnone

/-- Filling all slots fills every one of them or stops at the first field of unknown type. -/
theorem changeAll_fill (hopen : ∀ slot ∈ slots, slot.frozen = false) :
    (∃ filled, Slot.changeAll (fill config) slots = (filled, .ok ()) ∧
      List.Forall₂ (Slot.FillsFrom config) slots filled ∧ ∀ slot ∈ slots, slot.IsTyped) ∨
    ∃ changed e, Slot.changeAll (fill config) slots = (changed, .error e) ∧
      StopsAtField config slots changed e := by
  induction slots with
  | nil => exact Or.inl ⟨[], rfl, .nil, List.forall_mem_nil _⟩
  | cons slot rest ih =>
    obtain ⟨hfirst, hrest⟩ := List.forall_mem_cons.1 hopen
    unfold Slot.changeAll
    rw [if_neg (by simp [hfirst])]
    rcases fill_slot config slot with ⟨changed, hfill, hfilled⟩ | ⟨e, hfill, hstops⟩
    · rw [hfill]
      rcases ih hrest with ⟨filled, hall, hfills, htyped⟩ | ⟨others, e, hall, hstops⟩
      · exact Or.inl ⟨_, by rw [hall], hfills.cons hfilled,
          List.forall_mem_cons.2 ⟨hfilled.isTyped, htyped⟩⟩
      · exact Or.inr ⟨_, e, by rw [hall], hstops.cons hfilled⟩
    · rw [hfill]
      exact Or.inr ⟨_, e, rfl, hstops rest⟩

/-- Where no entity is frozen, fields are prepared just when all declared types are known, and then
every entity has its fields. Otherwise the first declared field of unknown type is told, the
entities before it have theirs, and all others keep what they had. -/
theorem fields_are_prepared_up_to_an_unknown_type (context : Context)
    (hopen : ∀ slot ∈ context.entities.slots, slot.frozen = false) :
    ((prepareFields context).result = .ok () ↔
      ∀ slot ∈ context.entities.slots, slot.IsTyped) ∧
    ((prepareFields context).result = .ok () →
      List.Forall₂ (Slot.FillsFrom context.config) context.entities.slots
        (prepareFields context).state.entities.slots) ∧
    (∀ e, (prepareFields context).result = .error e →
      StopsAtField context.config context.entities.slots
        (prepareFields context).state.entities.slots e) ∧
    (prepareFields context).state =
      { context with entities := (prepareFields context).state.entities } := by
  have hphase : prepareFields context =
      ⟨(Slot.changeAll (fill context.config) context.entities.slots).2, { context with
        entities := ⟨(Slot.changeAll (fill context.config) context.entities.slots).1⟩ }, []⟩ := rfl
  rw [hphase]
  rcases @changeAll_fill context.config _ hopen with
    ⟨filled, hall, hfills, htyped⟩ | ⟨changed, e, hall, hstops⟩
  · rw [hall]
    exact ⟨iff_of_true rfl htyped, fun _ => hfills, nofun, rfl⟩
  · rw [hall]
    refine ⟨iff_of_false nofun hstops.not_typed, nofun, ?_, rfl⟩
    intro cause hcause
    cases hcause
    exact hstops

/-- Three entities, the second one with a field of a type that nobody knows. -/
def illustratedBooks : Context :=
  (loadEntities (.ofDefinitions { skipUserManagement := true } [
    { name := "Author", fields := [{ name := "name", type := "String" }] },
    { name := "Book", fields := [{ name := "isbn", type := "String", id := some true },
      { name := "genre", type := "Genre", values := some "NOVEL,DRAMA" },
      { name := "cover", type := "Picture" }] },
    { name := "Shelf", fields := [{ name := "photo", type := "Picture" }] }])).state

theorem illustrated_books_stop_at_their_cover :
    (∀ slot ∈ illustratedBooks.entities.slots, slot.frozen = false) ∧
    (prepareFields illustratedBooks).result = .error (.unknownFieldType "Book" "cover" "Picture") ∧
    StopsAtField illustratedBooks.config illustratedBooks.entities.slots
      (prepareFields illustratedBooks).state.entities.slots
      (.unknownFieldType "Book" "cover" "Picture") ∧
    ¬∀ slot ∈ illustratedBooks.entities.slots, slot.IsTyped :=
  have hopen : ∀ slot ∈ illustratedBooks.entities.slots, slot.frozen = false := by decide
  have ⟨htyped, _, hstops, _⟩ := fields_are_prepared_up_to_an_unknown_type illustratedBooks hopen
  ⟨hopen, rfl, hstops _ rfl, fun hall => nomatch htyped.2 hall⟩

end EntityPipeline
