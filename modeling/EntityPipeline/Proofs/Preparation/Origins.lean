-- Where prepared fields come from. The generator adds identifiers, and a whole user where users are
-- managed; all other fields are supplied. Each field is marked by what adds it or by the entity it
-- is in, and so the marks tell origins apart but for what is supplied for the managed user.
import EntityPipeline.Proofs.Preparation.PreparedFields

namespace EntityPipeline

variable {config : ApplicationConfig} {context : Context} {entity : Entity} {fields : List Field}

/-! ## Origins -/

namespace Context

/-- The fields that are supplied for an entity. Of those for the managed user, these are the first
ones of each name that the built-in user does not have. -/
def suppliedFields (context : Context) (entity : Entity) : List FieldDefinition :=
  if entity.builtIn then
    ((suppliedUser context).fields.filter fun field =>
      !((userFields context.config).map FieldDefinition.name).contains field.name).eraseDupsBy
        fun field other => field.name == other.name
  else entity.definition.fields

/-- The fields that the generator has for an entity: those of the built-in user, or an identifier
where none is declared. -/
def ownFields (context : Context) (entity : Entity) : List FieldDefinition :=
  if entity.builtIn then userFields context.config
  else if lacksId entity.definition then
    [{ name := "id", type := context.config.primaryKeyType.name }]
  else []

/-- All fields of an entity in order, each with whether it is the generator that adds it. -/
def origins (context : Context) (entity : Entity) : List PlannedField :=
  (context.ownFields entity).map (⟨·, true⟩) ++ (context.suppliedFields entity).map (⟨·, false⟩)

theorem map_definition_origins (context : Context) (entity : Entity) :
    (context.origins entity).map PlannedField.definition =
      context.ownFields entity ++ context.suppliedFields entity := by
  simp [origins, Function.comp_def]

/-- The fields of an entity are prepared from their origins, and marked by a rule. -/
def Marks (context : Context) (entity : Entity) (mark : PlannedField → Bool) : Prop :=
  List.Forall₂ (fun origin field => origin.definition.PreparesTo field ∧
    field.builtIn = mark origin) (context.origins entity) entity.fields

/-- What a rule marks is told by what it says of the origins. -/
theorem Marks.iff_of_origins {mark other : PlannedField → Bool} (h : context.Marks entity mark) :
    context.Marks entity other ↔ ∀ origin ∈ context.origins entity, mark origin = other origin := by
  constructor
  · intro hother
    have hboth : List.Forall₂ (fun origin field => mark origin = other origin ∧
        origin.definition.PreparesTo field) (context.origins entity) entity.fields :=
      List.Forall₂.mp (fun _ _ hfirst hsecond => ⟨hfirst.2.symm.trans hsecond.2, hfirst.1⟩) h hother
    exact ((List.forall₂_and_left _ _).1 hboth).1
  · intro hsame
    refine ((List.forall₂_and_left _ _).2 ⟨hsame, h⟩).imp fun origin field hfield => ?_
    exact ⟨hfield.2.1, hfield.2.2.trans hfield.1⟩

end Context

/-! ## Planned fields -/

/-- Fields are marked that are planned to be added, and all fields of an entity that is. -/
theorem marked_of_entityFields (h : entityFields entity config = .ok fields) :
    List.Forall₂ (fun planned field => planned.definition.PreparesTo field ∧
      field.builtIn = (planned.added || entity.builtIn))
      (plannedFields entity.definition config) fields := by
  unfold entityFields at h
  dsimp only at h
  rw [prepareEach_eq] at h
  refine (mapM_eq_ok.1 h).imp fun planned field hfield => ?_
  obtain ⟨type, htype, rfl⟩ := eq_preparedField hfield
  exact ⟨⟨rfl, htype⟩, rfl⟩

/-- Outside the managed user, what is planned tells the origins. -/
theorem plannedFields_eq_origins (hbuiltIn : entity.builtIn = false) :
    plannedFields entity.definition context.config = context.origins entity := by
  unfold plannedFields Context.origins Context.ownFields Context.suppliedFields
  rw [hbuiltIn]
  cases lacksId entity.definition <;> simp

/-- In the managed user, the fields of the built-in one come first. -/
theorem fields_eq_origins (hbuiltIn : entity.builtIn = true)
    (hdefinition : entity.definition = mergeUser (builtInUser context.config)
      (suppliedUser context)) :
    entity.definition.fields = (context.origins entity).map PlannedField.definition := by
  have hfields : entity.definition.fields =
      addNewFields (userFields context.config) (suppliedUser context).fields := by
    rw [hdefinition]
    rfl
  rw [hfields, addNewFields_eq, Context.map_definition_origins, Context.ownFields,
    Context.suppliedFields, if_pos hbuiltIn, if_pos hbuiltIn]

/-- No identifier is added to the managed user, which has one. -/
theorem plannedFields_of_managed (hdefinition : entity.definition =
      mergeUser (builtInUser context.config) (suppliedUser context)) :
    plannedFields entity.definition context.config =
      entity.definition.fields.map (⟨·, false⟩) := by
  obtain ⟨-, new, -, heq⟩ := fields_mergeUser context.config (suppliedUser context)
  have hid : lacksId entity.definition = false := by
    rw [hdefinition, lacksId, EntityDefinition.hasIdField, heq]
    rfl
  unfold plannedFields
  rw [hid]
  rfl

/-! ## Marks -/

/-- The fields of every prepared entity are marked by their origin or by the entity. -/
theorem marks_of_prepareAll (h : (prepareAll context).result = .ok ())
    (hin : entity ∈ (prepareAll context).state.entities.entities) :
    context.Marks entity fun origin => origin.added || entity.builtIn := by
  obtain ⟨former, hdefinition, hsame, hfields⟩ := entityFields_of_prepareAll h entity hin
  have hmarked := marked_of_entityFields hfields
  rw [hdefinition, hsame] at hmarked
  unfold Context.Marks
  cases hbuiltIn : entity.builtIn with
  | false =>
    rw [hbuiltIn, plannedFields_eq_origins hbuiltIn] at hmarked
    exact hmarked
  | true =>
    have hmanaged := definition_of_builtIn h hin hbuiltIn
    rw [plannedFields_of_managed hmanaged, fields_eq_origins hbuiltIn hmanaged, List.map_map,
      List.forall₂_map_left_iff] at hmarked
    refine hmarked.imp fun origin field hfield => ⟨hfield.1, hfield.2.trans ?_⟩
    simp [hbuiltIn]

/-- Outside the managed user the marks tell where fields come from, and in it only as long as it has
no fields but the built-in ones. -/
theorem marks_origins_iff (h : (prepareAll context).result = .ok ())
    (hin : entity ∈ (prepareAll context).state.entities.entities) :
    context.Marks entity PlannedField.added ↔
      (entity.builtIn = true → context.suppliedFields entity = []) := by
  rw [(marks_of_prepareAll h hin).iff_of_origins]
  unfold Context.origins
  rw [List.forall_mem_append, List.forall_mem_map, List.forall_mem_map]
  simp only [Bool.true_or, Bool.false_or, implies_true, true_and]
  constructor
  · intro hnot hbuiltIn
    refine List.eq_nil_iff_forall_not_mem.2 fun field hfield => ?_
    have hunmarked := hnot field hfield
    rw [hbuiltIn] at hunmarked
    cases hunmarked
  · intro hnone field hfield
    refine Bool.eq_false_iff.2 fun hbuiltIn => ?_
    rw [hnone hbuiltIn] at hfield
    cases hfield

/-- Nothing new is supplied for the managed user just when every supplied field has the name of a
built-in one. -/
theorem suppliedFields_eq_nil (hbuiltIn : entity.builtIn = true) :
    context.suppliedFields entity = [] ↔ ∀ field ∈ (suppliedUser context).fields,
      field.name ∈ (userFields context.config).map FieldDefinition.name := by
  have hempty (l : List FieldDefinition) :
      l.eraseDupsBy (fun field other => field.name == other.name) = [] ↔ l = [] := by
    cases l <;> simp [List.eraseDupsBy_cons]
  unfold Context.suppliedFields
  rw [if_pos hbuiltIn, hempty, List.filter_eq_nil_iff]
  simp only [Bool.not_eq_true', Bool.not_eq_false, List.contains_iff_mem]

/-- What a prepared entity and the marks of its fields come from. -/
structure Context.TellsOrigins (context : Context) (entity : Entity) : Prop where
  /-- The entity is the managed user, or its definition was given. -/
  managed : entity.builtIn = true → managesUsers context.config = true ∧
    entity.definition = mergeUser (builtInUser context.config) (suppliedUser context)
  given : entity.builtIn = false → ∃ name, (name, entity.definition) ∈ context.declared
  marks : context.Marks entity fun origin => origin.added || entity.builtIn
  /-- The marks tell what the generator adds unless a field of a new name is supplied for the
  managed user. -/
  exactly : context.Marks entity PlannedField.added ↔
    (entity.builtIn = true → ∀ field ∈ (suppliedUser context).fields,
      field.name ∈ (userFields context.config).map FieldDefinition.name)

theorem declared_of_given (h : (prepareAll context).result = .ok ())
    (hin : entity ∈ (prepareAll context).state.entities.entities)
    (hbuiltIn : entity.builtIn = false) : ∃ name, (name, entity.definition) ∈ context.declared := by
  obtain ⟨slot, hslot, rfl⟩ := List.mem_map.1 hin
  have hexpected : slot.entity.provenance ∈ context.expected := by
    have hadded : slot.entity.provenance.builtIn = false := hbuiltIn
    rw [← provenance_expected h]
    exact List.mem_filter.2 ⟨List.mem_map_of_mem hslot, by simp [hadded]⟩
  obtain ⟨⟨name, definition⟩, hdeclared, heq⟩ := List.mem_map.1 hexpected
  obtain rfl : definition = slot.entity.definition := congrArg Provenance.definition heq
  exact ⟨name, List.mem_of_mem_filter hdeclared⟩

/-- After a preparation that succeeds, the generator's fields are marked in every entity and those
of a given definition are not; in the managed user all fields are marked, its own and those that are
supplied for it. -/
theorem fields_are_marked_by_origin_or_entity (context : Context)
    (h : (prepareAll context).result = .ok ()) :
    ∀ entity ∈ (prepareAll context).state.entities.entities, context.TellsOrigins entity :=
  fun _ hin => ⟨managed_of_builtIn h hin, declared_of_given h hin, marks_of_prepareAll h hin,
    (marks_origins_iff h hin).trans (forall_congr' suppliedFields_eq_nil)⟩

/-- A book, and a user with a name of its own and a login. -/
def nicknamedUsers : Context := .ofDefinitions {} [
  { name := "User", fields := [{ name := "nickname", type := "String" },
    { name := "login", type := "String" }] },
  { name := "Book", fields := [{ name := "title", type := "String" }] }]

theorem nicknamed_users_are_marked_as_a_whole :
    (prepareAll nicknamedUsers).result = .ok () ∧
    (prepareAll nicknamedUsers).state.entities.names = ["User", "Book"] ∧
    ∀ entity ∈ (prepareAll nicknamedUsers).state.entities.entities,
      nicknamedUsers.TellsOrigins entity :=
  ⟨rfl, rfl, fields_are_marked_by_origin_or_entity nicknamedUsers rfl⟩

/-- The supplied nickname is marked as if the generator added it. -/
theorem nicknames_are_marked : (prepareAll nicknamedUsers).result = .ok () ∧
    ((prepareAll nicknamedUsers).state.entities.entities.map fun entity =>
      (entity.name, entity.fields.map fun field => (field.name, field.builtIn))) =
      [("User", [("id", true), ("login", true), ("firstName", true), ("lastName", true),
        ("email", true), ("imageUrl", true), ("activated", true), ("langKey", true),
        ("nickname", true)]),
      ("Book", [("id", true), ("title", false)])] ∧
    ¬∀ entity ∈ (prepareAll nicknamedUsers).state.entities.entities,
      nicknamedUsers.Marks entity PlannedField.added := by
  have hok : (prepareAll nicknamedUsers).result = .ok () := rfl
  refine ⟨hok, rfl, fun hmarks => ?_⟩
  obtain ⟨user, hin, hbuiltIn, -⟩ := exists_managedUser hok rfl
  have hknown := (suppliedFields_eq_nil hbuiltIn).1
    ((marks_origins_iff hok hin).1 (hmarks user hin) hbuiltIn)
  have hnickname := hknown { name := "nickname", type := "String" } List.mem_cons_self
  rw [names_userFields] at hnickname
  exact absurd hnickname (by decide)

end EntityPipeline
