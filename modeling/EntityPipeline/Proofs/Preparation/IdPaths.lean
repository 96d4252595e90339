-- What identifiers say about where they come from. An identifier is put together one relationship
-- at a time while keys are borrowed. Its path can be followed in the registry that comes of it, and
-- at the end of the path stands the field whose name and type it has.
import EntityPipeline.Proofs.Preparation.AddedIds

namespace EntityPipeline

variable {registry other : Registry} {entities : List Entity} {entity last : Entity}
  {field : Field} {id : PrimaryKeyId} {path : List String} {place : Nat} {context : Context}

/-! ## Paths -/

/-- Identifying relationships lead from an entity along a path of their names to another one. -/
inductive LeadsAlong (registry : Registry) : Entity → List String → Entity → Prop
  | here (entity : Entity) : LeadsAlong registry entity [] entity
  | through {entity next last : Entity} {relationship : Relationship} {place : Nat}
      {path : List String} :
      relationship ∈ entity.relationships → relationship.id = true →
      relationship.target = some place → registry.resolve? place = some next →
      LeadsAlong registry next path last →
      LeadsAlong registry entity (relationship.name :: path) last

/-- An identifier tells of a field at the end of its path: it has the type of the field, and its
names are made of the path and the name of the field. -/
structure PrimaryKeyId.TellsOf (id : PrimaryKeyId) (field : Field) : Prop where
  type : id.type = field.type
  nameDotted : id.nameDotted = ".".intercalate (id.relationshipsPath ++ [field.name])
  nameDottedAsserted : id.nameDottedAsserted =
    ".".intercalate ((id.relationshipsPath ++ [field.name]).map (· ++ "!"))
  nameCapitalized : id.nameCapitalized = Text.upperFirst id.name
  getter : id.getter = "get" ++ Text.upperFirst id.name
  setter : id.setter = "set" ++ Text.upperFirst id.name
  autoGenerate : id.relationshipsPath ≠ [] → id.autoGenerate = false

/-- The path of an identifier leads from an entity to one that has an identifying field of which the
identifier tells. -/
def Registry.Describes (registry : Registry) (entity : Entity) (id : PrimaryKeyId) : Prop :=
  ∃ last field, LeadsAlong registry entity id.relationshipsPath last ∧ field ∈ last.fields ∧
    field.id = true ∧ id.TellsOf field

theorem tellsOf_own (field : Field) :
    (PrimaryKeyId.own field.name field.type field.autoGenerate).TellsOf field := by
  refine ⟨rfl, ?_, ?_, rfl, rfl, rfl, fun hpath => absurd rfl hpath⟩
  · simp [PrimaryKeyId.own]
  · simp [PrimaryKeyId.own]

theorem PrimaryKeyId.TellsOf.derived (h : id.TellsOf field) (relationship : String) :
    (PrimaryKeyId.derived relationship id).TellsOf field := by
  refine ⟨h.type, ?_, ?_, rfl, rfl, rfl, fun _ => rfl⟩
  · show relationship ++ "." ++ id.nameDotted = _
    rw [h.nameDotted]
    show _ = ".".intercalate (relationship :: (id.relationshipsPath ++ [field.name]))
    rw [String.intercalate_cons_of_ne_nil (by simp)]
  · show relationship ++ "!." ++ id.nameDottedAsserted = _
    rw [h.nameDottedAsserted]
    show _ = ".".intercalate
      ((relationship ++ "!") :: (id.relationshipsPath ++ [field.name]).map (· ++ "!"))
    have hmark : relationship ++ "!." = relationship ++ "!" ++ "." := by
      rw [String.append_assoc]
      rfl
    rw [String.intercalate_cons_of_ne_nil (by simp), hmark]

/-! ## Borrowing -/

/-- One more relationship in front of the path of an identifier leads to the same field. -/
theorem Registry.Describes.over {next : Entity} {relationship : Relationship}
    (h : registry.Describes next id) (hin : relationship ∈ entity.relationships)
    (hid : relationship.id = true) (htarget : relationship.target = some place)
    (hnext : registry.resolve? place = some next) :
    registry.Describes entity (.derived relationship.name id) := by
  obtain ⟨last, field, hpath, hfield, hown, htells⟩ := h
  exact ⟨last, field, .through hin hid htarget hnext hpath, hfield, hown, htells.derived _⟩

theorem describes_ownIds (registry : Registry) (entity : Entity) :
    ∀ id ∈ entity.ownIds, registry.Describes entity id := by
  intro id hin
  obtain ⟨field, hfield, rfl⟩ := List.mem_map.1 hin
  obtain ⟨hfield, hid⟩ := List.mem_filter.1 hfield
  exact ⟨entity, field, .here entity, hfield, hid, tellsOf_own field⟩

/-- All identifiers that an entity unfolds to are described by their paths. -/
theorem describes_of_unfolds {ids : List PrimaryKeyId} (h : Unfolds entities place ids) :
    ∃ entity, entities[place]? = some entity ∧
      ∀ id ∈ ids, (Registry.unfrozen entities).Describes entity id := by
  induction h with
  | @intro place unfolded all hplace htargets hunfolds ih =>
    refine ⟨unfolded, hplace, fun id hin => ?_⟩
    rcases List.mem_append.1 hin with hown | hborrowed
    · exact describes_ownIds _ _ id hown
    · -- the identifier is borrowed from an entity whose own ones are described
      obtain ⟨relationship, hrelationship, hborrowed⟩ := List.mem_flatMap.1 hborrowed
      obtain ⟨target, htarget⟩ := Option.isSome_iff_exists.1 (htargets _ hrelationship)
      rw [htarget] at hborrowed
      obtain ⟨borrowed, htheirs, rfl⟩ := List.mem_map.1 hborrowed
      obtain ⟨hrelated, hid⟩ := List.mem_filter.1 hrelationship
      obtain ⟨next, hnext, hdescribed⟩ := ih _ hrelationship target htarget
      exact (hdescribed borrowed htheirs).over hrelated hid htarget
        (Registry.resolve?_unfrozen.trans hnext)

/-! ## The whole preparation -/

/-- What an entity holds that paths go through: its fields and its relationships. -/
def Entity.ways (entity : Entity) : List Field × List Relationship :=
  (entity.fields, entity.relationships)

/-- Paths lead the same ways wherever the entities have the same fields and relationships. -/
theorem LeadsAlong.transfer
    (h : ∀ place entity, registry.resolve? place = some entity →
      ∃ same, other.resolve? place = some same ∧ same.ways = entity.ways)
    (hleads : LeadsAlong registry entity path last) {start : Entity}
    (hstart : start.ways = entity.ways) :
    ∃ goal, LeadsAlong other start path goal ∧ goal.ways = last.ways := by
  induction hleads generalizing start with
  | here entity => exact ⟨start, .here start, hstart⟩
  | through hin hid htarget hnext _ ih =>
    obtain ⟨same, hsame, hways⟩ := h _ _ hnext
    obtain ⟨goal, hgoal, hlast⟩ := ih hways
    rw [← (Prod.mk.inj hstart).2] at hin
    exact ⟨goal, .through hin hid htarget hsame hgoal, hlast⟩

theorem Registry.Describes.transfer
    (h : ∀ place entity, registry.resolve? place = some entity →
      ∃ same, other.resolve? place = some same ∧ same.ways = entity.ways)
    (hdescribes : registry.Describes entity id) {start : Entity}
    (hstart : start.ways = entity.ways) : other.Describes start id := by
  obtain ⟨last, field, hleads, hfield, hid, htells⟩ := hdescribes
  obtain ⟨goal, hgoal, hways⟩ := hleads.transfer h hstart
  rw [← (Prod.mk.inj hways).1] at hfield
  exact ⟨goal, field, hgoal, hfield, hid, htells⟩

/-- Where all phases have gone through, every identifier of every key describes a real path:
followed from the entity, over an identifying relationship at each step, it ends at an entity with
an identifying field that has the type of the identifier, and the names of the identifier are those
on the path. What is borrowed is never generated. -/
theorem identifiers_describe_their_paths (context : Context)
    (h : (prepareAll context).result = .ok ()) :
    ∀ entity ∈ (prepareAll context).state.entities.entities, ∃ key,
      entity.primaryKey = some key ∧
        ∀ id ∈ key.ids, (prepareAll context).state.entities.Describes entity id := by
  obtain ⟨named, -, -, hprepared, hlast, hstate⟩ := stages_of_prepareAll h
  obtain ⟨entities, keys, -, hn, hrelates, hfinished⟩ := finished_of_fieldsPrepared hprepared hlast
  rw [hstate, hfinished]
  refine List.forall_mem_map.2 (List.forall_mem_map.2 fun entity hin => ?_)
  obtain ⟨place, former, hformer, rfl⟩ := exists_of_mem_withKeys_related hin
  have hrelated := getElem?_related_of hformer
  obtain ⟨ids, hunfolds, hne, hkey⟩ := hrelates.settled.unfolded place _ hrelated (by simp)
  obtain ⟨key, hsome⟩ := Option.isSome_iff_exists.1 (isSome_ofIds hne)
  rw [Entity.keyOf, hsome] at hkey
  refine ⟨key, hkey, fun id hid => ?_⟩
  rw [(ids_of_ofIds hsome).1] at hid
  obtain ⟨unfolded, hunfolded, hdescribes⟩ := describes_of_unfolds hunfolds
  obtain rfl := Option.some.inj (hunfolded.symm.trans hrelated)
  refine (hdescribes id hid).transfer (fun place found hfound => ?_) rfl
  -- keys and sums were added to the entities in place
  rw [Registry.resolve?_unfrozen] at hfound
  let keyed := finished (.unfrozen (withKeys (related entities) keys)) (found.keyed (keys place))
  refine ⟨keyed.entity, ?_, rfl⟩
  rw [Registry.resolve?, List.getElem?_map, getElem?_withKeys, hfound]
  rfl

theorem parcel_identifiers_describe_their_paths : (prepareAll parcels).result = .ok () ∧
    ((prepareAll parcels).state.entities.entities.map fun entity =>
      (entity.primaryKey.map PrimaryKey.ids).getD [] |>.map PrimaryKeyId.nameDottedAsserted) =
      [["number!", "shipment!.depot!.id!"], ["depot!.id!"], ["id!"]] ∧
    ∀ entity ∈ (prepareAll parcels).state.entities.entities, ∃ key,
      entity.primaryKey = some key ∧
        ∀ id ∈ key.ids, (prepareAll parcels).state.entities.Describes entity id :=
  have hok : (prepareAll parcels).result = .ok () := rfl
  ⟨hok, rfl, identifiers_describe_their_paths parcels hok⟩

end EntityPipeline
