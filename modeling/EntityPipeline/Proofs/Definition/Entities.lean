-- Definitions read back. A definition that has been read is written as a sorted value that is read
-- as the same definition, from a text and as a value.
import EntityPipeline.Proofs.Definition.Options

namespace EntityPipeline

open Json

variable {ok : Number → Prop} {n : Nat} {d : Draft} {origin : Origin}

/-! ## Fields -/

namespace FieldDefinition

/-- The fields of a declared field. -/
def slots (field : FieldDefinition) : List Slot :=
  [.single "fieldName" .text (.string field.name),
    .single "fieldType" .text (.string field.type),
    .optional "javadoc" .text .string field.javadoc,
    .optional "fieldValues" .text .string field.values,
    .optional "fieldTypeBlobContent" .text .string field.blobContent,
    .list "fieldValidateRules" .text .string field.rules,
    .optional "fieldValidateRulesMinlength" .value (fun v => v) field.minLength,
    .optional "fieldValidateRulesMaxlength" .value (fun v => v) field.maxLength,
    .optional "fieldValidateRulesPattern" .text .string field.pattern,
    .optional "fieldValidateRulesMin" .value (fun v => v) field.min,
    .optional "fieldValidateRulesMax" .value (fun v => v) field.max,
    .optional "fieldValidateRulesMinbytes" .value (fun v => v) field.minBytes,
    .optional "fieldValidateRulesMaxbytes" .value (fun v => v) field.maxBytes,
    .optional "id" .bool .bool field.id]

theorem nodup_keys_schema : (keys schema).Nodup := by decide

theorem toJson_eq (field : FieldDefinition) :
    field.toJson = .ofMembers (writtenOf field.slots ++ field.extra) := by
  simp only [toJson, valueMember, writtenOf, slots, List.flatMap_cons, List.flatMap_nil,
    Slot.members_single, Slot.members_optional, Slot.members_list, List.append_assoc,
    List.cons_append, List.nil_append]

/-- The bounds of a field, which are kept as they are given. -/
def bounds (field : FieldDefinition) : List (Option Json) :=
  [field.minLength, field.maxLength, field.min, field.max, field.minBytes, field.maxBytes]

/-- A field as it is kept. -/
structure IsProper (ok : Number → Prop) (n : Nat) (field : FieldDefinition) : Prop where
  bounds : ∀ bound ∈ field.bounds, ∀ v, bound = some v → IsKept ok n v
  extra : IsExtra (keys schema) ok n field.extra

theorem isProper_of_read {field : FieldDefinition} (hfits : d.Fits ok (n + 1))
    (h : read d = .ok field) : field.IsProper ok n := by
  cases d with
  | object members ending =>
    have hmembers := hfits.of_object
    simp only [read, bind_eq_ok] at h
    obtain ⟨_, -, _, -, _, -, _, -, _, -, _, -, _, -, minLength, hminLength, maxLength, hmaxLength,
      _, -, min, hmin, max, hmax, minBytes, hminBytes, maxBytes, hmaxBytes, _, -, extra, hextra,
      h⟩ := h
    obtain rfl := Except.ok.inj h
    refine ⟨?_, isExtra_of_extraMembers hmembers hextra⟩
    have hbound {key : String} {bound : Option Json}
        (h : optionalField key .value members = .ok bound) : ∀ v, bound = some v → IsKept ok n v :=
      fun v hv => isKept_of_optionalField hmembers (hv ▸ h)
    simp only [FieldDefinition.bounds, List.forall_mem_cons]
    exact ⟨hbound hminLength, hbound hmaxLength, hbound hmin, hbound hmax, hbound hminBytes,
      hbound hmaxBytes, List.forall_mem_nil _⟩
  | _ => cases h

theorem areWritten_slots {field : FieldDefinition} (h : field.IsProper ok (n + 1)) :
    AreWritten ok (n + 1) field.slots := by
  have hrules : ∀ rule ∈ field.rules, IsReadBack ok n .text (.string rule) rule :=
    fun rule _ => isReadBack_text rule
  have hbounds := h.bounds
  simp only [bounds, List.forall_mem_cons] at hbounds
  obtain ⟨hminLength, hmaxLength, hmin, hmax, hminBytes, hmaxBytes, -⟩ := hbounds
  refine ⟨nodup_keys_schema, ?_⟩
  simp only [slots, List.forall_mem_cons]
  exact ⟨Slot.passes_single (isReadBack_text _), Slot.passes_single (isReadBack_text _),
    Slot.passes_optional (isReadBackIfAny_text _), Slot.passes_optional (isReadBackIfAny_text _),
    Slot.passes_optional (isReadBackIfAny_text _), Slot.passes_list hrules,
    Slot.passes_optional (isReadBackIfAny_value hminLength),
    Slot.passes_optional (isReadBackIfAny_value hmaxLength),
    Slot.passes_optional (isReadBackIfAny_text _),
    Slot.passes_optional (isReadBackIfAny_value hmin),
    Slot.passes_optional (isReadBackIfAny_value hmax),
    Slot.passes_optional (isReadBackIfAny_value hminBytes),
    Slot.passes_optional (isReadBackIfAny_value hmaxBytes),
    Slot.passes_optional (isReadBackIfAny_bool _), List.forall_mem_nil _⟩

theorem areBeside_extra {field : FieldDefinition} (h : field.IsProper ok n) :
    AreBeside field.slots Decoder.value.check field.extra :=
  h.extra.areBeside rfl check_value

/-- A field is read from the members it is written as, in the order of the keys. -/
theorem read_drafts {field : FieldDefinition} (h : field.IsProper ok (n + 1)) :
    read (.object (drafts field.slots field.extra) .closed) = .ok field := by
  have hwritten := areWritten_slots h
  have hextra := areBeside_extra h
  have hrules : ∀ rule ∈ field.rules, IsReadBack ok n .text (.string rule) rule :=
    fun rule _ => isReadBack_text rule
  obtain ⟨hbounds, hkept⟩ := h
  simp only [bounds, List.forall_mem_cons] at hbounds
  obtain ⟨hminLength, hmaxLength, hmin, hmax, hminBytes, hmaxBytes, -⟩ := hbounds
  refine bind_eq_ok.2 ⟨(), checkRecord_drafts hwritten hextra, ?_⟩
  refine bind_eq_ok.2 ⟨_, required_single hwritten hextra (by simp [slots])
    (isReadBack_text field.name), ?_⟩
  refine bind_eq_ok.2 ⟨_, required_single hwritten hextra (by simp [slots])
    (isReadBack_text field.type), ?_⟩
  refine bind_eq_ok.2 ⟨_, optionalField_optional hwritten hextra (by simp [slots])
    (isReadBackIfAny_text field.javadoc), ?_⟩
  refine bind_eq_ok.2 ⟨_, optionalField_optional hwritten hextra (by simp [slots])
    (isReadBackIfAny_text field.values), ?_⟩
  refine bind_eq_ok.2 ⟨_, optionalField_optional hwritten hextra (by simp [slots])
    (isReadBackIfAny_text field.blobContent), ?_⟩
  refine bind_eq_ok.2 ⟨_, defaulted_list hwritten hextra (by simp [slots]) hrules, ?_⟩
  refine bind_eq_ok.2 ⟨_, optionalField_optional hwritten hextra (by simp [slots])
    (isReadBackIfAny_value hminLength), ?_⟩
  refine bind_eq_ok.2 ⟨_, optionalField_optional hwritten hextra (by simp [slots])
    (isReadBackIfAny_value hmaxLength), ?_⟩
  refine bind_eq_ok.2 ⟨_, optionalField_optional hwritten hextra (by simp [slots])
    (isReadBackIfAny_text field.pattern), ?_⟩
  refine bind_eq_ok.2 ⟨_, optionalField_optional hwritten hextra (by simp [slots])
    (isReadBackIfAny_value hmin), ?_⟩
  refine bind_eq_ok.2 ⟨_, optionalField_optional hwritten hextra (by simp [slots])
    (isReadBackIfAny_value hmax), ?_⟩
  refine bind_eq_ok.2 ⟨_, optionalField_optional hwritten hextra (by simp [slots])
    (isReadBackIfAny_value hminBytes), ?_⟩
  refine bind_eq_ok.2 ⟨_, optionalField_optional hwritten hextra (by simp [slots])
    (isReadBackIfAny_value hmaxBytes), ?_⟩
  refine bind_eq_ok.2 ⟨_, optionalField_optional hwritten hextra (by simp [slots])
    (isReadBackIfAny_bool field.id), ?_⟩
  exact bind_eq_ok.2 ⟨_, extraMembers_drafts hwritten hextra hkept.increasing hkept.sorted, rfl⟩

/-- A field reads back. -/
theorem isReadBack {field : FieldDefinition} (h : field.IsProper ok (n + 1)) :
    IsReadBack ok (n + 2) read field.toJson field := by
  rw [toJson_eq]
  exact isReadBack_written (areWritten_slots h) h.extra.sorted h.extra.fits (read_drafts h)

end FieldDefinition

/-! ## Relationships -/

/-- The written name of a cardinality is read as it, wherever it stands. -/
theorem Cardinality.isReadBack (cardinality : Cardinality) :
    IsReadBack ok n (Cardinality.read origin) (.string cardinality.name) cardinality := by
  refine ⟨?_, rfl, .string _⟩
  cases origin <;> cases cardinality <;> rfl

namespace RelationshipDefinition

/-- The fields of a declared relationship. -/
def slots (origin : Origin) (relationship : RelationshipDefinition) : List Slot :=
  [.single "relationshipType" (Cardinality.read origin) (.string relationship.cardinality.name),
    .optional "relationshipName" .text .string relationship.name,
    .single "otherEntityName" .text (.string relationship.otherEntity),
    .optional "otherEntityRelationshipName" .text .string relationship.inverseName,
    .optional "otherEntityField" .text .string relationship.otherField,
    .optional "ownerSide" .bool .bool relationship.ownerSide,
    .optional "relationshipValidateRules" .value (fun v => v) relationship.rules,
    .optional "javadoc" .text .string relationship.javadoc,
    .optional "id" .bool .bool relationship.id]

/-- The keys that a relationship knows. -/
def knownKeys : List String :=
  ["relationshipType", "relationshipName", "otherEntityName", "otherEntityRelationshipName",
    "otherEntityField", "ownerSide", "relationshipValidateRules", "javadoc", "id"]

theorem keys_schema (origin : Origin) : keys (schema origin) = knownKeys := rfl

theorem nodup_knownKeys : knownKeys.Nodup := by decide

theorem toJson_eq (origin : Origin) (relationship : RelationshipDefinition) :
    relationship.toJson =
      .ofMembers (writtenOf (relationship.slots origin) ++ relationship.extra) := by
  simp only [toJson, valueMember, writtenOf, slots, List.flatMap_cons, List.flatMap_nil,
    Slot.members_single, Slot.members_optional, List.append_assoc, List.cons_append,
    List.nil_append]

/-- A relationship as it is kept. -/
structure IsProper (ok : Number → Prop) (n : Nat) (relationship : RelationshipDefinition) :
    Prop where
  rules : ∀ v, relationship.rules = some v → IsKept ok n v
  extra : IsExtra knownKeys ok n relationship.extra

theorem isProper_of_read {relationship : RelationshipDefinition} (hfits : d.Fits ok (n + 1))
    (h : read origin d = .ok relationship) : relationship.IsProper ok n := by
  cases d with
  | object members ending =>
    have hmembers := hfits.of_object
    simp only [read, bind_eq_ok] at h
    obtain ⟨_, -, _, -, _, -, _, -, _, -, _, -, _, -, rules, hrules, _, -, _, -, extra, hextra,
      h⟩ := h
    obtain rfl := Except.ok.inj h
    have hkept := isExtra_of_extraMembers hmembers hextra
    rw [keys_schema] at hkept
    refine ⟨?_, hkept⟩
    rintro v rfl
    exact isKept_of_optionalField hmembers hrules
  | _ => cases h

theorem areWritten_slots {relationship : RelationshipDefinition} (h : relationship.IsProper ok n) :
    AreWritten ok n (relationship.slots origin) := by
  refine ⟨nodup_knownKeys, ?_⟩
  simp only [slots, List.forall_mem_cons]
  exact ⟨Slot.passes_single (Cardinality.isReadBack _),
    Slot.passes_optional (isReadBackIfAny_text _), Slot.passes_single (isReadBack_text _),
    Slot.passes_optional (isReadBackIfAny_text _), Slot.passes_optional (isReadBackIfAny_text _),
    Slot.passes_optional (isReadBackIfAny_bool _),
    Slot.passes_optional (isReadBackIfAny_value h.rules),
    Slot.passes_optional (isReadBackIfAny_text _), Slot.passes_optional (isReadBackIfAny_bool _),
    List.forall_mem_nil _⟩

theorem areBeside_extra {relationship : RelationshipDefinition} (h : relationship.IsProper ok n) :
    AreBeside (relationship.slots origin) Decoder.value.check relationship.extra :=
  h.extra.areBeside rfl check_value

/-- A relationship is read from the members it is written as, in the order of the keys. -/
theorem read_drafts {relationship : RelationshipDefinition} (h : relationship.IsProper ok n) :
    read origin (.object (drafts (relationship.slots origin) relationship.extra) .closed) =
      .ok relationship := by
  have hwritten : AreWritten ok n (relationship.slots origin) := areWritten_slots h
  have hextra : AreBeside (relationship.slots origin) _ _ := areBeside_extra h
  refine bind_eq_ok.2 ⟨(), checkRecord_drafts hwritten hextra, ?_⟩
  refine bind_eq_ok.2 ⟨_, required_single hwritten hextra (by simp [slots])
    (Cardinality.isReadBack relationship.cardinality), ?_⟩
  refine bind_eq_ok.2 ⟨_, optionalField_optional hwritten hextra (by simp [slots])
    (isReadBackIfAny_text relationship.name), ?_⟩
  refine bind_eq_ok.2 ⟨_, required_single hwritten hextra (by simp [slots])
    (isReadBack_text relationship.otherEntity), ?_⟩
  refine bind_eq_ok.2 ⟨_, optionalField_optional hwritten hextra (by simp [slots])
    (isReadBackIfAny_text relationship.inverseName), ?_⟩
  refine bind_eq_ok.2 ⟨_, optionalField_optional hwritten hextra (by simp [slots])
    (isReadBackIfAny_text relationship.otherField), ?_⟩
  refine bind_eq_ok.2 ⟨_, optionalField_optional hwritten hextra (by simp [slots])
    (isReadBackIfAny_bool relationship.ownerSide), ?_⟩
  refine bind_eq_ok.2 ⟨_, optionalField_optional hwritten hextra (by simp [slots])
    (isReadBackIfAny_value h.rules), ?_⟩
  refine bind_eq_ok.2 ⟨_, optionalField_optional hwritten hextra (by simp [slots])
    (isReadBackIfAny_text relationship.javadoc), ?_⟩
  refine bind_eq_ok.2 ⟨_, optionalField_optional hwritten hextra (by simp [slots])
    (isReadBackIfAny_bool relationship.id), ?_⟩
  exact bind_eq_ok.2 ⟨_, extraMembers_drafts hwritten hextra h.extra.increasing h.extra.sorted, rfl⟩

/-- A relationship reads back. -/
theorem isReadBack {relationship : RelationshipDefinition} (h : relationship.IsProper ok n) :
    IsReadBack ok (n + 1) (read origin) relationship.toJson relationship := by
  rw [toJson_eq origin]
  exact isReadBack_written (areWritten_slots h) h.extra.sorted h.extra.fits (read_drafts h)

end RelationshipDefinition

/-! ## Entities -/

namespace EntityDefinition

/-- The fields of an entity that are not options. -/
def slots (origin : Origin) (definition : EntityDefinition) : List Slot :=
  [.single "name" .text (.string definition.name),
    .single "fields" (.list FieldDefinition.read)
      (.array (definition.fields.map FieldDefinition.toJson)),
    .single "relationships" (.list (RelationshipDefinition.read origin))
      (.array (definition.relationships.map RelationshipDefinition.toJson)),
    .optional "javadoc" .text .string definition.javadoc,
    .optional "changelogDate" .text .string definition.changelogDate,
    .optional "entityTableName" .text .string definition.tableName]

/-- The keys that an entity knows, options aside. -/
def knownKeys : List String :=
  ["name", "fields", "relationships", "javadoc", "changelogDate", "entityTableName"]

theorem keys_schema (origin : Origin) : keys (schema origin) = knownKeys := rfl

theorem nodup_knownKeys : knownKeys.Nodup := by decide

theorem toJson_eq (origin : Origin) (definition : EntityDefinition) :
    definition.toJson =
      .ofMembers (writtenOf (definition.slots origin) ++ definition.options.members) := by
  simp only [toJson, writtenOf, slots, List.flatMap_cons, List.flatMap_nil, Slot.members_single,
    Slot.members_optional, List.append_assoc, List.cons_append, List.nil_append]

/-- A definition as it is kept: members that are no options are none that the entity knows. -/
structure IsProper (ok : Number → Prop) (n : Nat) (definition : EntityDefinition) : Prop where
  fields : ∀ field ∈ definition.fields, field.IsProper ok n
  relationships : ∀ relationship ∈ definition.relationships, relationship.IsProper ok n
  options : definition.options.IsProper ok (n + 1)
  foreign : ∀ key ∈ keys definition.options.extra, key ∉ knownKeys

theorem isProper_of_read {definition : EntityDefinition} (hfits : d.Fits ok (n + 3))
    (h : read origin d = .ok definition) : definition.IsProper ok n := by
  cases d with
  | object members ending =>
    have hmembers := hfits.of_object
    simp only [read, bind_eq_ok] at h
    obtain ⟨_, -, _, -, fields, hfields, relationships, hrelationships, _, -, _, -, _, -, options,
      hoptions, h⟩ := h
    obtain rfl := Except.ok.inj h
    have hunknown : ∀ member ∈ unknownMembers (schema origin) members, member.2.Fits ok (n + 2) :=
      fun member hmem => hmembers member (List.mem_of_mem_filter hmem)
    refine ⟨?_, ?_, EntityOptions.isProper_of_ofMembers hunknown hoptions, fun key hkey => ?_⟩
    · exact forall_of_defaulted_list hmembers (fun _ _ => FieldDefinition.isProper_of_read) hfields
    · exact forall_of_defaulted_list hmembers (fun _ _ => RelationshipDefinition.isProper_of_read)
        hrelationships
    · obtain ⟨member, hmem, rfl⟩ := List.mem_map.1
        (EntityOptions.mem_keys_of_ofMembers hoptions key hkey)
      have hnone := Option.isNone_iff_eq_none.1 (List.mem_filter.1 hmem).2
      rw [← keys_schema origin]
      exact lookup_eq_none_iff.1 hnone
  | _ => cases h

theorem areBeside_options {definition : EntityDefinition} (h : definition.IsProper ok (n + 2)) :
    AreBeside (definition.slots origin) Decoder.value.check definition.options.members := by
  have hwritten := EntityOptions.areWritten_slots h.options
  have hextra := EntityOptions.areBeside_extra h.options
  have hdisjoint : ∀ key ∈ keys EntityOptions.schema, key ∉ knownKeys := by decide
  refine ⟨?_, fun key hkey => ?_, fun member _ => check_value member.2⟩
  · rw [EntityOptions.members_eq]
    exact nodup_keys_written hwritten hextra
  · rw [EntityOptions.members_eq, keys_append] at hkey
    rcases List.mem_append.1 hkey with hkey | hkey
    · exact hdisjoint key ((keys_writtenOf_sublist _).subset hkey)
    · exact h.foreign key hkey

theorem isReadBack_fields {definition : EntityDefinition} (h : definition.IsProper ok (n + 2)) :
    IsReadBack ok (n + 4) (.list FieldDefinition.read)
      (.array (definition.fields.map FieldDefinition.toJson)) definition.fields :=
  isReadBack_list fun field hfield => FieldDefinition.isReadBack (h.fields field hfield)

theorem isReadBack_relationships {definition : EntityDefinition}
    (h : definition.IsProper ok (n + 2)) :
    IsReadBack ok (n + 4) (.list (RelationshipDefinition.read origin))
      (.array (definition.relationships.map RelationshipDefinition.toJson))
      definition.relationships :=
  isReadBack_list fun relationship hmem =>
    RelationshipDefinition.isReadBack (h.relationships relationship hmem)

theorem areWritten_slots {definition : EntityDefinition} (h : definition.IsProper ok (n + 2)) :
    AreWritten ok (n + 4) (definition.slots origin) := by
  refine ⟨nodup_knownKeys, ?_⟩
  simp only [slots, List.forall_mem_cons]
  exact ⟨Slot.passes_single (isReadBack_text _), Slot.passes_single (isReadBack_fields h),
    Slot.passes_single (isReadBack_relationships h), Slot.passes_optional (isReadBackIfAny_text _),
    Slot.passes_optional (isReadBackIfAny_text _), Slot.passes_optional (isReadBackIfAny_text _),
    List.forall_mem_nil _⟩

/-- An entity is read from the members it is written as, in the order of the keys. -/
theorem read_drafts {definition : EntityDefinition} (h : definition.IsProper ok (n + 2)) :
    read origin (.object (drafts (definition.slots origin) definition.options.members) .closed) =
      .ok definition := by
  have hwritten : AreWritten ok (n + 4) (definition.slots origin) := areWritten_slots h
  have hextra : AreBeside (definition.slots origin) _ _ := areBeside_options h
  refine bind_eq_ok.2 ⟨(), checkRecord_drafts hwritten hextra, ?_⟩
  refine bind_eq_ok.2 ⟨_, defaulted_single hwritten hextra (by simp [slots])
    (isReadBack_text definition.name), ?_⟩
  refine bind_eq_ok.2 ⟨_, defaulted_single hwritten hextra (by simp [slots])
    (isReadBack_fields h), ?_⟩
  refine bind_eq_ok.2 ⟨_, defaulted_single hwritten hextra (by simp [slots])
    (isReadBack_relationships h), ?_⟩
  refine bind_eq_ok.2 ⟨_, optionalField_optional hwritten hextra (by simp [slots])
    (isReadBackIfAny_text definition.javadoc), ?_⟩
  refine bind_eq_ok.2 ⟨_, optionalField_optional hwritten hextra (by simp [slots])
    (isReadBackIfAny_text definition.changelogDate), ?_⟩
  refine bind_eq_ok.2 ⟨_, optionalField_optional hwritten hextra (by simp [slots])
    (isReadBackIfAny_text definition.tableName), ?_⟩
  refine bind_eq_ok.2 ⟨definition.options, ?_, rfl⟩
  have hunknown : unknownMembers (schema origin) (drafts (definition.slots origin) _) = _ :=
    unknownMembers_drafts hwritten hextra
  rw [EntityOptions.members_eq] at hunknown ⊢
  exact (congrArg _ hunknown).trans (EntityOptions.ofMembers_drafts h.options)

/-- An entity reads back. -/
theorem isReadBack {definition : EntityDefinition} (h : definition.IsProper ok (n + 2)) :
    IsReadBack ok (n + 5) (read origin) definition.toJson definition := by
  have hoptions := EntityOptions.areWritten_slots h.options
  rw [toJson_eq origin]
  refine isReadBack_written (areWritten_slots h) ?_ ?_ (read_drafts h)
  · rw [EntityOptions.members_eq]
    exact isSorted_written hoptions h.options.extra.sorted
  · rw [EntityOptions.members_eq]
    exact fits_written hoptions h.options.extra.fits

end EntityDefinition

end EntityPipeline
