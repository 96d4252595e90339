-- Reading definitions member by member. Whether an object is read as a definition is settled by
-- each of its members alone, and what is written again under a key depends only on what stood under
-- it. So definitions can be compared key by key while members of objects are replaced.
import EntityPipeline.Proofs.Definition.Snapshots
import EntityPipeline.Proofs.Json.Memberwise

namespace EntityPipeline

open Json

/-! ## Options -/

namespace EntityOptions

variable {members : List (String × Draft)} {options : EntityOptions}

/-- The fields of options. -/
def parts : List Part :=
  [.optional "dto" (.variant DtoStrategy.variants) (.string ·.name),
    .optional "pagination" (.variant PaginationStrategy.variants) (.string ·.name),
    .optional "service" (.variant ServiceStrategy.variants) (.string ·.name),
    .optional "jpaMetamodelFiltering" readFlag .bool,
    .optional "fluentMethods" readFlag .bool,
    .optional "readOnly" readFlag .bool,
    .optional "embedded" readFlag .bool,
    .optional "searchEngine" SearchEngine.read SearchEngine.toJson,
    .optional "clientRootFolder" .text .string,
    .optional "microserviceName" .text .string,
    .optional "angularJSSuffix" .text .string,
    .optional "skipClient" readFlag .bool,
    .optional "skipServer" readFlag .bool,
    .optional "secure" Security.read Security.toJson]

/-- What is written for options depends on each field's own member. -/
theorem slots_of_ofMembers (h : ofMembers members = .ok options) :
    options.slots = parts.map (·.slot members) ∧
      extraMembers schema members = .ok options.extra := by
  simp only [ofMembers, bind_eq_ok] at h
  obtain ⟨_, -, dto, hdto, pagination, hpagination, service, hservice, filtering, hfiltering,
    fluent, hfluent, readOnly, hreadOnly, embedded, hembedded, engine, hengine, folder, hfolder,
    microservice, hmicroservice, suffix, hsuffix, skipClient, hskipClient, skipServer, hskipServer,
    secure, hsecure, extra, hextra, h⟩ := h
  obtain rfl := Except.ok.inj h
  refine ⟨?_, hextra⟩
  simp only [slots, parts, List.map_cons, List.map_nil, Part.slot_optional hdto,
    Part.slot_optional hpagination, Part.slot_optional hservice, Part.slot_optional hfiltering,
    Part.slot_optional hfluent, Part.slot_optional hreadOnly, Part.slot_optional hembedded,
    Part.slot_optional hengine, Part.slot_optional hfolder, Part.slot_optional hmicroservice,
    Part.slot_optional hsuffix, Part.slot_optional hskipClient, Part.slot_optional hskipServer,
    Part.slot_optional hsecure]

/-- Members that pass their checks are read as options. -/
theorem exists_ofMembers (h : checkMembers schema skipUnknown [] members = .ok ())
    (hextra : ∃ extra, extraMembers schema members = .ok extra) :
    ∃ options, ofMembers members = .ok options := by
  obtain ⟨dto, hdto⟩ := exists_field h "dto" rfl
  obtain ⟨pagination, hpagination⟩ := exists_field h "pagination" rfl
  obtain ⟨service, hservice⟩ := exists_field h "service" rfl
  obtain ⟨filtering, hfiltering⟩ := exists_field h "jpaMetamodelFiltering" rfl
  obtain ⟨fluent, hfluent⟩ := exists_field h "fluentMethods" rfl
  obtain ⟨readOnly, hreadOnly⟩ := exists_field h "readOnly" rfl
  obtain ⟨embedded, hembedded⟩ := exists_field h "embedded" rfl
  obtain ⟨engine, hengine⟩ := exists_field h "searchEngine" rfl
  obtain ⟨folder, hfolder⟩ := exists_field h "clientRootFolder" rfl
  obtain ⟨microservice, hmicroservice⟩ := exists_field h "microserviceName" rfl
  obtain ⟨suffix, hsuffix⟩ := exists_field h "angularJSSuffix" rfl
  obtain ⟨skipClient, hskipClient⟩ := exists_field h "skipClient" rfl
  obtain ⟨skipServer, hskipServer⟩ := exists_field h "skipServer" rfl
  obtain ⟨secure, hsecure⟩ := exists_field h "secure" rfl
  obtain ⟨extra, hextra⟩ := hextra
  let options : EntityOptions := {
    dto, pagination, service, jpaMetamodelFiltering := filtering, fluentMethods := fluent, readOnly,
    embedded, searchEngine := engine, clientRootFolder := folder, microserviceName := microservice,
    angularJSSuffix := suffix, skipClient, skipServer, secure, extra }
  refine ⟨options, ?_⟩
  simp only [ofMembers, bind_eq_ok]
  exact ⟨_, h, _, hdto, _, hpagination, _, hservice, _, hfiltering, _, hfluent, _, hreadOnly, _,
    hembedded, _, hengine, _, hfolder, _, hmicroservice, _, hsuffix, _, hskipClient, _,
    hskipServer, _, hsecure, _, hextra, rfl⟩

end EntityOptions

/-! ## Entities -/

namespace EntityDefinition

variable {ok : Number → Prop} {n : Nat} {key : String} {members : List (String × Json)}
  {definition : EntityDefinition}

/-- The members that a definition is written as, in the order of their keys. -/
def written (definition : EntityDefinition) : List (String × Json) :=
  sortMembers (writtenOf (definition.slots .value) ++ definition.options.members)

theorem toJson_eq_object (definition : EntityDefinition) :
    definition.toJson = .object definition.written :=
  toJson_eq .value definition

theorem increasing_written (definition : EntityDefinition) : Increasing definition.written :=
  increasing_sortMembers _

/-- The fields of an entity that are not options. -/
def parts : List Part :=
  [.defaulted "name" .text .string "",
    .defaulted "fields" (.list FieldDefinition.read)
      (fun fields => .array (fields.map FieldDefinition.toJson)) [],
    .defaulted "relationships" (.list (RelationshipDefinition.read .value))
      (fun relationships => .array (relationships.map RelationshipDefinition.toJson)) [],
    .optional "javadoc" .text .string,
    .optional "changelogDate" .text .string,
    .optional "entityTableName" .text .string]

/-- The fields of an entity and its options. -/
def allParts : List Part := parts ++ EntityOptions.parts

/-- The check for a member of an entity, options included. -/
def checkOf (key : String) : Check :=
  ((schema .value ++ EntityOptions.schema).lookup key).getD Decoder.value.check

/-! ### What is written -/

theorem nodup_keys_slots (definition : EntityDefinition) :
    ((definition.slots .value ++ definition.options.slots).map Slot.key).Nodup :=
  show (allParts.map Part.key).Nodup by decide

/-- No field has a member beside the fields. -/
theorem lookup_extra (h : definition.IsProper ok (n + 2)) (hkey : key ∈ allParts.map Part.key) :
    definition.options.extra.lookup key = none := by
  have hkeys : allParts.map Part.key = knownKeys ++ keys EntityOptions.schema := rfl
  rw [hkeys, List.mem_append] at hkey
  refine lookup_eq_none_iff.2 fun hmem => ?_
  rcases hkey with hkey | hkey
  · exact h.foreign key hmem hkey
  · exact h.options.extra.foreign key hmem hkey

/-- Under a key stands what is written for its field, or what was kept beside the fields. -/
theorem lookup_written (h : definition.IsProper ok (n + 2)) : definition.written.lookup key =
    (((definition.slots .value ++ definition.options.slots).find? (·.key == key)).bind
      Slot.value).or (definition.options.extra.lookup key) := by
  have hforeign : ∀ key ∈ keys definition.options.extra,
      key ∉ (definition.slots .value ++ definition.options.slots).map Slot.key :=
    fun key hextra hkey => lookup_eq_none_iff.1 (lookup_extra h hkey) hextra
  rw [written, EntityOptions.members_eq, ← List.append_assoc, writtenOf, writtenOf,
    ← List.flatMap_append]
  exact Json.lookup_written definition.nodup_keys_slots h.options.extra.increasing.nodup hforeign

theorem isNone_lookup_schema (h : key ∉ parts.map Part.key) :
    ((schema .value).lookup key).isNone = true :=
  Option.isNone_iff_eq_none.2 (lookup_eq_none_iff.2 h)

/-- Under another name, a definition is written as before but for the name. -/
theorem lookup_written_named (h : definition.IsProper ok (n + 2)) (name : String) :
    ({ definition with name } : EntityDefinition).written.lookup key =
      if key = "name" then some (.string name) else definition.written.lookup key := by
  have hnamed : ({ definition with name } : EntityDefinition).IsProper ok (n + 2) :=
    ⟨h.fields, h.relationships, h.options, h.foreign⟩
  by_cases hkey : key = "name"
  · subst hkey
    rw [lookup_written hnamed, if_pos rfl]
    rfl
  · have hne : ("name" == key) = false := beq_eq_false_iff_ne.2 (Ne.symm hkey)
    rw [lookup_written hnamed, lookup_written h, if_neg hkey]
    simp only [slots, Slot.single, List.cons_append, List.find?_cons, hne]

/-- What is written for the fields of a definition is written for their members. -/
theorem slots_of_ofJson (h : ofJson (.object members) = .ok definition) :
    definition.slots .value ++ definition.options.slots =
      allParts.map (·.slot (Draft.ofMembers members)) := by
  have hread : read .value (.object (Draft.ofMembers members) .closed) = .ok definition := h
  simp only [read, bind_eq_ok] at hread
  obtain ⟨_, -, name, hname, fields, hfields, relationships, hrelationships, javadoc, hjavadoc,
    date, hdate, table, htable, options, hoptions, hread⟩ := hread
  obtain rfl := Except.ok.inj hread
  have hoption : ∀ part ∈ EntityOptions.parts, part.slot (unknownMembers (schema .value)
      (Draft.ofMembers members)) = part.slot (Draft.ofMembers members) := by
    have hdisjoint : ∀ key ∈ EntityOptions.parts.map Part.key, key ∉ parts.map Part.key := by decide
    intro part hpart
    unfold Part.slot unknownMembers
    rw [lookup_filter (fun key => ((schema .value).lookup key).isNone),
      if_pos (isNone_lookup_schema (hdisjoint _ (List.mem_map_of_mem hpart)))]
  rw [allParts, List.map_append, (EntityOptions.slots_of_ofMembers hoptions).1,
    List.map_congr_left hoption]
  simp only [slots, parts, List.map_cons, List.map_nil, Part.slot_defaulted hname,
    Part.slot_defaulted hfields, Part.slot_defaulted hrelationships, Part.slot_optional hjavadoc,
    Part.slot_optional hdate, Part.slot_optional htable]

/-- Beside the fields, a definition keeps what stood under the other keys. -/
theorem lookup_extra_of_ofJson (hincreasing : Increasing members)
    (h : ofJson (.object members) = .ok definition) (hkey : key ∉ allParts.map Part.key) :
    definition.options.extra.lookup key = (members.lookup key).map sorted := by
  have hread : read .value (.object (Draft.ofMembers members) .closed) = .ok definition := h
  simp only [read, bind_eq_ok] at hread
  obtain ⟨_, -, _, -, _, -, _, -, _, -, _, -, _, -, options, hoptions, hread⟩ := hread
  obtain rfl := Except.ok.inj hread
  have hextra := (EntityOptions.slots_of_ofMembers hoptions).2
  rw [unknownMembers_ofMembers] at hextra
  rw [allParts, List.map_append, List.mem_append, not_or] at hkey
  have hoption : (EntityOptions.schema.lookup key).isNone = true :=
    Option.isNone_iff_eq_none.2 (lookup_eq_none_iff.2 hkey.2)
  show options.extra.lookup key = _
  rw [lookup_extraMembers (hincreasing.filter _) hextra, if_pos hoption,
    lookup_filter fun key => ((schema .value).lookup key).isNone,
    if_pos (isNone_lookup_schema hkey.1)]

/-- What is written under a key depends on what stood there. -/
theorem lookup_written_of_ofJson (hincreasing : Increasing members)
    (h : ofJson (.object members) = .ok definition) (key : String) :
    definition.written.lookup key =
      rewriteBy allParts key ((members.lookup key).map Draft.ofJson) := by
  obtain ⟨n, hproper⟩ := exists_isProper_of_ofJson h
  rw [lookup_written hproper]
  exact lookup_parts (slots_of_ofJson h) (lookup_extra hproper)
    (lookup_extra_of_ofJson hincreasing h)

theorem checkOf_eq (key : String) : checkOf key = ((schema .value).lookup key).getD
    ((EntityOptions.schema.lookup key).getD Decoder.value.check) := by
  rw [checkOf, List.lookup_append]
  cases (schema .value).lookup key <;> rfl

theorem check_of_ofJson (h : ofJson (.object members) = .ok definition) :
    ∀ member ∈ members, checkOf member.1 (Draft.ofJson member.2) = .ok () := by
  rintro ⟨key, v⟩ hmem
  have hdraft : (key, Draft.ofJson v) ∈ Draft.ofMembers members := mem_ofMembers hmem
  have hread : read .value (.object (Draft.ofMembers members) .closed) = .ok definition := h
  simp only [read, bind_eq_ok] at hread
  obtain ⟨_, hrecord, _, -, _, -, _, -, _, -, _, -, _, -, options, hoptions, -⟩ := hread
  simp only [EntityOptions.ofMembers, bind_eq_ok] at hoptions
  obtain ⟨_, hoptions, -⟩ := hoptions
  rw [checkOf_eq]
  have hentity := check_of_checkMembers (checkRecord_closed ▸ hrecord) _ hdraft
  cases hlookup : (schema .value).lookup key with
  | some check => rwa [hlookup] at hentity
  | none =>
    have hunknown : (key, Draft.ofJson v) ∈ unknownMembers (schema .value)
        (Draft.ofMembers members) := List.mem_filter.2 ⟨hdraft, by simp [hlookup]⟩
    have hoption := check_of_checkMembers hoptions _ hunknown
    cases hlookup : EntityOptions.schema.lookup key with
    | some check => rwa [hlookup] at hoption
    | none => exact check_value v

theorem exists_ofJson (hincreasing : Increasing members)
    (h : ∀ member ∈ members, checkOf member.1 (Draft.ofJson member.2) = .ok ()) :
    ∃ definition, ofJson (.object members) = .ok definition := by
  have hnodup : (keys (Draft.ofMembers members)).Nodup := keys_ofMembers members ▸ hincreasing.nodup
  have hentity : checkMembers (schema .value) Decoder.value.check [] (Draft.ofMembers members) =
      .ok () := by
    refine checkMembers_eq_ok hnodup (fun _ _ => List.not_mem_nil) ?_
    rw [Draft.ofMembers_eq_map, List.forall_mem_map]
    intro member hmem
    have hmember := h member hmem
    rw [checkOf_eq] at hmember
    cases hlookup : (schema .value).lookup member.1 with
    | some check => rwa [hlookup] at hmember
    | none => exact check_value member.2
  have hoptions : checkMembers EntityOptions.schema skipUnknown [] (unknownMembers (schema .value)
      (Draft.ofMembers members)) = .ok () := by
    rw [unknownMembers_ofMembers]
    refine checkMembers_eq_ok ?_ (fun _ _ => List.not_mem_nil) ?_
    · rw [keys_ofMembers]
      exact (List.filter_sublist.map Prod.fst).nodup hincreasing.nodup
    · rw [Draft.ofMembers_eq_map, List.forall_mem_map]
      intro member hmem
      obtain ⟨hmem, hnone⟩ := List.mem_filter.1 hmem
      have hmember := h member hmem
      rw [checkOf_eq, Option.isNone_iff_eq_none.1 hnone] at hmember
      cases hlookup : EntityOptions.schema.lookup member.1 with
      | some check => rwa [hlookup] at hmember
      | none => exact skipUnknown_ofJson member.2
  obtain ⟨name, hname⟩ := exists_field hentity "name" rfl
  obtain ⟨fields, hfields⟩ := exists_field hentity "fields" rfl
  obtain ⟨relationships, hrelationships⟩ := exists_field hentity "relationships" rfl
  obtain ⟨javadoc, hjavadoc⟩ := exists_field hentity "javadoc" rfl
  obtain ⟨date, hdate⟩ := exists_field hentity "changelogDate" rfl
  obtain ⟨table, htable⟩ := exists_field hentity "entityTableName" rfl
  obtain ⟨options, hoptions⟩ := EntityOptions.exists_ofMembers hoptions
    ⟨_, by rw [unknownMembers_ofMembers, extraMembers_ofMembers]⟩
  let definition : EntityDefinition := {
    name, fields, relationships, javadoc, changelogDate := date, tableName := table, options }
  refine ⟨definition, ?_⟩
  show read .value (.object (Draft.ofMembers members) .closed) = .ok definition
  simp only [read, bind_eq_ok]
  exact ⟨_, checkRecord_closed.trans hentity, _, hname, _, hfields, _, hrelationships, _,
    hjavadoc, _, hdate, _, htable, _, hoptions, rfl⟩

/-- Definitions are read member by member. -/
theorem memberwise : Memberwise ofJson written checkOf (rewriteBy allParts) where
  increasing := increasing_written
  again h := (exists_isProper_of_ofJson h).elim fun _ hproper =>
    toJson_eq_object _ ▸ (isReadBack hproper).reads
  checked := check_of_ofJson
  reads := exists_ofJson
  lookup := lookup_written_of_ofJson

end EntityDefinition

end EntityPipeline
