-- Settings read member by member. A configuration that was read is written as members that are read
-- as the same configuration, and each setting is settled by its own member: left out it has its
-- default, and settings that no field knows are carried along as they are.
import EntityPipeline.Config
import EntityPipeline.Proofs.Definition.Options
import EntityPipeline.Proofs.Json.Memberwise

namespace EntityPipeline

open Json

namespace ApplicationConfig

variable {ok : Number → Prop} {n : Nat} {d : Draft} {key : String}
  {members : List (String × Json)} {config : ApplicationConfig}

/-! ## Written and read again -/

/-- The fields of a configuration. -/
def slots (config : ApplicationConfig) : List Slot :=
  [.single "baseName" .text (.string config.baseName),
    .single "applicationType" (.variant ApplicationType.variants)
      (.string config.applicationType.name),
    .single "authenticationType" (.variant AuthenticationType.variants)
      (.string config.authenticationType.name),
    .single "databaseType" (.variant DatabaseType.variants) (.string config.databaseType.name),
    .single "prodDatabaseType" .text (.string config.prodDatabaseType),
    .single "clientFramework" .text (.string config.clientFramework),
    .single "searchEngine" SearchEngine.read config.searchEngine.toJson,
    .single "skipUserManagement" .bool (.bool config.skipUserManagement),
    .single "skipClient" .bool (.bool config.skipClient),
    .single "skipServer" .bool (.bool config.skipServer),
    .single "reactive" .bool (.bool config.reactive),
    .single "jhiPrefix" .text (.string config.jhiPrefix),
    .single "dtoSuffix" .text (.string config.dtoSuffix),
    .single "entitySuffix" .text (.string config.entitySuffix),
    .single "enableTranslation" .bool (.bool config.localized),
    .single "nativeLanguage" .text (.string config.nativeLanguage),
    .list "entities" .text .string config.entities]

theorem nodup_keys_slots (config : ApplicationConfig) : (config.slots.map Slot.key).Nodup :=
  show (keys schema).Nodup by decide

/-- The members that a configuration is written as, in the order of their keys. -/
def written (config : ApplicationConfig) : List (String × Json) :=
  sortMembers (writtenOf config.slots ++ config.extra)

theorem toJson_eq_object (config : ApplicationConfig) : config.toJson = .object config.written := by
  simp only [toJson, ofMembers, written, writtenOf, slots, List.flatMap_cons, List.flatMap_nil,
    Slot.members_single, Slot.members_list, List.append_assoc, List.cons_append, List.nil_append]

theorem increasing_written (config : ApplicationConfig) : Increasing config.written :=
  increasing_sortMembers _

/-- A configuration as it is kept: the search engine has a name, and what no field knows is sorted
and under other keys. -/
structure IsProper (ok : Number → Prop) (n : Nat) (config : ApplicationConfig) : Prop where
  engine : config.searchEngine.IsProper
  extra : IsExtra (keys schema) ok n config.extra

theorem isProper_of_read (hfits : d.Fits ok (n + 1)) (h : read d = .ok config) :
    config.IsProper ok n := by
  cases d with
  | object members ending =>
    simp only [read, bind_eq_ok] at h
    obtain ⟨_, -, _, -, _, -, _, -, _, -, _, -, _, -, engine, hengine, _, -, _, -, _, -, _, -, _, -,
      _, -, _, -, _, -, _, -, _, -, extra, hextra, h⟩ := h
    obtain rfl := Except.ok.inj h
    refine ⟨?_, isExtra_of_extraMembers hfits.of_object hextra⟩
    unfold defaulted at hengine
    split at hengine
    · exact SearchEngine.isProper_of_read hengine
    · obtain rfl := Except.ok.inj hengine
      trivial
  | _ => cases h

theorem isReadBack_applicationType (type : ApplicationType) :
    IsReadBack ok n (.variant ApplicationType.variants) (.string type.name) type :=
  isReadBack_variant (by cases type <;> rfl)

theorem isReadBack_authenticationType (type : AuthenticationType) :
    IsReadBack ok n (.variant AuthenticationType.variants) (.string type.name) type :=
  isReadBack_variant (by cases type <;> rfl)

theorem isReadBack_databaseType (type : DatabaseType) :
    IsReadBack ok n (.variant DatabaseType.variants) (.string type.name) type :=
  isReadBack_variant (by cases type <;> rfl)

theorem areWritten_slots (h : config.IsProper ok (n + 1)) : AreWritten ok (n + 1) config.slots := by
  refine ⟨config.nodup_keys_slots, ?_⟩
  simp only [slots, List.forall_mem_cons]
  exact ⟨Slot.passes_single (isReadBack_text _),
    Slot.passes_single (isReadBack_applicationType _),
    Slot.passes_single (isReadBack_authenticationType _),
    Slot.passes_single (isReadBack_databaseType _),
    Slot.passes_single (isReadBack_text _), Slot.passes_single (isReadBack_text _),
    Slot.passes_single (SearchEngine.isReadBack h.engine),
    Slot.passes_single (isReadBack_bool _), Slot.passes_single (isReadBack_bool _),
    Slot.passes_single (isReadBack_bool _), Slot.passes_single (isReadBack_bool _),
    Slot.passes_single (isReadBack_text _), Slot.passes_single (isReadBack_text _),
    Slot.passes_single (isReadBack_text _), Slot.passes_single (isReadBack_bool _),
    Slot.passes_single (isReadBack_text _),
    Slot.passes_list (fun name _ => isReadBack_text name), List.forall_mem_nil _⟩

theorem areBeside_extra (h : config.IsProper ok n) :
    AreBeside config.slots Decoder.value.check config.extra :=
  h.extra.areBeside rfl check_value

/-- A configuration is read from the members it is written as. -/
theorem ofJson_written (h : config.IsProper ok (n + 1)) :
    ofJson (.object config.written) = .ok config := by
  have hwritten := areWritten_slots h
  have hextra := areBeside_extra h
  have hentities : ∀ name ∈ config.entities, IsReadBack ok n .text (.string name) name :=
    fun name _ => isReadBack_text name
  have hread : read (.object (drafts config.slots config.extra) .closed) = .ok config := by
    refine bind_eq_ok.2 ⟨(), checkRecord_drafts hwritten hextra, ?_⟩
    refine bind_eq_ok.2 ⟨_, defaulted_single hwritten hextra (by simp [slots])
      (isReadBack_text config.baseName), ?_⟩
    refine bind_eq_ok.2 ⟨_, defaulted_single hwritten hextra (by simp [slots])
      (isReadBack_applicationType config.applicationType), ?_⟩
    refine bind_eq_ok.2 ⟨_, defaulted_single hwritten hextra (by simp [slots])
      (isReadBack_authenticationType config.authenticationType), ?_⟩
    refine bind_eq_ok.2 ⟨_, defaulted_single hwritten hextra (by simp [slots])
      (isReadBack_databaseType config.databaseType), ?_⟩
    refine bind_eq_ok.2 ⟨_, defaulted_single hwritten hextra (by simp [slots])
      (isReadBack_text config.prodDatabaseType), ?_⟩
    refine bind_eq_ok.2 ⟨_, defaulted_single hwritten hextra (by simp [slots])
      (isReadBack_text config.clientFramework), ?_⟩
    refine bind_eq_ok.2 ⟨_, defaulted_single hwritten hextra (by simp [slots])
      (SearchEngine.isReadBack h.engine), ?_⟩
    refine bind_eq_ok.2 ⟨_, defaulted_single hwritten hextra (by simp [slots])
      (isReadBack_bool config.skipUserManagement), ?_⟩
    refine bind_eq_ok.2 ⟨_, defaulted_single hwritten hextra (by simp [slots])
      (isReadBack_bool config.skipClient), ?_⟩
    refine bind_eq_ok.2 ⟨_, defaulted_single hwritten hextra (by simp [slots])
      (isReadBack_bool config.skipServer), ?_⟩
    refine bind_eq_ok.2 ⟨_, defaulted_single hwritten hextra (by simp [slots])
      (isReadBack_bool config.reactive), ?_⟩
    refine bind_eq_ok.2 ⟨_, defaulted_single hwritten hextra (by simp [slots])
      (isReadBack_text config.jhiPrefix), ?_⟩
    refine bind_eq_ok.2 ⟨_, defaulted_single hwritten hextra (by simp [slots])
      (isReadBack_text config.dtoSuffix), ?_⟩
    refine bind_eq_ok.2 ⟨_, defaulted_single hwritten hextra (by simp [slots])
      (isReadBack_text config.entitySuffix), ?_⟩
    refine bind_eq_ok.2 ⟨_, defaulted_single hwritten hextra (by simp [slots])
      (isReadBack_bool config.localized), ?_⟩
    refine bind_eq_ok.2 ⟨_, defaulted_single hwritten hextra (by simp [slots])
      (isReadBack_text config.nativeLanguage), ?_⟩
    refine bind_eq_ok.2 ⟨_, defaulted_list hwritten hextra (by simp [slots]) hentities, ?_⟩
    exact bind_eq_ok.2 ⟨_, extraMembers_drafts hwritten hextra h.extra.increasing h.extra.sorted,
      rfl⟩
  unfold ofJson
  rw [show read.ofJson (.object config.written) = .ok config from hread]

theorem ofJson_eq_ok {value : Json} :
    ofJson value = .ok config ↔ read (Draft.ofJson value) = .ok config := by
  unfold ofJson Decoder.ofJson
  cases read (Draft.ofJson value) with
  | error e => exact ⟨nofun, nofun⟩
  | ok config => simp

theorem exists_isProper_of_ofJson {value : Json} (h : ofJson value = .ok config) :
    ∃ n, config.IsProper (fun _ => True) (n + 1) := by
  have hfits : (Draft.ofJson value).Fits (fun _ => True) (value.nesting + 1 + 1) :=
    Draft.fits_ofJson (value.fits_nesting.mono (by omega))
  exact ⟨_, isProper_of_read hfits (ofJson_eq_ok.1 h)⟩

/-! ## Member by member -/

/-- The fields of a configuration with their defaults. -/
def parts : List Part :=
  [.defaulted "baseName" .text .string "jhipster",
    .defaulted "applicationType" (.variant ApplicationType.variants) (.string ·.name) .monolith,
    .defaulted "authenticationType" (.variant AuthenticationType.variants) (.string ·.name) .jwt,
    .defaulted "databaseType" (.variant DatabaseType.variants) (.string ·.name) .sql,
    .defaulted "prodDatabaseType" .text .string "postgresql",
    .defaulted "clientFramework" .text .string "angular",
    .defaulted "searchEngine" SearchEngine.read SearchEngine.toJson .no,
    .defaulted "skipUserManagement" .bool .bool false,
    .defaulted "skipClient" .bool .bool false,
    .defaulted "skipServer" .bool .bool false,
    .defaulted "reactive" .bool .bool false,
    .defaulted "jhiPrefix" .text .string "jhi",
    .defaulted "dtoSuffix" .text .string "DTO",
    .defaulted "entitySuffix" .text .string "",
    .defaulted "enableTranslation" .bool .bool true,
    .defaulted "nativeLanguage" .text .string "en",
    .list "entities" .text .string]

/-- The check for a member of a configuration. -/
def checkOf (key : String) : Check := (schema.lookup key).getD Decoder.value.check

/-- What is written for a configuration depends on each field's own member. -/
theorem slots_of_ofJson (h : ofJson (.object members) = .ok config) :
    config.slots = parts.map (·.slot (Draft.ofMembers members)) ∧
      extraMembers schema (Draft.ofMembers members) = .ok config.extra := by
  have hread : read (.object (Draft.ofMembers members) .closed) = .ok config := ofJson_eq_ok.1 h
  simp only [read, bind_eq_ok] at hread
  obtain ⟨_, -, baseName, hbase, applicationType, happlication, authenticationType, hauthentication,
    databaseType, hdatabase, prodDatabaseType, hprod, clientFramework, hframework, searchEngine,
    hengine, skipUserManagement, husers, skipClient, hclient, skipServer, hserver, reactive,
    hreactive, jhiPrefix, hjhi, dtoSuffix, hdto, entitySuffix, hentity, localized, hlocalized,
    nativeLanguage, hlanguage, entities, hentities, extra, hextra, hread⟩ := hread
  obtain rfl := Except.ok.inj hread
  refine ⟨?_, hextra⟩
  simp only [slots, parts, List.map_cons, List.map_nil, Part.slot_defaulted hbase,
    Part.slot_defaulted happlication, Part.slot_defaulted hauthentication,
    Part.slot_defaulted hdatabase, Part.slot_defaulted hprod, Part.slot_defaulted hframework,
    Part.slot_defaulted hengine, Part.slot_defaulted husers, Part.slot_defaulted hclient,
    Part.slot_defaulted hserver, Part.slot_defaulted hreactive, Part.slot_defaulted hjhi,
    Part.slot_defaulted hdto, Part.slot_defaulted hentity, Part.slot_defaulted hlocalized,
    Part.slot_defaulted hlanguage, Part.slot_list hentities]

theorem lookup_written_of_ofJson (hincreasing : Increasing members)
    (h : ofJson (.object members) = .ok config) (key : String) :
    config.written.lookup key = rewriteBy parts key ((members.lookup key).map Draft.ofJson) := by
  obtain ⟨n, hproper⟩ := exists_isProper_of_ofJson h
  obtain ⟨hslots, hextra⟩ := slots_of_ofJson h
  have hkeys : parts.map Part.key = keys schema := rfl
  have hwritten : config.written.lookup key = _ :=
    lookup_written config.nodup_keys_slots hproper.extra.increasing.nodup hproper.extra.foreign
  rw [hwritten]
  refine lookup_parts hslots (fun hkey => ?_) fun hkey => ?_
  · exact lookup_eq_none_iff.2 fun hmem => hproper.extra.foreign key hmem hkey
  · rw [lookup_extraMembers hincreasing hextra, if_pos]
    exact Option.isNone_iff_eq_none.2 (lookup_eq_none_iff.2 (hkeys ▸ hkey))

theorem check_of_ofJson (h : ofJson (.object members) = .ok config) :
    ∀ member ∈ members, checkOf member.1 (Draft.ofJson member.2) = .ok () := by
  intro member hmem
  obtain ⟨_, hrecord, -⟩ := bind_eq_ok.1 (ofJson_eq_ok.1 h)
  exact check_of_checkMembers (checkRecord_closed ▸ hrecord) _ (mem_ofMembers hmem)

theorem exists_ofJson (hincreasing : Increasing members)
    (h : ∀ member ∈ members, checkOf member.1 (Draft.ofJson member.2) = .ok ()) :
    ∃ config, ofJson (.object members) = .ok config := by
  have hnodup : (keys (Draft.ofMembers members)).Nodup := keys_ofMembers members ▸ hincreasing.nodup
  have hrecord : checkMembers schema Decoder.value.check [] (Draft.ofMembers members) = .ok () := by
    refine checkMembers_eq_ok hnodup (fun _ _ => List.not_mem_nil) ?_
    rw [Draft.ofMembers_eq_map]
    exact List.forall_mem_map.2 h
  obtain ⟨baseName, hbase⟩ := exists_field hrecord "baseName" rfl
  obtain ⟨applicationType, happlication⟩ := exists_field hrecord "applicationType" rfl
  obtain ⟨authenticationType, hauthentication⟩ := exists_field hrecord "authenticationType" rfl
  obtain ⟨databaseType, hdatabase⟩ := exists_field hrecord "databaseType" rfl
  obtain ⟨prodDatabaseType, hprod⟩ := exists_field hrecord "prodDatabaseType" rfl
  obtain ⟨clientFramework, hframework⟩ := exists_field hrecord "clientFramework" rfl
  obtain ⟨searchEngine, hengine⟩ := exists_field hrecord "searchEngine" rfl
  obtain ⟨skipUserManagement, husers⟩ := exists_field hrecord "skipUserManagement" rfl
  obtain ⟨skipClient, hclient⟩ := exists_field hrecord "skipClient" rfl
  obtain ⟨skipServer, hserver⟩ := exists_field hrecord "skipServer" rfl
  obtain ⟨reactive, hreactive⟩ := exists_field hrecord "reactive" rfl
  obtain ⟨jhiPrefix, hjhi⟩ := exists_field hrecord "jhiPrefix" rfl
  obtain ⟨dtoSuffix, hdto⟩ := exists_field hrecord "dtoSuffix" rfl
  obtain ⟨entitySuffix, hentity⟩ := exists_field hrecord "entitySuffix" rfl
  obtain ⟨localized, hlocalized⟩ := exists_field hrecord "enableTranslation" rfl
  obtain ⟨nativeLanguage, hlanguage⟩ := exists_field hrecord "nativeLanguage" rfl
  obtain ⟨entities, hentities⟩ := exists_field hrecord "entities" rfl
  obtain ⟨extra, hextra⟩ : ∃ extra, extraMembers schema (Draft.ofMembers members) = .ok extra :=
    ⟨_, extraMembers_ofMembers⟩
  let config : ApplicationConfig := {
    baseName, applicationType, authenticationType, databaseType, prodDatabaseType, clientFramework,
    searchEngine, skipUserManagement, skipClient, skipServer, reactive, jhiPrefix, dtoSuffix,
    entitySuffix, localized, nativeLanguage, entities, extra }
  refine ⟨config, ofJson_eq_ok.2 ?_⟩
  show read (.object (Draft.ofMembers members) .closed) = .ok config
  simp only [read, bind_eq_ok]
  exact ⟨_, checkRecord_closed.trans hrecord, _, hbase, _, happlication, _, hauthentication, _,
    hdatabase, _, hprod, _, hframework, _, hengine, _, husers, _, hclient, _, hserver, _, hreactive,
    _, hjhi, _, hdto, _, hentity, _, hlocalized, _, hlanguage, _, hentities, _,
    hextra, rfl⟩

/-- Configurations are read member by member. -/
theorem memberwise : Memberwise ofJson written checkOf (rewriteBy parts) where
  increasing := increasing_written
  again h := (exists_isProper_of_ofJson h).elim fun _ hproper => ofJson_written hproper
  checked := check_of_ofJson
  reads := exists_ofJson
  lookup := lookup_written_of_ofJson

end ApplicationConfig

end EntityPipeline
