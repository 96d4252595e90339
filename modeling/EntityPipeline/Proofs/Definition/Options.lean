-- Options read back. Whatever has been read as options, as access rules or as one rule is written
-- as members that are read as the same again, however it was given.
import EntityPipeline.Definition.Read
import EntityPipeline.Proofs.Json.Records

namespace EntityPipeline

open Json

variable {ok : Number → Prop} {n : Nat} {d : Draft}

/-! ## Variants and flags -/

theorem isReadBack_variant {α : Type} {variants : List (String × α)} {name : String} {a : α}
    (h : variants.lookup name = some a) :
    IsReadBack ok n (.variant variants) (.string name) a := by
  refine ⟨?_, rfl, .string name⟩
  show Decoder.variantNamed variants name = .ok a
  unfold Decoder.variantNamed
  rw [h]

theorem isReadBackIfAny_dto (dto : Option DtoStrategy) :
    IsReadBackIfAny ok n (.variant DtoStrategy.variants) (.string ·.name) dto :=
  fun strategy _ => ⟨nofun, isReadBack_variant (by cases strategy <;> rfl)⟩

theorem isReadBackIfAny_pagination (pagination : Option PaginationStrategy) :
    IsReadBackIfAny ok n (.variant PaginationStrategy.variants) (.string ·.name) pagination :=
  fun strategy _ => ⟨nofun, isReadBack_variant (by cases strategy <;> rfl)⟩

theorem isReadBackIfAny_service (service : Option ServiceStrategy) :
    IsReadBackIfAny ok n (.variant ServiceStrategy.variants) (.string ·.name) service :=
  fun strategy _ => ⟨nofun, isReadBack_variant (by cases strategy <;> rfl)⟩

theorem isReadBackIfAny_flag (flag : Option Bool) : IsReadBackIfAny ok n readFlag .bool flag :=
  fun b _ => ⟨nofun, rfl, rfl, .bool b⟩

/-- A search engine whose name does not switch it off. -/
def SearchEngine.IsProper : SearchEngine → Prop
  | .no => True
  | .engine name => name ≠ "no" ∧ name ≠ ""

theorem SearchEngine.isProper_of_read {engine : SearchEngine} (h : SearchEngine.read d = .ok engine) :
    engine.IsProper := by
  unfold SearchEngine.read at h
  split at h
  · obtain rfl := Except.ok.inj h
    trivial
  · exact nomatch h
  · obtain rfl := Except.ok.inj h
    split
    · trivial
    · rename_i hname
      simpa [SearchEngine.IsProper] using hname
  all_goals exact nomatch h

theorem SearchEngine.isReadBack {engine : SearchEngine} (h : engine.IsProper) :
    IsReadBack ok n SearchEngine.read engine.toJson engine := by
  cases engine with
  | no => exact ⟨rfl, rfl, .bool false⟩
  | engine name =>
    obtain ⟨hno, hempty⟩ := h
    refine ⟨?_, rfl, .string name⟩
    have hname : (name == "no" || name == "") = false := by simp [hno, hempty]
    show Except.ok (if (name == "no" || name == "") = true then SearchEngine.no else .engine name) = _
    rw [hname]
    rfl

theorem isReadBackIfAny_engine {engine : Option SearchEngine}
    (h : ∀ e, engine = some e → e.IsProper) :
    IsReadBackIfAny ok n SearchEngine.read SearchEngine.toJson engine := by
  refine fun e he => ⟨?_, SearchEngine.isReadBack (h e he)⟩
  cases e <;> exact nofun

/-! ## Rules -/

theorem isReadBack_strings (items : List String) :
    IsReadBack ok (n + 1) (.list .text) (stringsToJson items) items :=
  isReadBack_list fun s _ => isReadBack_text s

/-- The fields of a rule. The list is written even when it is empty. -/
def ruleSlots (first second name : String) (items : List String) : List Slot :=
  [.single first .text (.string name), .single second (.list .text) (stringsToJson items)]

/-- A rule reads back. -/
theorem isReadBack_rule {α : Type} {record first second name : String} {items : List String}
    (build : String → List String → α) (hne : first ≠ second) :
    IsReadBack ok (n + 2) (readRule record first second build)
      (.ofMembers [(first, .string name), (second, stringsToJson items)]) (build name items) := by
  have hwritten : AreWritten ok (n + 1) (ruleSlots first second name items) := by
    refine ⟨by simp [ruleSlots, Slot.single, hne], ?_⟩
    simp only [ruleSlots, List.forall_mem_cons]
    exact ⟨Slot.passes_single (isReadBack_text name), Slot.passes_single (isReadBack_strings items),
      List.forall_mem_nil _⟩
  have hextra : AreBeside (ruleSlots first second name items) skipUnknown [] :=
    ⟨List.nodup_nil, fun _ h => absurd h List.not_mem_nil, List.forall_mem_nil _⟩
  refine isReadBack_written hwritten (List.forall_mem_nil _) (List.forall_mem_nil _) ?_
  refine bind_eq_ok.2 ⟨(), checkRecord_drafts hwritten hextra, ?_⟩
  refine bind_eq_ok.2 ⟨_, required_single hwritten hextra (by simp [ruleSlots])
    (isReadBack_text name), ?_⟩
  exact bind_eq_ok.2 ⟨_, defaulted_single hwritten hextra (by simp [ruleSlots])
    (isReadBack_strings items), rfl⟩

theorem RoleRule.isReadBack (rule : RoleRule) :
    IsReadBack ok (n + 2) RoleRule.read rule.toJson rule :=
  isReadBack_rule _ (by decide)

theorem PrivilegeRule.isReadBack (rule : PrivilegeRule) :
    IsReadBack ok (n + 2) PrivilegeRule.read rule.toJson rule :=
  isReadBack_rule _ (by decide)

/-! ## Access rules -/

namespace Security

/-- The fields of access rules. -/
def slots (security : Security) : List Slot :=
  [.optional "securityType" .text .string security.kind,
    .list "roles" RoleRule.read RoleRule.toJson security.roles,
    .list "customSecurity" PrivilegeRule.read PrivilegeRule.toJson security.privileges]

theorem nodup_keys_schema : (keys schema).Nodup := by decide

theorem toJson_eq (security : Security) :
    security.toJson = .ofMembers (writtenOf security.slots ++ security.extra) := by
  simp only [toJson, writtenOf, slots, List.flatMap_cons, List.flatMap_nil, Slot.members_optional,
    Slot.members_list, List.append_assoc, List.nil_append]

/-- Access rules as they are kept: what they do not know is sorted and under other keys. -/
def IsProper (ok : Number → Prop) (n : Nat) (security : Security) : Prop :=
  IsExtra (keys schema) ok n security.extra

theorem isProper_of_read {security : Security} (hfits : d.Fits ok (n + 1))
    (h : read d = .ok security) : security.IsProper ok n := by
  cases d with
  | object members ending =>
    simp only [read, bind_eq_ok] at h
    obtain ⟨_, -, _, -, _, -, _, -, extra, hextra, h⟩ := h
    obtain rfl := Except.ok.inj h
    exact isExtra_of_extraMembers hfits.of_object hextra
  | _ => cases h

theorem areWritten_slots (security : Security) : AreWritten ok (n + 3) security.slots := by
  refine ⟨nodup_keys_schema, ?_⟩
  simp only [slots, List.forall_mem_cons]
  exact ⟨Slot.passes_optional (isReadBackIfAny_text _),
    Slot.passes_list fun rule _ => RoleRule.isReadBack rule,
    Slot.passes_list fun rule _ => PrivilegeRule.isReadBack rule, List.forall_mem_nil _⟩

theorem areBeside_extra {security : Security} (h : security.IsProper ok n) :
    AreBeside security.slots Decoder.value.check security.extra :=
  h.areBeside rfl check_value

/-- Access rules are read from the members they are written as, in the order of the keys. -/
theorem read_drafts {security : Security} (h : security.IsProper ok (n + 3)) :
    read (.object (drafts security.slots security.extra) .closed) = .ok security := by
  have hwritten : AreWritten ok (n + 3) security.slots := security.areWritten_slots
  have hextra := areBeside_extra h
  have hroles : ∀ rule ∈ security.roles, IsReadBack ok (n + 2) RoleRule.read rule.toJson rule :=
    fun rule _ => rule.isReadBack
  have hprivileges : ∀ rule ∈ security.privileges,
      IsReadBack ok (n + 2) PrivilegeRule.read rule.toJson rule := fun rule _ => rule.isReadBack
  refine bind_eq_ok.2 ⟨(), checkRecord_drafts hwritten hextra, ?_⟩
  refine bind_eq_ok.2 ⟨_, optionalField_optional hwritten hextra (by simp [slots])
    (isReadBackIfAny_text security.kind), ?_⟩
  refine bind_eq_ok.2 ⟨_, defaulted_list hwritten hextra (by simp [slots]) hroles, ?_⟩
  refine bind_eq_ok.2 ⟨_, defaulted_list hwritten hextra (by simp [slots]) hprivileges, ?_⟩
  exact bind_eq_ok.2 ⟨_, extraMembers_drafts hwritten hextra h.increasing h.sorted, rfl⟩

/-- Access rules read back. -/
theorem isReadBack {security : Security} (h : security.IsProper ok (n + 3)) :
    IsReadBack ok (n + 4) read security.toJson security := by
  rw [toJson_eq]
  exact isReadBack_written security.areWritten_slots h.sorted h.fits (read_drafts h)

end Security

/-! ## Options -/

namespace EntityOptions

/-- The fields of options. -/
def slots (options : EntityOptions) : List Slot :=
  [.optional "dto" (.variant DtoStrategy.variants) (.string ·.name) options.dto,
    .optional "pagination" (.variant PaginationStrategy.variants) (.string ·.name)
      options.pagination,
    .optional "service" (.variant ServiceStrategy.variants) (.string ·.name) options.service,
    .optional "jpaMetamodelFiltering" readFlag .bool options.jpaMetamodelFiltering,
    .optional "fluentMethods" readFlag .bool options.fluentMethods,
    .optional "readOnly" readFlag .bool options.readOnly,
    .optional "embedded" readFlag .bool options.embedded,
    .optional "searchEngine" SearchEngine.read SearchEngine.toJson options.searchEngine,
    .optional "clientRootFolder" .text .string options.clientRootFolder,
    .optional "microserviceName" .text .string options.microserviceName,
    .optional "angularJSSuffix" .text .string options.angularJSSuffix,
    .optional "skipClient" readFlag .bool options.skipClient,
    .optional "skipServer" readFlag .bool options.skipServer,
    .optional "secure" Security.read Security.toJson options.secure]

theorem nodup_keys_schema : (keys schema).Nodup := by decide

theorem members_eq (options : EntityOptions) :
    options.members = writtenOf options.slots ++ options.extra := by
  simp only [members, writtenOf, slots, List.flatMap_cons, List.flatMap_nil,
    Slot.members_optional, List.append_assoc, List.nil_append]

/-- Options as they are kept: the search engine has a name, and access rules and unknown members
are kept in turn. -/
structure IsProper (ok : Number → Prop) (n : Nat) (options : EntityOptions) : Prop where
  engine : ∀ engine, options.searchEngine = some engine → engine.IsProper
  secure : ∀ security, options.secure = some security → security.IsProper ok n
  extra : IsExtra (keys schema) ok (n + 1) options.extra

theorem isProper_of_ofMembers {members : List (String × Draft)} {options : EntityOptions}
    (hfits : ∀ member ∈ members, member.2.Fits ok (n + 1)) (h : ofMembers members = .ok options) :
    options.IsProper ok n := by
  simp only [ofMembers, bind_eq_ok] at h
  obtain ⟨_, -, _, -, _, -, _, -, _, -, _, -, _, -, _, -, engine, hengine, _, -, _, -, _, -, _, -,
    _, -, secure, hsecure, extra, hextra, h⟩ := h
  obtain rfl := Except.ok.inj h
  refine ⟨?_, ?_, isExtra_of_extraMembers hfits hextra⟩
  · rintro engine rfl
    obtain ⟨d, -, -, hread⟩ := exists_of_optionalField hengine
    exact SearchEngine.isProper_of_read hread
  · rintro security rfl
    obtain ⟨d, hd, -, hread⟩ := exists_of_optionalField hsecure
    exact Security.isProper_of_read (hfits _ hd) hread

theorem mem_keys_of_ofMembers {members : List (String × Draft)} {options : EntityOptions}
    (h : ofMembers members = .ok options) : ∀ key ∈ keys options.extra, key ∈ keys members := by
  simp only [ofMembers, bind_eq_ok] at h
  obtain ⟨_, -, _, -, _, -, _, -, _, -, _, -, _, -, _, -, _, -, _, -, _, -, _, -, _, -, _, -, _, -,
    extra, hextra, h⟩ := h
  obtain rfl := Except.ok.inj h
  exact mem_keys_of_extraMembers hextra

theorem IsProper.isReadBackIfAny_secure {options : EntityOptions} (h : options.IsProper ok (n + 3)) :
    IsReadBackIfAny ok (n + 4) Security.read Security.toJson options.secure :=
  fun security hsecurity => ⟨nofun, Security.isReadBack (h.secure security hsecurity)⟩

theorem areWritten_slots {options : EntityOptions} (h : options.IsProper ok (n + 3)) :
    AreWritten ok (n + 4) options.slots := by
  refine ⟨nodup_keys_schema, ?_⟩
  simp only [slots, List.forall_mem_cons]
  exact ⟨Slot.passes_optional (isReadBackIfAny_dto _),
    Slot.passes_optional (isReadBackIfAny_pagination _),
    Slot.passes_optional (isReadBackIfAny_service _),
    Slot.passes_optional (isReadBackIfAny_flag _), Slot.passes_optional (isReadBackIfAny_flag _),
    Slot.passes_optional (isReadBackIfAny_flag _), Slot.passes_optional (isReadBackIfAny_flag _),
    Slot.passes_optional (isReadBackIfAny_engine h.engine),
    Slot.passes_optional (isReadBackIfAny_text _), Slot.passes_optional (isReadBackIfAny_text _),
    Slot.passes_optional (isReadBackIfAny_text _), Slot.passes_optional (isReadBackIfAny_flag _),
    Slot.passes_optional (isReadBackIfAny_flag _),
    Slot.passes_optional h.isReadBackIfAny_secure, List.forall_mem_nil _⟩

theorem areBeside_extra {options : EntityOptions} (h : options.IsProper ok n) :
    AreBeside options.slots skipUnknown options.extra :=
  h.extra.areBeside rfl skipUnknown_ofJson

/-- Options read back from the members they are written as, in the order of the keys. -/
theorem ofMembers_drafts {options : EntityOptions} (h : options.IsProper ok (n + 3)) :
    ofMembers (drafts options.slots options.extra) = .ok options := by
  have hwritten := areWritten_slots h
  have hextra := areBeside_extra h
  refine bind_eq_ok.2 ⟨(), checkMembers_drafts hwritten hextra, ?_⟩
  refine bind_eq_ok.2 ⟨_, optionalField_optional hwritten hextra (by simp [slots])
    (isReadBackIfAny_dto options.dto), ?_⟩
  refine bind_eq_ok.2 ⟨_, optionalField_optional hwritten hextra (by simp [slots])
    (isReadBackIfAny_pagination options.pagination), ?_⟩
  refine bind_eq_ok.2 ⟨_, optionalField_optional hwritten hextra (by simp [slots])
    (isReadBackIfAny_service options.service), ?_⟩
  refine bind_eq_ok.2 ⟨_, optionalField_optional hwritten hextra (by simp [slots])
    (isReadBackIfAny_flag options.jpaMetamodelFiltering), ?_⟩
  refine bind_eq_ok.2 ⟨_, optionalField_optional hwritten hextra (by simp [slots])
    (isReadBackIfAny_flag options.fluentMethods), ?_⟩
  refine bind_eq_ok.2 ⟨_, optionalField_optional hwritten hextra (by simp [slots])
    (isReadBackIfAny_flag options.readOnly), ?_⟩
  refine bind_eq_ok.2 ⟨_, optionalField_optional hwritten hextra (by simp [slots])
    (isReadBackIfAny_flag options.embedded), ?_⟩
  refine bind_eq_ok.2 ⟨_, optionalField_optional hwritten hextra (by simp [slots])
    (isReadBackIfAny_engine h.engine), ?_⟩
  refine bind_eq_ok.2 ⟨_, optionalField_optional hwritten hextra (by simp [slots])
    (isReadBackIfAny_text options.clientRootFolder), ?_⟩
  refine bind_eq_ok.2 ⟨_, optionalField_optional hwritten hextra (by simp [slots])
    (isReadBackIfAny_text options.microserviceName), ?_⟩
  refine bind_eq_ok.2 ⟨_, optionalField_optional hwritten hextra (by simp [slots])
    (isReadBackIfAny_text options.angularJSSuffix), ?_⟩
  refine bind_eq_ok.2 ⟨_, optionalField_optional hwritten hextra (by simp [slots])
    (isReadBackIfAny_flag options.skipClient), ?_⟩
  refine bind_eq_ok.2 ⟨_, optionalField_optional hwritten hextra (by simp [slots])
    (isReadBackIfAny_flag options.skipServer), ?_⟩
  refine bind_eq_ok.2 ⟨_, optionalField_optional hwritten hextra (by simp [slots])
    h.isReadBackIfAny_secure, ?_⟩
  exact bind_eq_ok.2 ⟨_, extraMembers_drafts hwritten hextra h.extra.increasing h.extra.sorted, rfl⟩

end EntityOptions

end EntityPipeline
