-- Definitions that agree, read member by member. Definitions are equal if they are once the zeros in
-- their values have lost their signs. Equal definitions agree, and those that agree have equal fields
-- and relationships, in their order, and the same settings of what is compared one by one.
import EntityPipeline.Proofs.Definition.Outlines

namespace EntityPipeline

open Json

variable {ok ok' : Number → Prop} {n n' : Nat}

/-! ## Members without signs of zeros -/

namespace Json

variable {α : Type} {key : String} {known : List String} {v : Json}
  {members members' extra : List (String × Json)}

theorem unsignedMembers_append : unsignedMembers (members ++ members') =
    unsignedMembers members ++ unsignedMembers members' := by
  simp only [unsignedMembers_eq_map, List.map_append]

theorem unsignedMembers_optionalMember {write : α → Json} {a : Option α} :
    unsignedMembers (optionalMember key write a) =
      optionalMember key (fun a => (write a).unsigned) a := by
  cases a <;> rfl

theorem unsignedMembers_valueMember {value : Option Json} :
    unsignedMembers (valueMember key value) = valueMember key (value.map unsigned) := by
  cases value <;> rfl

theorem unsignedMembers_listMember {write : α → Json} {as : List α} :
    unsignedMembers (listMember key write as) =
      listMember key (fun a => (write a).unsigned) as := by
  cases as with
  | nil => rfl
  | cons a as => simp [listMember, unsignedMembers, unsigned_array]

theorem IsKept.unsigned (h : IsKept ok n v) : IsKept (fun _ => True) n v.unsigned :=
  ⟨mt unsigned_eq_null.1 h.ne_null, isSorted_unsigned.2 h.sorted, h.fits.unsigned⟩

theorem IsExtra.unsigned (h : IsExtra known ok n extra) :
    IsExtra known (fun _ => True) n (unsignedMembers extra) := by
  rw [unsignedMembers_eq_map]
  exact ⟨(increasing_map_iff _).2 h.increasing, (keys_map _).symm ▸ h.foreign,
    List.forall_mem_map.2 fun member hmem => isSorted_unsigned.2 (h.sorted member hmem),
    List.forall_mem_map.2 fun member hmem => (h.fits member hmem).unsigned⟩

end Json

/-! ## Fields -/

namespace FieldDefinition

variable {field other : FieldDefinition}

/-- The field, zeros without their signs. -/
def unsigned (field : FieldDefinition) : FieldDefinition :=
  { field with
    minLength := field.minLength.map Json.unsigned
    maxLength := field.maxLength.map Json.unsigned
    min := field.min.map Json.unsigned
    max := field.max.map Json.unsigned
    minBytes := field.minBytes.map Json.unsigned
    maxBytes := field.maxBytes.map Json.unsigned
    extra := unsignedMembers field.extra }

theorem unsigned_toJson (field : FieldDefinition) :
    field.toJson.unsigned = field.unsigned.toJson := by
  simp only [toJson, unsigned_ofMembers, unsignedMembers_append, unsignedMembers_optionalMember,
    unsignedMembers_valueMember, unsignedMembers_listMember, unsignedMembers, Json.unsigned,
    unsigned]

theorem IsProper.unsigned (h : field.IsProper ok n) : field.unsigned.IsProper (fun _ => True) n := by
  have hbounds : field.unsigned.bounds = field.bounds.map (Option.map Json.unsigned) := rfl
  refine ⟨?_, h.extra.unsigned⟩
  rw [hbounds, List.forall_mem_map]
  intro bound hmem v hv
  obtain ⟨w, hw, rfl⟩ := Option.map_eq_some_iff.1 hv
  exact (h.bounds bound hmem w hw).unsigned

/-- Fields that are written alike are read back as one. -/
theorem eq_of_toJson (h : field.IsProper ok (n + 1)) (h' : other.IsProper ok' (n' + 1))
    (heq : field.toJson = other.toJson) : field = other :=
  Except.ok.inj ((isReadBack h).reads.symm.trans (heq ▸ (isReadBack h').reads))

theorem unsigned_toJson_inj (h : field.IsProper ok (n + 1)) (h' : other.IsProper ok' (n' + 1)) :
    field.toJson.unsigned = other.toJson.unsigned ↔ field.unsigned = other.unsigned := by
  rw [unsigned_toJson, unsigned_toJson]
  exact ⟨eq_of_toJson h.unsigned h'.unsigned, congrArg toJson⟩

end FieldDefinition

/-! ## Relationships -/

namespace RelationshipDefinition

variable {relationship other : RelationshipDefinition}

/-- The relationship, zeros without their signs. -/
def unsigned (relationship : RelationshipDefinition) : RelationshipDefinition :=
  { relationship with
    rules := relationship.rules.map Json.unsigned
    extra := unsignedMembers relationship.extra }

theorem unsigned_toJson (relationship : RelationshipDefinition) :
    relationship.toJson.unsigned = relationship.unsigned.toJson := by
  simp only [toJson, unsigned_ofMembers, unsignedMembers_append, unsignedMembers_optionalMember,
    unsignedMembers_valueMember, unsignedMembers, Json.unsigned, unsigned]

theorem IsProper.unsigned (h : relationship.IsProper ok n) :
    relationship.unsigned.IsProper (fun _ => True) n := by
  refine ⟨fun v hv => ?_, h.extra.unsigned⟩
  obtain ⟨w, hw, rfl⟩ := Option.map_eq_some_iff.1 hv
  exact (h.rules w hw).unsigned

theorem eq_of_toJson (h : relationship.IsProper ok n) (h' : other.IsProper ok' n')
    (heq : relationship.toJson = other.toJson) : relationship = other := by
  have hreads : RelationshipDefinition.read .value (Draft.ofJson relationship.toJson) = _ :=
    (isReadBack h).reads
  exact Except.ok.inj (hreads.symm.trans (heq ▸ (isReadBack h').reads))

theorem unsigned_toJson_inj (h : relationship.IsProper ok n) (h' : other.IsProper ok' n') :
    relationship.toJson.unsigned = other.toJson.unsigned ↔
      relationship.unsigned = other.unsigned := by
  rw [unsigned_toJson, unsigned_toJson]
  exact ⟨eq_of_toJson h.unsigned h'.unsigned, congrArg toJson⟩

end RelationshipDefinition

/-! ## Options -/

/-- Access rules, zeros without their signs. -/
def Security.unsigned (security : Security) : Security :=
  { security with extra := unsignedMembers security.extra }

/-- A name and a list of strings have no numbers. -/
theorem unsigned_rule (first second name : String) (items : List String) :
    (ofMembers [(first, .string name), (second, stringsToJson items)]).unsigned =
      ofMembers [(first, .string name), (second, stringsToJson items)] := by
  have hitems : (stringsToJson items).unsigned = stringsToJson items := by
    rw [stringsToJson, unsigned_array, List.map_map]
    rfl
  simp only [unsigned_ofMembers, unsignedMembers, Json.unsigned, hitems]

theorem RoleRule.unsigned_toJson (rule : RoleRule) : rule.toJson.unsigned = rule.toJson :=
  unsigned_rule ..

theorem PrivilegeRule.unsigned_toJson (rule : PrivilegeRule) : rule.toJson.unsigned = rule.toJson :=
  unsigned_rule ..

theorem Security.unsigned_toJson (security : Security) :
    security.toJson.unsigned = security.unsigned.toJson := by
  simp only [toJson, unsigned_ofMembers, unsignedMembers_append, unsignedMembers_optionalMember,
    unsignedMembers_listMember, RoleRule.unsigned_toJson, PrivilegeRule.unsigned_toJson,
    Json.unsigned, unsigned]

theorem Security.kindOf_toJson {security : Security} (h : security.IsProper ok n) :
    kindOf security.toJson = security.kind.map .string := by
  have hkind : security.toJson.get? "securityType" = security.kind.map .string :=
    get?_of_slot h (.optional "securityType" .text .string security.kind) (by simp [slots])
  rw [kindOf, hkind, Option.map_map]
  rfl

/-- Options, zeros without their signs. -/
def EntityOptions.unsigned (options : EntityOptions) : EntityOptions :=
  { options with
    secure := options.secure.map Security.unsigned
    extra := unsignedMembers options.extra }

theorem DtoStrategy.name_injective : Function.Injective name := fun a b h => by
  cases a <;> cases b <;> simp_all [name]

theorem PaginationStrategy.name_injective : Function.Injective name := fun a b h => by
  cases a <;> cases b <;> simp_all [name]

theorem ServiceStrategy.name_injective : Function.Injective name := fun a b h => by
  cases a <;> cases b <;> simp_all [name]

theorem SearchEngine.toJson_injective : Function.Injective toJson := fun a b h => by
  cases a <;> cases b <;> simp_all [toJson]

theorem SearchEngine.unsigned_toJson (engine : SearchEngine) :
    engine.toJson.unsigned = engine.toJson := by
  cases engine <;> rfl

theorem EntityOptions.unsignedMembers_members (options : EntityOptions) :
    unsignedMembers options.members = options.unsigned.members := by
  have hsecure : optionalMember "secure" (fun security => (Security.toJson security).unsigned)
      options.secure = optionalMember "secure" Security.toJson options.unsigned.secure := by
    cases hoption : options.secure <;>
      simp [optionalMember, EntityOptions.unsigned, hoption, Security.unsigned_toJson]
  simp only [members, unsignedMembers_append, unsignedMembers_optionalMember, hsecure,
    SearchEngine.unsigned_toJson, Json.unsigned]
  rfl

/-! ## Entities -/

theorem map_eq_map_iff {α β γ : Type} {f : α → β} {g : α → γ} {l l' : List α}
    (h : ∀ a ∈ l, ∀ b ∈ l', f a = f b ↔ g a = g b) : l.map f = l'.map f ↔ l.map g = l'.map g := by
  induction l generalizing l' with
  | nil => simp
  | cons a l ih =>
    cases l' with
    | nil => simp
    | cons b l' =>
      have hhead := h a (List.mem_cons_self ..) b (List.mem_cons_self ..)
      have htail := ih fun a ha b hb =>
        h a (List.mem_cons_of_mem _ ha) b (List.mem_cons_of_mem _ hb)
      simp only [List.map_cons, List.cons.injEq, hhead, htail]

namespace EntityDefinition

variable {definition first second : EntityDefinition} {document document' : Json}

/-- The definition, zeros without their signs. -/
def unsigned (definition : EntityDefinition) : EntityDefinition :=
  { definition with
    fields := definition.fields.map FieldDefinition.unsigned
    relationships := definition.relationships.map RelationshipDefinition.unsigned
    options := definition.options.unsigned }

theorem unsigned_toJson (definition : EntityDefinition) :
    definition.toJson.unsigned = definition.unsigned.toJson := by
  simp only [toJson, unsigned_ofMembers, unsignedMembers_append, unsignedMembers_optionalMember,
    EntityOptions.unsignedMembers_members, unsignedMembers, unsignedItems_eq_map, Json.unsigned,
    unsigned, List.map_map, Function.comp_def, FieldDefinition.unsigned_toJson,
    RelationshipDefinition.unsigned_toJson]

/-- Nothing is written as null. -/
theorem value_ne_null (definition : EntityDefinition) :
    ∀ slot ∈ definition.slots .value ++ definition.options.slots, slot.value ≠ some .null := by
  have hengine (engine : SearchEngine) : engine.toJson ≠ .null := by cases engine <;> exact nofun
  have hsecurity (security : Security) : security.toJson ≠ .null := nofun
  simp [slots, EntityOptions.slots, Slot.single, Slot.optional, hengine, hsecurity]

/-- What is written under the key of a field stands there among the members that are not null. -/
theorem lookup_present (h : definition.IsProper ok (n + 2)) (slot : Slot)
    (hslot : slot ∈ definition.slots .value ++ definition.options.slots) :
    (presentMembers definition.written).lookup slot.key = slot.value := by
  have hwritten := get?_of_slot h slot hslot
  rw [toJson_eq_object] at hwritten
  rw [lookup_presentMembers definition.increasing_written,
    show definition.written.lookup slot.key = slot.value from hwritten]
  cases hvalue : slot.value with
  | none => rfl
  | some v =>
    cases v with
    | null => exact absurd hvalue (definition.value_ne_null slot hslot)
    | _ => rfl

/-- The outline of a written definition. -/
theorem outline_toJson (h : definition.IsProper ok (n + 2)) :
    definition.toJson.outline = .inl {
      fields := definition.fields.map fun field => field.toJson.unsigned
      relationships := definition.relationships.map fun relationship => relationship.toJson.unsigned
      settings := [definition.javadoc.map .string, definition.tableName.map .string,
        definition.options.dto.map (.string ·.name),
        definition.options.pagination.map (.string ·.name),
        definition.options.service.map (.string ·.name),
        definition.options.searchEngine.map SearchEngine.toJson]
      filtering := definition.options.jpaMetamodelFiltering.map .bool
      kind := definition.options.secure.map fun security => security.kind.map .string
      size := (presentMembers definition.written).length } := by
  have hlookup := lookup_present h
  simp only [slots, EntityOptions.slots, List.cons_append, List.nil_append,
    List.forall_mem_cons, Slot.single, Slot.optional] at hlookup
  obtain ⟨-, hfields, hrelationships, hjavadoc, -, htable, hdto, hpagination, hservice, hfiltering,
    -, -, -, hengine, -, -, -, -, -, hsecure, -⟩ := hlookup
  have hkinds : definition.options.secure.map (fun security => kindOf security.toJson) =
      definition.options.secure.map fun security => security.kind.map .string :=
    Option.map_congr fun security hsecurity =>
      Security.kindOf_toJson (h.options.secure security hsecurity)
  have hflag : (filtering (presentMembers definition.written)).map Json.unsigned =
      definition.options.jpaMetamodelFiltering.map .bool := by
    rw [filtering, hfiltering]
    cases definition.options.jpaMetamodelFiltering <;> rfl
  rw [toJson_eq_object]
  simp only [outline, outlineOf, arrayUnder, hfields, hrelationships, settingKeys, List.map_cons,
    List.map_nil, hjavadoc, htable, hdto, hpagination, hservice, hengine, hsecure, hflag,
    Option.map_map, Function.comp_def, hkinds, List.map_map, SearchEngine.unsigned_toJson,
    Json.unsigned]

/-- What agreement tells of two definitions, their access rules apart: their fields and
relationships are equal, unknown members included, and so are the settings that are compared one by
one. -/
structure LooksLike (first second : EntityDefinition) : Prop where
  fields : first.fields.map FieldDefinition.unsigned = second.fields.map FieldDefinition.unsigned
  relationships : first.relationships.map RelationshipDefinition.unsigned =
    second.relationships.map RelationshipDefinition.unsigned
  javadoc : first.javadoc = second.javadoc
  tableName : first.tableName = second.tableName
  dto : first.options.dto = second.options.dto
  pagination : first.options.pagination = second.options.pagination
  service : first.options.service = second.options.service
  searchEngine : first.options.searchEngine = second.options.searchEngine
  filtering : first.options.jpaMetamodelFiltering = second.options.jpaMetamodelFiltering

theorem looksLike_of_outline (h : first.IsProper ok (n + 2)) (h' : second.IsProper ok' (n' + 2))
    (houtline : first.toJson.outline = second.toJson.outline) : first.LooksLike second := by
  rw [outline_toJson h, outline_toJson h', Sum.inl.injEq, Outline.mk.injEq] at houtline
  obtain ⟨hfields, hrelationships, hsettings, hfiltering, -, -⟩ := houtline
  simp only [List.cons.injEq, and_true] at hsettings
  obtain ⟨hjavadoc, htable, hdto, hpagination, hservice, hengine⟩ := hsettings
  have hstring : Function.Injective Json.string := fun _ _ => Json.string.inj
  exact {
    fields := (map_eq_map_iff fun field hfield field' hfield' =>
      FieldDefinition.unsigned_toJson_inj (h.fields field hfield) (h'.fields field' hfield')).1
        hfields
    relationships := (map_eq_map_iff fun relationship hmem relationship' hmem' =>
      RelationshipDefinition.unsigned_toJson_inj (h.relationships relationship hmem)
        (h'.relationships relationship' hmem')).1 hrelationships
    javadoc := Option.map_injective hstring hjavadoc
    tableName := Option.map_injective hstring htable
    dto := Option.map_injective (hstring.comp DtoStrategy.name_injective) hdto
    pagination := Option.map_injective (hstring.comp PaginationStrategy.name_injective) hpagination
    service := Option.map_injective (hstring.comp ServiceStrategy.name_injective) hservice
    searchEngine := Option.map_injective SearchEngine.toJson_injective hengine
    filtering := Option.map_injective (fun _ _ => Json.bool.inj) hfiltering }

theorem isSorted_toJson (h : definition.IsProper ok (n + 2)) : definition.toJson.IsSorted := by
  have hback : IsReadBack ok (n + 5) (read .value) definition.toJson definition := isReadBack h
  exact hback.sorted

end EntityDefinition

open EntityDefinition

/-- Definitions that agree have equal fields and relationships, in their order and with the members
that these do not know, and equal settings of what is compared one by one; and equal definitions
agree. -/
theorem no_change_of_a_field_goes_unnoticed {first second : EntityDefinition}
    {document document' : Json} (h : first.IsReadFrom document)
    (h' : second.IsReadFrom document') :
    (first.agrees second = true → first.LooksLike second) ∧
    (first.unsigned = second.unsigned → first.agrees second = true) := by
  obtain ⟨n, hproper⟩ := h.exists_isProper
  obtain ⟨n', hproper'⟩ := h'.exists_isProper
  have hfirst : first.toJson.IsSorted := isSorted_toJson hproper
  have hsecond : second.toJson.IsSorted := isSorted_toJson hproper'
  refine ⟨fun hagrees => looksLike_of_outline hproper hproper' ?_, fun heq => ?_⟩
  · exact ((sameEntity_iff hfirst hsecond).1 hagrees).1
  · have hunsigned : first.toJson.unsigned = second.toJson.unsigned := by
      rw [unsigned_toJson, unsigned_toJson, heq]
    rw [agrees, sameEntity_congr hfirst hsecond hsecond hunsigned]
    exact sameEntity_refl hsecond

/-- A book in a folder of the client, with a field that has a zero of a sign as its bound and a
member that no field knows. -/
def ratedBook (folder : String) (negative : Bool) : EntityDefinition where
  name := "Book"
  fields := [{
    name := "rating"
    type := "Float"
    min := some (.number (.real (.zero negative)))
    extra := [("shelf", .string "top")] }]
  options.clientRootFolder := some folder

theorem rated_books_agree_in_their_fields :
    (ratedBook "shop" false).LooksLike (ratedBook "library" true) ∧
    (ratedBook "shop" false).agrees (ratedBook "shop" true) = true := by
  have hshop : (ratedBook "shop" false).IsReadFrom (ratedBook "shop" false).toJson.sorted :=
    .value rfl
  have hshop' : (ratedBook "shop" true).IsReadFrom (ratedBook "shop" true).toJson.sorted :=
    .value rfl
  have hlibrary : (ratedBook "library" true).IsReadFrom (ratedBook "library" true).toJson.sorted :=
    .value rfl
  exact ⟨(no_change_of_a_field_goes_unnoticed hshop hlibrary).1 (by decide +kernel),
    (no_change_of_a_field_goes_unnoticed hshop hshop').2 rfl⟩

end EntityPipeline
