-- One definition in several spellings. A document may leave out what is empty, write null for what
-- is absent, give a word for a flag and a rule by position, and is read as the definition all the
-- same. It agrees with what is written for the definition exactly if it spells each of these out in
-- the one way in which they are written.
import EntityPipeline.Proofs.Definition.ReadMembers

namespace EntityPipeline

open Json

variable {ok : Number → Prop} {n : Nat} {v : Json} {origin : Origin}

/-! ## Fields and relationships -/

/-- How a document may say that a field has nothing under a key, where nothing is written: by null,
and of the validation rules by a list without any. -/
def FieldDefinition.emptyAt (key : String) : Json :=
  if key = "fieldValidateRules" then .array [] else .null

/-- A field that is spelled out says nothing of what it does not have. -/
def FieldDefinition.IsSpelledOut (v : Json) : Prop :=
  ∀ key ∈ keys schema, v.get? key ≠ some (emptyAt key)

/-- A relationship that is spelled out: none of its own members is null, and its cardinality is a
word. -/
def RelationshipDefinition.IsSpelledOut (v : Json) : Prop :=
  (∀ key ∈ knownKeys, v.get? key ≠ some .null) ∧
    ∃ word, v.get? "relationshipType" = some (.string word)

/-- A field stands as it is written if it is spelled out. -/
theorem FieldDefinition.unsigned_eq_iff {field : FieldDefinition} (hv : v.IsSorted)
    (h : field.IsProper ok n) (htaken : IsTaken read field v) :
    v.unsigned = field.toJson.unsigned ↔ IsSpelledOut v := by
  have hunknown : ∀ key ∉ keys schema, v.get? key = field.toJson.get? key :=
    fun key hkey => (get?_toJson h htaken hkey).symm
  obtain ⟨d, hread, hvalue⟩ := htaken
  cases d with
  | object drafts ending =>
    obtain ⟨-, values', -, hobject⟩ := Draft.value_object_eq_ok hvalue
    simp only [read, bind_eq_ok] at hread
    obtain ⟨_, hcheck, name, hname, type, htype, javadoc, hjavadoc, values, hvalues, blob, hblob,
      rules, hrules, minLength, hminLength, maxLength, hmaxLength, pattern, hpattern, min, hmin,
      max, hmax, minBytes, hminBytes, maxBytes, hmaxBytes, id, hid, extra, -, hread⟩ := hread
    have hfound {key : String} (hkey : key ∈ keys schema) := get?_of_checkRecord hcheck hvalue hkey
    have hname' := stands_iff_of_required hname (hfound (by decide)) isPlainSpelling_text (by simp)
    have htype' := stands_iff_of_required htype (hfound (by decide)) isPlainSpelling_text (by simp)
    have htext {key : String} {a : Option String} (h : optionalField key .text drafts = .ok a)
        (hkey : key ∈ keys schema) :=
      (isGiven_of_optionalField h (hfound hkey)).stands_iff isPlainSpelling_text
    have hbound {key : String} {a : Option Json} (h : optionalField key .value drafts = .ok a)
        (hkey : key ∈ keys schema) :=
      (isGiven_of_optionalField h (hfound hkey)).stands_iff isPlainSpelling_value
    have hlist := isListed_of_defaulted hrules (hfound (by decide))
    have hid' := (isGiven_of_optionalField hid (hfound (by decide))).stands_iff isPlainSpelling_bool
    obtain rfl := Except.ok.inj hread
    rw [toJson_eq] at hunknown ⊢
    rw [unsigned_eq_written_iff hv ⟨_, hobject⟩ (areBeside_extra h) nodup_keys_schema hunknown]
    simp only [slots, List.forall_mem_cons, Slot.single, Slot.optional, Slot.list, hname', htype',
      hid', hlist.stands_iff isPlainSpelling_text, htext hjavadoc (by decide),
      htext hvalues (by decide), htext hblob (by decide), htext hpattern (by decide),
      hbound hminLength (by decide), hbound hmaxLength (by decide), hbound hmin (by decide),
      hbound hmax (by decide), hbound hminBytes (by decide), hbound hmaxBytes (by decide),
      IsSpelledOut, schema, keys, List.map_cons, List.map_nil, emptyAt]
    simp
  | _ => cases hread

theorem Cardinality.isVariant {cardinality : Cardinality}
    (h : IsTaken (Cardinality.read origin) cardinality v) : IsVariant variants cardinality v := by
  cases origin with
  | text => exact isVariant_of_variantInText h
  | value => exact isVariant_of_variant h

theorem DtoStrategy.name_of_mem : ∀ variant ∈ variants, variant.1 = name variant.2 := by decide

theorem PaginationStrategy.name_of_mem : ∀ variant ∈ variants, variant.1 = name variant.2 := by
  decide

theorem ServiceStrategy.name_of_mem : ∀ variant ∈ variants, variant.1 = name variant.2 := by decide

theorem Cardinality.name_of_mem : ∀ variant ∈ variants, variant.1 = name variant.2 := by decide

/-- A cardinality stands as it is written if it is given as a word. -/
theorem Cardinality.stands_iff_of_required {cardinality : Cardinality} {key : String}
    {drafts : List (String × Draft)}
    (h : required key (Cardinality.read origin) drafts = .ok cardinality)
    (hvalue : (v.get? key).map Except.ok = (drafts.lookup key).map Draft.value) :
    (v.get? key).map Json.unsigned = (some (.string cardinality.name)).map Json.unsigned ↔
      ∃ word, v.get? key = some (.string word) := by
  obtain ⟨w, hw, htaken⟩ := exists_isTaken_of_required h hvalue
  rw [hw]
  simpa [Json.unsigned] using (isVariant htaken).stands_iff name_of_mem

/-- A relationship stands as it is written if it is spelled out. -/
theorem RelationshipDefinition.unsigned_eq_iff {relationship : RelationshipDefinition}
    (hv : v.IsSorted) (h : relationship.IsProper ok n)
    (htaken : IsTaken (read origin) relationship v) :
    v.unsigned = relationship.toJson.unsigned ↔ IsSpelledOut v := by
  have hunknown : ∀ key ∉ knownKeys, v.get? key = relationship.toJson.get? key :=
    fun key hkey => (get?_toJson h htaken hkey).symm
  obtain ⟨d, hread, hvalue⟩ := htaken
  cases d with
  | object drafts ending =>
    obtain ⟨-, values, -, hobject⟩ := Draft.value_object_eq_ok hvalue
    simp only [read, bind_eq_ok] at hread
    obtain ⟨_, hcheck, cardinality, hcardinality, name, hname, other, hother, inverse, hinverse,
      field, hfield, owner, howner, rules, hrules, javadoc, hjavadoc, id, hid, extra, -,
      hread⟩ := hread
    have hfound {key : String} (hkey : key ∈ knownKeys) := get?_of_checkRecord hcheck hvalue hkey
    have htext {key : String} {a : Option String} (h : optionalField key .text drafts = .ok a)
        (hkey : key ∈ knownKeys) :=
      (isGiven_of_optionalField h (hfound hkey)).stands_iff isPlainSpelling_text
    have hflag {key : String} {a : Option Bool} (h : optionalField key .bool drafts = .ok a)
        (hkey : key ∈ knownKeys) :=
      (isGiven_of_optionalField h (hfound hkey)).stands_iff isPlainSpelling_bool
    have hrules' :=
      (isGiven_of_optionalField hrules (hfound (by decide))).stands_iff isPlainSpelling_value
    have hother' :=
      stands_iff_of_required hother (hfound (by decide)) isPlainSpelling_text (by simp)
    have hcardinality' := Cardinality.stands_iff_of_required hcardinality (hfound (by decide))
    obtain rfl := Except.ok.inj hread
    rw [toJson_eq origin] at hunknown ⊢
    rw [unsigned_eq_written_iff hv ⟨_, hobject⟩ (areBeside_extra h) nodup_knownKeys hunknown]
    simp only [slots, List.forall_mem_cons, Slot.single, Slot.optional, hcardinality',
      htext hname (by decide), hother', htext hinverse (by decide), htext hfield (by decide),
      hflag howner (by decide), hrules', htext hjavadoc (by decide), hflag hid (by decide),
      IsSpelledOut, knownKeys, List.not_mem_nil, false_imp_iff, implies_true, and_true]
    constructor
    · rintro ⟨⟨word, hword⟩, hothers⟩
      exact ⟨⟨by simp [hword], hothers⟩, word, hword⟩
    · rintro ⟨⟨-, hothers⟩, hword⟩
      exact ⟨hword, hothers⟩
  | _ => cases hread

/-! ## Access rules -/

section Rules

variable {α : Type} {record first second name list key : String}
  {build : String → List String → α} {read : Decoder α} {write : α → Json} {a : α}

theorem get?_rule_first {name list : Json} (h : first ≠ second) :
    (ofMembers [(first, name), (second, list)]).get? first = some name :=
  (lookup_sortMembers (by simp [keys, h])).trans List.lookup_cons_self

theorem get?_rule_second {name list : Json} (h : first ≠ second) :
    (ofMembers [(first, name), (second, list)]).get? second = some list :=
  (lookup_sortMembers (by simp [keys, h])).trans
    ((lookup_cons_of_ne h.symm).trans List.lookup_cons_self)

/-- A rule stands as it is written, with its name and its list. -/
def RuleStands (name list : String) (v w : Json) : Prop :=
  (v.get? name).map Json.unsigned = (w.get? name).map Json.unsigned ∧
    (v.get? list).map Json.unsigned = (w.get? list).map Json.unsigned

/-- A rule stands as it is written if it is given by key, with its list. -/
theorem ruleStands_iff (hne : first ≠ second) (hbuild : ∀ a, ∃ name items, build name items = a)
    (hwrite : ∀ name items, write (build name items) =
      ofMembers [(first, .string name), (second, stringsToJson items)])
    (h : IsTaken (readRule record first second build) a v) :
    RuleStands first second v (write a) ↔ v.get? second ≠ none := by
  obtain ⟨d, hread, hvalue⟩ := h
  cases d with
  | object drafts ending =>
    simp only [readRule, bind_eq_ok] at hread
    obtain ⟨_, hcheck, name, hname, items, hitems, hread⟩ := hread
    obtain rfl := Except.ok.inj hread
    have hfound {key : String} (hkey : key ∈ [first, second]) :
        (v.get? key).map Except.ok = (drafts.lookup key).map Draft.value :=
      get?_of_checkRecord hcheck hvalue hkey
    obtain ⟨w, hw, htaken⟩ := exists_isTaken_of_required hname (hfound (by simp))
    obtain rfl := isPlainSpelling_text name w htaken
    have hlist := isListed_of_defaulted hitems (hfound (by simp))
    rw [RuleStands, hwrite, get?_rule_first hne, get?_rule_second hne, hw, and_iff_right rfl]
    exact hlist.stands_iff_given isPlainSpelling_text
  | array items ending =>
    obtain ⟨-, values, -, rfl⟩ := Draft.value_array_eq_ok hvalue
    obtain ⟨name, items, rfl⟩ := hbuild a
    rw [RuleStands, hwrite, get?_rule_first hne]
    exact iff_of_false (fun h => nomatch h.1) fun h => h rfl
  | _ => cases hread

/-- Where the rules of a list are written, they meet those it was read from if each of these stands
as it is written. -/
theorem rulesMeet_iff {as : List α} {found : Option Json} (h : IsListed read as found)
    (hrule : ∀ a v, IsTaken read a v → (RuleStands name list v (write a) ↔ v.get? list ≠ none)) :
    RulesMeet (rulesOf name list found) (rulesOf name list (listValue write as)) ↔
      ∀ rule ∈ ((found.getD .null).items?).getD [], rule.get? list ≠ none := by
  cases h with
  | absent => exact iff_of_true (Or.inl rfl) (List.forall_mem_nil _)
  | items hitems =>
    cases hitems with
    | nil => exact iff_of_true (Or.inr (Or.inl rfl)) (List.forall_mem_nil _)
    | @cons a v as items hfirst hrest =>
      have hstands := (List.Forall₂.cons hfirst hrest).imp hrule
      simp only [RuleStands, ← Prod.mk.injEq] at hstands
      have hmap := map_eq_map_iff_of_forall₂ hstands
      simp only [RulesMeet, rulesOf, listValue, reduceCtorEq, Option.some.injEq, false_or,
        List.map_map]
      exact hmap

end Rules

theorem RoleRule.stands_iff (rule : RoleRule) (v : Json) (h : IsTaken read rule v) :
    RuleStands "role" "actionList" v rule.toJson ↔ v.get? "actionList" ≠ none :=
  ruleStands_iff (by decide) (fun rule => ⟨rule.role, rule.actions, rfl⟩) (fun _ _ => rfl) h

theorem PrivilegeRule.stands_iff (rule : PrivilegeRule) (v : Json) (h : IsTaken read rule v) :
    RuleStands "action" "privList" v rule.toJson ↔ v.get? "privList" ≠ none :=
  ruleStands_iff (by decide) (fun rule => ⟨rule.action, rule.privileges, rfl⟩) (fun _ _ => rfl) h

namespace Security

variable {security : Security}

/-- Access rules that are spelled out: their kind is not null, and of the list that the kind uses
every rule has its own list. -/
def IsSpelledOut (v : Json) : Prop :=
  v.get? "securityType" ≠ some .null ∧
    if (v.get? "securityType").bind text? = some "roles" then
      ∀ rule ∈ itemsUnder "roles" v, rule.get? "actionList" ≠ none
    else ∀ rule ∈ itemsUnder "customSecurity" v, rule.get? "privList" ≠ none

/-- What access rules have of the value that they were read from. -/
structure GivenBy (security : Security) (v : Json) : Prop where
  kind : IsGiven .text security.kind (v.get? "securityType")
  roles : IsListed RoleRule.read security.roles (v.get? "roles")
  privileges : IsListed PrivilegeRule.read security.privileges (v.get? "customSecurity")

theorem givenBy_of_isTaken (h : IsTaken read security v) : security.GivenBy v := by
  obtain ⟨d, hread, hvalue⟩ := h
  cases d with
  | object drafts ending =>
    simp only [read, bind_eq_ok] at hread
    obtain ⟨_, hcheck, kind, hkind, roles, hroles, privileges, hprivileges, extra, -, hread⟩ := hread
    obtain rfl := Except.ok.inj hread
    have hfound {key : String} (hkey : key ∈ keys schema) := get?_of_checkRecord hcheck hvalue hkey
    exact ⟨isGiven_of_optionalField hkind (hfound (by decide)),
      isListed_of_defaulted hroles (hfound (by decide)),
      isListed_of_defaulted hprivileges (hfound (by decide))⟩
  | _ => cases hread

/-- Access rules stand as they are written if they are spelled out. -/
theorem stands_iff (h : security.IsProper ok n) (hgiven : security.GivenBy v) :
    kindOf v = kindOf security.toJson ∧ RulesMeet (rulesInUse v) (rulesInUse security.toJson) ↔
      IsSpelledOut v := by
  have hkind : security.toJson.get? "securityType" = security.kind.map .string :=
    get?_of_slot h (.optional "securityType" .text .string security.kind) (by simp [slots])
  have hroles : security.toJson.get? "roles" = listValue RoleRule.toJson security.roles :=
    get?_of_slot h (.list "roles" RoleRule.read RoleRule.toJson security.roles) (by simp [slots])
  have hprivileges : security.toJson.get? "customSecurity" =
      listValue PrivilegeRule.toJson security.privileges :=
    get?_of_slot h (.list "customSecurity" PrivilegeRule.read PrivilegeRule.toJson
      security.privileges) (by simp [slots])
  have hused : (security.toJson.get? "securityType").bind text? =
      (v.get? "securityType").bind text? := by
    rw [hkind, hgiven.kind.bind_text?]
  rw [kindOf, kindOf, hkind, hgiven.kind.stands_iff isPlainSpelling_text, IsSpelledOut]
  refine and_congr_right fun _ => ?_
  rw [rulesInUse, rulesInUse, hused, hroles, hprivileges]
  split
  · exact rulesMeet_iff hgiven.roles RoleRule.stands_iff
  · exact rulesMeet_iff hgiven.privileges PrivilegeRule.stands_iff

end Security

/-! ## Entities -/

namespace Json

variable {found : Option Json}

/-- A search engine that is switched off stands as it is written unless a word does it. -/
theorem IsGiven.present_engine_iff {engine : Option SearchEngine}
    (h : IsGiven SearchEngine.read engine found) :
    (present found).map unsigned = engine.map SearchEngine.toJson ↔
      found.getD .null ≠ .string "no" ∧ found.getD .null ≠ .string "" := by
  cases h with
  | absent => simp [present]
  | null => simp [present, isNull]
  | value hne htaken =>
    obtain ⟨d, hread, hvalue⟩ := htaken
    cases d with
    | bool b =>
      obtain rfl := Except.ok.inj hvalue
      cases b with
      | true => cases hread
      | false =>
        obtain rfl := Except.ok.inj hread
        exact iff_of_true rfl (by simp)
    | text s =>
      obtain rfl := Except.ok.inj hvalue
      obtain rfl := Except.ok.inj hread
      by_cases hoff : s = "no" ∨ s = ""
      · rcases hoff with rfl | rfl <;> simp [present, isNull, unsigned, SearchEngine.toJson]
      · obtain ⟨hno, hempty⟩ := not_or.1 hoff
        simp [present, isNull, unsigned, hno, hempty, SearchEngine.toJson]
    | _ => cases hread

/-- A setting in which the word `no` means `false`. -/
def asFlag : Option Json → Option Json
  | some (.string "no") => some (.bool false)
  | other => other

/-- A flag that is compared with `no` for `false` stands as it is written unless it is another
word. -/
theorem IsGiven.present_flag_iff {flag : Option Bool} (h : IsGiven readFlag flag found) :
    (asFlag (present found)).map unsigned = flag.map .bool ↔
      ∀ word, found.getD .null = .string word → word = "no" := by
  cases h with
  | absent => simp [present, asFlag]
  | null => simp [present, isNull, asFlag]
  | value hne htaken =>
    obtain ⟨d, hread, hvalue⟩ := htaken
    cases d with
    | bool b =>
      obtain rfl := Except.ok.inj hvalue
      obtain rfl := Except.ok.inj hread
      exact iff_of_true rfl (by simp)
    | text s =>
      obtain rfl := Except.ok.inj hvalue
      by_cases hno : s = "no"
      · subst hno
        obtain rfl := Except.ok.inj hread
        exact iff_of_true rfl fun word hword => (Json.string.inj hword).symm
      · have hflag : asFlag (some (string s)) = some (string s) := by
          unfold asFlag
          split
          · rename_i heq
            exact absurd (Json.string.inj (Option.some.inj heq)) hno
          · rfl
        rw [present_of_ne hne, hflag]
        exact iff_of_false (by simp [unsigned]) fun h => hno (h s rfl)
    | _ => cases hread

end Json

namespace EntityDefinition

variable {definition : EntityDefinition}

/-- The keys of an entity that are always written. -/
def writtenKeys : List String := ["name", "fields", "relationships"]

/-- What a definition has of the value that it was read from, its lists apart: the settings that are
compared one by one, and of the others whether they are there. -/
structure GivenBy (definition : EntityDefinition) (v : Json) : Prop where
  written : ∀ key ∈ writtenKeys, v.get? key ≠ some .null
  javadoc : IsGiven .text definition.javadoc (v.get? "javadoc")
  tableName : IsGiven .text definition.tableName (v.get? "entityTableName")
  dto : IsGiven (.variant DtoStrategy.variants) definition.options.dto (v.get? "dto")
  pagination : IsGiven (.variant PaginationStrategy.variants) definition.options.pagination
    (v.get? "pagination")
  service : IsGiven (.variant ServiceStrategy.variants) definition.options.service
    (v.get? "service")
  engine : IsGiven SearchEngine.read definition.options.searchEngine (v.get? "searchEngine")
  filtering : IsGiven readFlag definition.options.jpaMetamodelFiltering
    (v.get? "jpaMetamodelFiltering")
  secure : IsGiven Security.read definition.options.secure (v.get? "secure")
  others : ∀ slot ∈ definition.slots .value ++ definition.options.slots,
    slot.key ∉ writtenKeys → (present (v.get? slot.key)).isSome = slot.value.isSome

theorem givenBy_of_isTaken (h : IsTaken (read origin) definition v) : definition.GivenBy v := by
  obtain ⟨d, hread, hvalue⟩ := h
  cases d with
  | object drafts ending =>
    simp only [read, bind_eq_ok] at hread
    obtain ⟨_, hcheck, name, hname, fields, hfields, relationships, hrelationships, javadoc,
      hjavadoc, changelogDate, hchangelogDate, table, htable, options, hoptions, hread⟩ := hread
    obtain rfl := Except.ok.inj hread
    simp only [EntityOptions.ofMembers, bind_eq_ok] at hoptions
    obtain ⟨_, hoptionsCheck, dto, hdto, pagination, hpagination, service, hservice, filtering,
      hfiltering, fluent, hfluent, readOnly, hreadOnly, embedded, hembedded, engine, hengine,
      clientRoot, hclientRoot, microservice, hmicroservice, suffix, hsuffix, skipClient,
      hskipClient, skipServer, hskipServer, secure, hsecure, extra, -, hoptions⟩ := hoptions
    obtain rfl := Except.ok.inj hoptions
    have hfound {key : String} (hkey : key ∈ knownKeys) := get?_of_checkRecord hcheck hvalue hkey
    -- the options see only the members that the entity does not know
    have hoption {key : String} (hunknown : key ∉ knownKeys)
        (hkey : key ∈ keys EntityOptions.schema) :=
      (get?_value hvalue).trans ((lastValue_unknownMembers hunknown).symm.trans
        (lastValue_of_known hoptionsCheck hkey))
    have hgiven {α : Type} {key : String} {read : Decoder α} {a : Option α}
        (h : optionalField key read drafts = .ok a) (hkey : key ∈ knownKeys) :=
      isGiven_of_optionalField h (hfound hkey)
    have hchosen {α : Type} {key : String} {read : Decoder α} {a : Option α}
        (h : optionalField key read (unknownMembers (schema origin) drafts) = .ok a)
        (hunknown : key ∉ knownKeys) (hkey : key ∈ keys EntityOptions.schema) :=
      isGiven_of_optionalField h (hoption hunknown hkey)
    have hjavadoc := hgiven hjavadoc (by decide)
    have htable := hgiven htable (by decide)
    have hdto := hchosen hdto (by decide) (by decide)
    have hpagination := hchosen hpagination (by decide) (by decide)
    have hservice := hchosen hservice (by decide) (by decide)
    have hengine := hchosen hengine (by decide) (by decide)
    have hfiltering := hchosen hfiltering (by decide) (by decide)
    have hsecure := hchosen hsecure (by decide) (by decide)
    refine ⟨?_, hjavadoc, htable, hdto, hpagination, hservice, hengine, hfiltering, hsecure, ?_⟩
    · simp only [writtenKeys, List.forall_mem_cons]
      exact ⟨get?_ne_null_of_defaulted hname (hfound (by decide)) (by rintro _ ⟨⟩),
        get?_ne_null_of_defaulted hfields (hfound (by decide)) (by rintro _ ⟨⟩),
        get?_ne_null_of_defaulted hrelationships (hfound (by decide)) (by rintro _ ⟨⟩),
        List.forall_mem_nil _⟩
    · simp only [slots, EntityOptions.slots, List.cons_append, List.nil_append,
        List.forall_mem_cons, Slot.single, Slot.optional, Option.isSome_map, writtenKeys]
      have hflag {key : String} {a : Option Bool}
          (h : optionalField key readFlag (unknownMembers (schema origin) drafts) = .ok a)
          (hunknown : key ∉ knownKeys) (hkey : key ∈ keys EntityOptions.schema) :=
        (hchosen h hunknown hkey).isSome_present
      have htext {key : String} {a : Option String}
          (h : optionalField key .text (unknownMembers (schema origin) drafts) = .ok a)
          (hunknown : key ∉ knownKeys) (hkey : key ∈ keys EntityOptions.schema) :=
        (hchosen h hunknown hkey).isSome_present
      exact ⟨fun h => absurd (by simp) h, fun h => absurd (by simp) h, fun h => absurd (by simp) h,
        fun _ => hjavadoc.isSome_present,
        fun _ => (hgiven hchangelogDate (by decide)).isSome_present,
        fun _ => htable.isSome_present, fun _ => hdto.isSome_present,
        fun _ => hpagination.isSome_present, fun _ => hservice.isSome_present,
        fun _ => hfiltering.isSome_present, fun _ => hflag hfluent (by decide) (by decide),
        fun _ => hflag hreadOnly (by decide) (by decide),
        fun _ => hflag hembedded (by decide) (by decide), fun _ => hengine.isSome_present,
        fun _ => htext hclientRoot (by decide) (by decide),
        fun _ => htext hmicroservice (by decide) (by decide),
        fun _ => htext hsuffix (by decide) (by decide),
        fun _ => hflag hskipClient (by decide) (by decide),
        fun _ => hflag hskipServer (by decide) (by decide), fun _ => hsecure.isSome_present,
        List.forall_mem_nil _⟩
  | _ => cases hread

/-- A document that is spelled out: it has all that is always written, its fields and relationships
are spelled out, its strategies are words, its search engine and its filters are not switched by
other words than those that are compared, and its access rules are spelled out. -/
structure IsSpelledOut (v : Json) : Prop where
  complete : ∀ key ∈ writtenKeys, v.get? key ≠ none
  fields : ∀ item ∈ itemsUnder "fields" v, FieldDefinition.IsSpelledOut item
  relationships : ∀ item ∈ itemsUnder "relationships" v, RelationshipDefinition.IsSpelledOut item
  strategies : ∀ key ∈ ["dto", "pagination", "service"], (under key v).members? = none
  engine : under "searchEngine" v ≠ .string "no" ∧ under "searchEngine" v ≠ .string ""
  filtering : ∀ word, under "jpaMetamodelFiltering" v = .string word → word = "no"
  secure : Security.IsSpelledOut (under "secure" v)

variable {members : List (String × Json)}

/-- The outline of a sorted object, told by what stands under its keys. -/
theorem outline_object (hv : Increasing members) :
    (object members).outline = .inl {
      fields := (itemsUnder "fields" (object members)).map Json.unsigned
      relationships := (itemsUnder "relationships" (object members)).map Json.unsigned
      settings := settingKeys.map fun key =>
        (present ((object members).get? key)).map Json.unsigned
      filtering := (asFlag (present ((object members).get? "jpaMetamodelFiltering"))).map
        Json.unsigned
      kind := (present ((object members).get? "secure")).map kindOf
      size := (presentMembers members).length } := by
  have hpresent (key : String) :
      (presentMembers members).lookup key = present ((object members).get? key) :=
    lookup_presentMembers hv key
  have harray (key : String) : arrayUnder key (presentMembers members) =
      itemsUnder key (object members) := by
    rw [arrayUnder, hpresent, itemsUnder, under]
    cases (object members).get? key with
    | none => rfl
    | some v => cases v <;> rfl
  have hfiltering : filtering (presentMembers members) =
      asFlag (present ((object members).get? "jpaMetamodelFiltering")) :=
    congrArg asFlag (hpresent "jpaMetamodelFiltering")
  rw [outline, outlineOf]
  simp only [hpresent, harray, hfiltering]

theorem mem_keys_presentMembers (hv : Increasing members) (key : String) :
    key ∈ keys (presentMembers members) ↔ (present (members.lookup key)).isSome = true := by
  rw [← lookup_isSome, lookup_presentMembers hv]
  rfl

/-- A document has as many members that are not null as what is written for it if it has all that is
always written. -/
theorem length_presentMembers_iff (hv : Increasing members) (h : definition.IsProper ok (n + 2))
    (hgiven : definition.GivenBy (object members))
    (hextra : ∀ key ∉ allParts.map Part.key,
      definition.options.extra.lookup key = (object members).get? key) :
    (presentMembers members).length = (presentMembers definition.written).length ↔
      ∀ key ∈ writtenKeys, (object members).get? key ≠ none := by
  have hnodup : (keys (presentMembers members)).Nodup := Increasing.nodup (hv.filter _)
  have hnodup' : (keys (presentMembers definition.written)).Nodup :=
    Increasing.nodup (definition.increasing_written.filter _)
  have hslot (slot : Slot) (hslot : slot ∈ definition.slots .value ++ definition.options.slots) :
      slot.key ∈ keys (presentMembers definition.written) ↔ slot.value.isSome = true := by
    rw [← lookup_isSome, lookup_present h slot hslot]
  have hother (key : String) (hkey : key ∉ writtenKeys) :
      key ∈ keys (presentMembers members) ↔ key ∈ keys (presentMembers definition.written) := by
    by_cases hknown : key ∈ allParts.map Part.key
    · obtain ⟨slot, hmem, rfl⟩ : ∃ slot ∈ definition.slots .value ++ definition.options.slots,
          slot.key = key := List.mem_map.1 hknown
      rw [mem_keys_presentMembers hv, hslot slot hmem]
      exact Eq.congr_left (hgiven.others slot hmem hkey)
    · have hwritten := get?_of_unknown h hknown
      rw [toJson_eq_object, hextra key hknown] at hwritten
      rw [mem_keys_presentMembers hv, mem_keys_presentMembers definition.increasing_written,
        show definition.written.lookup key = members.lookup key from hwritten]
  have halways : ∀ key ∈ writtenKeys, key ∈ keys (presentMembers definition.written) := by
    simp only [writtenKeys, List.forall_mem_cons]
    exact ⟨(hslot (.single "name" .text (.string definition.name)) (by simp [slots])).2 rfl,
      (hslot (.single "fields" (.list FieldDefinition.read)
        (.array (definition.fields.map FieldDefinition.toJson))) (by simp [slots])).2 rfl,
      (hslot (.single "relationships" (.list (RelationshipDefinition.read .value))
        (.array (definition.relationships.map RelationshipDefinition.toJson)))
          (by simp [slots])).2 rfl, List.forall_mem_nil _⟩
  have hsubset : keys (presentMembers members) ⊆ keys (presentMembers definition.written) := by
    intro key hmem
    by_cases hkey : key ∈ writtenKeys
    · exact halways key hkey
    · exact (hother key hkey).1 hmem
  have hpresent (key : String) (hkey : key ∈ writtenKeys) :
      key ∈ keys (presentMembers members) ↔ (object members).get? key ≠ none := by
    have hnull : members.lookup key ≠ some .null := hgiven.written key hkey
    rw [mem_keys_presentMembers hv, get?]
    cases hlookup : members.lookup key with
    | none => simp [present]
    | some v => simp [present_of_ne fun hv => hnull (hlookup.trans (congrArg some hv))]
  have hlength : (presentMembers members).length = (presentMembers definition.written).length ↔
      keys (presentMembers definition.written) ⊆ keys (presentMembers members) := by
    have hcount {l : List (String × Json)} : (keys l).length = l.length := List.length_map _
    rw [← hcount, ← hcount]
    constructor
    · exact fun heq => ((hnodup.subperm hsubset).perm_of_length_le heq.ge).symm.subset
    · exact fun hback => ((hnodup.subperm hsubset).antisymm (hnodup'.subperm hback)).length_eq
  rw [hlength]
  refine ⟨fun hback key hkey => (hpresent key hkey).1 (hback (halways key hkey)),
    fun hall key hmem => ?_⟩
  by_cases hkey : key ∈ writtenKeys
  · exact (hpresent key hkey).2 (hall key hkey)
  · exact (hother key hkey).2 hmem

/-- Access rules, or none, stand as they are written if they are spelled out. -/
theorem secure_stands_iff {secure : Option Security} {found : Option Json}
    (hproper : ∀ security, secure = some security → security.IsProper ok n)
    (h : IsGiven Security.read secure found) :
    (present found).map kindOf = secure.map (fun security => security.kind.map .string) ∧
        RulesMeet ((present found).bind rulesInUse) ((secure.map Security.toJson).bind rulesInUse) ↔
      Security.IsSpelledOut (found.getD .null) := by
  have hnull : Security.IsSpelledOut .null := ⟨nofun, List.forall_mem_nil _⟩
  cases h with
  | absent => exact iff_of_true ⟨rfl, Or.inl rfl⟩ hnull
  | null => exact iff_of_true ⟨rfl, Or.inl rfl⟩ hnull
  | @value security v hne htaken =>
    have hsecurity := hproper security rfl
    rw [present_of_ne hne, Option.getD_some,
      ← Security.stands_iff hsecurity (Security.givenBy_of_isTaken htaken),
      Security.kindOf_toJson hsecurity]
    simp only [Option.map_some, Option.some.injEq, Option.bind_some]

/-- A document agrees with what is written for the definition that is read from it exactly if it is
spelled out. -/
theorem sameEntity_iff_isSpelledOut (hv : v.IsSorted) (h : definition.IsProper ok (n + 2))
    (htaken : IsTaken (read origin) definition v) :
    v.sameEntity definition.toJson = true ↔ IsSpelledOut v := by
  have hgiven := givenBy_of_isTaken htaken
  have hstands := standsIn_of_isTaken htaken
  obtain ⟨members, rfl⟩ : ∃ members, v = .object members := by
    obtain ⟨d, hread, hvalue⟩ := htaken
    cases d with
    | object drafts ending =>
      obtain ⟨-, members, -, rfl⟩ := Draft.value_object_eq_ok hvalue
      exact ⟨_, rfl⟩
    | _ => cases hread
  have hincreasing := (isSorted_object.1 hv).1
  have hfields : (itemsUnder "fields" (object members)).map Json.unsigned =
      definition.fields.map (fun field => field.toJson.unsigned) ↔
        ∀ item ∈ itemsUnder "fields" (object members), FieldDefinition.IsSpelledOut item := by
    refine map_eq_map_iff_of_forall₂ ?_
    have hall := (List.forall₂_and_left _ _).2 ⟨h.fields, hstands.fields⟩
    refine ((List.forall₂_and_left _ _).2 ⟨isSorted_itemsUnder hv, hall.flip⟩).flip.imp ?_
    exact fun field item hitem =>
      FieldDefinition.unsigned_eq_iff hitem.1 hitem.2.1 hitem.2.2
  have hrelationships : (itemsUnder "relationships" (object members)).map Json.unsigned =
      definition.relationships.map (fun relationship => relationship.toJson.unsigned) ↔
        ∀ item ∈ itemsUnder "relationships" (object members),
          RelationshipDefinition.IsSpelledOut item := by
    refine map_eq_map_iff_of_forall₂ ?_
    have hall := (List.forall₂_and_left _ _).2 ⟨h.relationships, hstands.relationships⟩
    refine ((List.forall₂_and_left _ _).2 ⟨isSorted_itemsUnder hv, hall.flip⟩).flip.imp ?_
    exact fun relationship item hitem =>
      RelationshipDefinition.unsigned_eq_iff hitem.1 hitem.2.1 hitem.2.2
  have hlisted : definition.toJson.listedRules =
      (definition.options.secure.map Security.toJson).bind rulesInUse := by
    rw [toJson_eq_object, listedRules, secured, lookup_secure h]
  have hlisted' : (object members).listedRules =
      (present ((object members).get? "secure")).bind rulesInUse := by
    rw [listedRules, secured, lookup_presentMembers hincreasing]
    rfl
  have hstring {a : Option String} {key : String} (h : IsGiven .text a ((object members).get? key)) :
      (present ((object members).get? key)).map Json.unsigned = a.map .string := by
    rw [h.present_eq isPlainSpelling_text, Option.map_map]
    rfl
  rw [sameEntity_iff hv (isSorted_toJson h), outline_object hincreasing, outline_toJson h,
    Sum.inl.injEq, Outline.mk.injEq, hfields, hrelationships, hlisted, hlisted',
    length_presentMembers_iff hincreasing h hgiven hstands.extra]
  simp only [settingKeys, List.map_cons, List.map_nil, List.cons.injEq, hstring hgiven.javadoc,
    hstring hgiven.tableName, hgiven.dto.present_variant_iff DtoStrategy.name_of_mem,
    hgiven.pagination.present_variant_iff PaginationStrategy.name_of_mem,
    hgiven.service.present_variant_iff ServiceStrategy.name_of_mem,
    hgiven.engine.present_engine_iff, hgiven.filtering.present_flag_iff, true_and, and_true]
  have hsecure := secure_stands_iff h.options.secure hgiven.secure
  constructor
  · rintro ⟨⟨hfields, hrelationships, ⟨hdto, hpagination, hservice, hengine⟩, hfiltering, hkind,
      hcomplete⟩, hmeet⟩
    exact {
      complete := hcomplete
      fields := hfields
      relationships := hrelationships
      strategies := List.forall_mem_cons.2 ⟨hdto, List.forall_mem_cons.2 ⟨hpagination,
        List.forall_mem_cons.2 ⟨hservice, List.forall_mem_nil _⟩⟩⟩
      engine := hengine
      filtering := hfiltering
      secure := hsecure.1 ⟨hkind, hmeet⟩ }
  · intro hspelled
    obtain ⟨hkind, hmeet⟩ := hsecure.2 hspelled.secure
    obtain ⟨hdto, hrest⟩ := List.forall_mem_cons.1 hspelled.strategies
    obtain ⟨hpagination, hrest⟩ := List.forall_mem_cons.1 hrest
    obtain ⟨hservice, -⟩ := List.forall_mem_cons.1 hrest
    exact ⟨⟨hspelled.fields, hspelled.relationships,
      ⟨hdto, hpagination, hservice, hspelled.engine⟩, hspelled.filtering, hkind,
      hspelled.complete⟩, hmeet⟩

end EntityDefinition

end EntityPipeline
