-- Members that a record does not know. An entity, a field, a relationship and access rules keep
-- them, so that they stand in the snapshot where they stood in the document; of a single rule only
-- its name and its list are kept.
import EntityPipeline.Proofs.Definition.Memberwise

namespace EntityPipeline

namespace Json

variable {α β γ : Type} {key : String} {schema : Schema} {unknown : Check} {read : Decoder α}
  {d : Draft} {v : Json} {members : List (String × Draft)} {ending : Ending}

/-! ## The last member under a key -/

/-- Of several members under one key, sorting leaves the last. -/
theorem lookup_sortMembers_last (members : List (String × α)) :
    (sortMembers members).lookup key = members.reverse.lookup key := by
  induction members using List.reverseRecOn with
  | nil => rfl
  | append_singleton members member ih =>
    have hlast : sortMembers (members ++ [member]) =
        insertMember member.1 member.2 (sortMembers members) := by
      rw [sortMembers, List.foldl_append]
      rfl
    rw [hlast, lookup_insertMember, ih, List.reverse_append, List.reverse_singleton,
      List.singleton_append]
    by_cases hkey : key = member.1
    · rw [if_pos hkey, hkey, List.lookup_cons_self]
    · rw [if_neg hkey, lookup_cons_of_ne hkey]

/-- The value of the last member under a key, as far as it can be taken. -/
def lastValue (key : String) (members : List (String × Draft)) : Option (Except Fault Json) :=
  (members.reverse.lookup key).map Draft.value

theorem lookup_sortMembers_values {values : List (String × Json)}
    (h : List.Forall₂ (fun d v => d.1 = v.1 ∧ d.2.value = .ok v.2) members values) :
    ((sortMembers values).lookup key).map Except.ok = lastValue key members := by
  rw [lookup_sortMembers_last, lastValue, ← lookup_map_value, ← lookup_map_value,
    List.map_reverse, List.map_reverse, Draft.map_value_of_forall₂ h]

/-- Under a key of an object stands the value of the last member that was given for it. -/
theorem get?_value (h : (Draft.object members ending).value = .ok v) :
    (v.get? key).map Except.ok = lastValue key members := by
  obtain ⟨-, values, hvalues, rfl⟩ := Draft.value_object_eq_ok h
  exact lookup_sortMembers_values hvalues

theorem lastValue_unknownMembers (h : key ∉ keys schema) :
    lastValue key (unknownMembers schema members) = lastValue key members := by
  have hunknown : (schema.lookup key).isNone = true :=
    Option.isNone_iff_eq_none.2 (lookup_eq_none_iff.2 h)
  rw [lastValue, unknownMembers, ← List.filter_reverse,
    lookup_filter fun key => (schema.lookup key).isNone, if_pos hunknown, lastValue]

/-- Beside the fields of a record is kept the last value given for a key that it does not know. -/
theorem extraMembers_last {extra : List (String × Json)}
    (h : extraMembers schema members = .ok extra) (hkey : key ∉ keys schema) :
    (extra.lookup key).map Except.ok = lastValue key members := by
  unfold extraMembers at h
  cases hvalues : Draft.valueMembers (unknownMembers schema members) with
  | error f => simp [hvalues] at h
  | ok values =>
    simp only [hvalues, Except.ok.injEq] at h
    subst h
    rw [lookup_sortMembers_values (Draft.valueMembers_eq_ok.1 hvalues),
      lastValue_unknownMembers hkey]

/-- What a passed member leaves to check: a known key is seen from then on. -/
theorem checkMembers_cons {seen : List String}
    (h : checkMembers schema unknown seen ((key, d) :: members) = .ok ()) :
    ∃ seen', checkMembers schema unknown seen' members = .ok () ∧ seen ⊆ seen' ∧
      (key ∈ keys schema → key ∉ seen ∧ key ∈ seen') := by
  unfold checkMembers at h
  cases hlookup : schema.lookup key with
  | none =>
    have hkey : key ∉ keys schema := lookup_eq_none_iff.1 hlookup
    simp only [hlookup] at h
    split at h
    · cases h
    · exact ⟨seen, h, List.Subset.refl _, fun hmem => absurd hmem hkey⟩
  | some check =>
    simp only [hlookup] at h
    split at h
    · cases h
    · rename_i hseen
      split at h
      · cases h
      · exact ⟨key :: seen, h, List.subset_cons_self _ _,
          fun _ => ⟨by simpa using hseen, List.mem_cons_self⟩⟩

theorem lookup_eq_none_of_seen {seen : List String}
    (h : checkMembers schema unknown seen members = .ok ()) (hkey : key ∈ keys schema)
    (hseen : key ∈ seen) : members.lookup key = none := by
  induction members generalizing seen with
  | nil => rfl
  | cons member rest ih =>
    obtain ⟨seen', hrest, hsubset, hnew⟩ := checkMembers_cons h
    have hne : key ≠ member.1 := by
      rintro rfl
      exact (hnew hkey).1 hseen
    rw [lookup_cons_of_ne hne, ih hrest (hsubset hseen)]

/-- A known key stands once, so its last member is the one that a field finds. -/
theorem lastValue_of_known {seen : List String}
    (h : checkMembers schema unknown seen members = .ok ()) (hkey : key ∈ keys schema) :
    lastValue key members = (members.lookup key).map Draft.value := by
  have hlast : members.reverse.lookup key = members.lookup key := by
    induction members generalizing seen with
    | nil => rfl
    | cons member rest ih =>
      obtain ⟨seen', hrest, -, hnew⟩ := checkMembers_cons h
      rw [List.reverse_cons, List.lookup_append, ih hrest]
      by_cases hmember : key = member.1
      · -- the key has been seen, so it stands nowhere in the rest
        subst hmember
        rw [lookup_eq_none_of_seen hrest hkey (hnew hkey).2, Option.none_or,
          List.lookup_cons_self, List.lookup_cons_self]
      · rw [lookup_cons_of_ne hmember, lookup_cons_of_ne hmember, List.lookup_nil, Option.or_none]
  rw [lastValue, hlast]

/-! ## Records and the values they were read from -/

/-- What stands under a key; null if nothing does. -/
def under (key : String) (value : Json) : Json := (value.get? key).getD .null

/-- The items of the list under a key; none if there is no list. -/
def itemsUnder (key : String) (value : Json) : List Json := (under key value).items?.getD []

/-- A record and the value of the draft that it was read from. -/
def IsTaken (read : Decoder α) (a : α) (v : Json) : Prop := ∃ d, read d = .ok a ∧ d.value = .ok v

theorem forall₂_of_left {r : α → β → Prop} {s : α → γ → Prop} {as : List α} {bs : List β}
    {cs : List γ} (h : List.Forall₂ r as bs) (h' : List.Forall₂ s as cs) :
    List.Forall₂ (fun b c => ∃ a, r a b ∧ s a c) bs cs := by
  induction h generalizing cs with
  | nil =>
    cases h'
    exact .nil
  | cons hr _ ih =>
    cases h' with
    | cons hs h' => exact .cons ⟨_, hr, hs⟩ (ih h')

/-- The items of a field that is a list were taken from the items under its key, in their order. -/
theorem forall₂_isTaken {as : List α} (h : defaulted key (.list read) [] members = .ok as)
    (hvalue : (v.get? key).map Except.ok = (members.lookup key).map Draft.value) :
    List.Forall₂ (IsTaken read) as (itemsUnder key v) := by
  unfold defaulted at h
  unfold itemsUnder under
  cases hlookup : members.lookup key with
  | none =>
    simp only [hlookup, Except.ok.injEq] at h
    have hnone : v.get? key = none := by simpa [hlookup] using hvalue
    rw [hnone, ← h]
    exact .nil
  | some d =>
    simp only [hlookup] at h
    obtain ⟨w, hw, hd⟩ := Option.map_eq_some_iff.1 (hlookup ▸ hvalue)
    obtain ⟨ds, ending, rfl, -, hitems⟩ := list_eq_ok h
    obtain ⟨-, values, hvalues, rfl⟩ := Draft.value_array_eq_ok hd.symm
    rw [hw]
    exact forall₂_of_left (items_eq_ok hitems) hvalues

/-- A field that may be absent or null was taken from what stands under its key. -/
theorem isTaken_of_optionalField {a : Option α} (h : optionalField key read members = .ok a)
    (hvalue : (v.get? key).map Except.ok = (members.lookup key).map Draft.value) :
    (a = none ∧ under key v = .null) ∨ ∃ b, a = some b ∧ IsTaken read b (under key v) := by
  unfold optionalField defaulted at h
  unfold under
  cases hlookup : members.lookup key with
  | none =>
    simp only [hlookup, Except.ok.injEq] at h
    have hnone : v.get? key = none := by simpa [hlookup] using hvalue
    exact Or.inl ⟨h.symm, by rw [hnone]; rfl⟩
  | some d =>
    simp only [hlookup] at h
    obtain ⟨w, hw, hd⟩ := Option.map_eq_some_iff.1 (hlookup ▸ hvalue)
    rw [hw]
    cases a with
    | none =>
      obtain rfl := optional_eq_none h
      exact Or.inl ⟨rfl, Except.ok.inj hd⟩
    | some b => exact Or.inr ⟨b, rfl, d, (optional_eq_some h).2, hd.symm⟩

/-- Under a key that a record does not know it keeps what stood there. -/
theorem lookup_extra_eq_get? {extra : List (String × Json)}
    (hextra : extraMembers schema members = .ok extra)
    (hvalue : (Draft.object members ending).value = .ok v) (hkey : key ∉ keys schema) :
    extra.lookup key = v.get? key :=
  Option.map_injective (fun _ _ => Except.ok.inj)
    ((extraMembers_last hextra hkey).trans (get?_value hvalue).symm)

/-! ## What is written under a key -/

theorem find?_eq_none_of_not_mem {slots : List Slot} (h : key ∉ slots.map Slot.key) :
    slots.find? (·.key == key) = none :=
  List.find?_eq_none.2 fun _ hslot heq => h (beq_iff_eq.1 heq ▸ List.mem_map_of_mem hslot)

/-- Under a key of no field is written what is kept beside the fields. -/
theorem get?_written {slots : List Slot} {extra : List (String × Json)} {known : List String}
    (hextra : AreBeside slots unknown extra) (hslots : slots.map Slot.key = known)
    (hnodup : known.Nodup) (hkey : key ∉ known) :
    (ofMembers (writtenOf slots ++ extra)).get? key = extra.lookup key := by
  subst hslots
  show (sortMembers _).lookup key = _
  rw [lookup_written hnodup hextra.nodup hextra.foreign, find?_eq_none_of_not_mem hkey]
  rfl

/-- Under the key of a field is written what its slot holds. -/
theorem get?_written_slot {slots : List Slot} {extra : List (String × Json)}
    (hextra : AreBeside slots unknown extra) (hnodup : (slots.map Slot.key).Nodup) (slot : Slot)
    (hslot : slot ∈ slots) :
    (ofMembers (writtenOf slots ++ extra)).get? slot.key = slot.value := by
  have hnone : extra.lookup slot.key = none := lookup_eq_none_iff.2 fun hmem =>
    hextra.foreign _ hmem (List.mem_map_of_mem hslot)
  show (sortMembers _).lookup slot.key = _
  rw [lookup_written hnodup hextra.nodup hextra.foreign, find?_slot hnodup hslot, hnone,
    Option.bind_some, Option.or_none]

theorem itemsUnder_of_array {items : List Json} (h : v.get? key = some (.array items)) :
    itemsUnder key v = items := by
  unfold itemsUnder under
  rw [h]
  rfl

theorem itemsUnder_of_list {write : α → Json} {as : List α}
    (h : v.get? key = listValue write as) : itemsUnder key v = as.map write := by
  unfold itemsUnder under
  rw [h]
  cases as <;> rfl

/-- Items that agree under a key agree under it at every place. -/
theorem get?_getD {write : α → Json} {as : List α} {values : List Json}
    (h : List.Forall₂ (fun a v => (write a).get? key = v.get? key) as values) (index : Nat) :
    ((as.map write).getD index .null).get? key = (values.getD index .null).get? key := by
  induction h generalizing index with
  | nil => rfl
  | cons ha _ ih =>
    cases index with
    | zero => exact ha
    | succ index => exact ih index

theorem get?_getD_eq_none {items : List Json} (h : ∀ item ∈ items, item.get? key = none)
    (index : Nat) : (items.getD index .null).get? key = none := by
  rw [List.getD_eq_getElem?_getD]
  cases hitem : items[index]? with
  | none => rfl
  | some item => exact h item (List.mem_of_getElem? hitem)

end Json

open Json

variable {ok : Number → Prop} {n : Nat} {key : String} {v : Json}

/-! ## Records that keep what they do not know -/

/-- A rule is written as its name and its list and nothing else. -/
theorem get?_rule {first second : String} {name list : Json} (hkey : key ∉ [first, second]) :
    (ofMembers [(first, name), (second, list)]).get? key = none :=
  lookup_eq_none_iff.2 fun hmem => by
    obtain ⟨member, hmember, rfl⟩ := List.mem_map.1 hmem
    exact hkey (List.mem_map_of_mem (f := Prod.fst) (mem_of_mem_sortMembers hmember))

theorem FieldDefinition.get?_toJson {field : FieldDefinition} (h : field.IsProper ok n)
    (htaken : IsTaken read field v) (hkey : key ∉ keys schema) :
    field.toJson.get? key = v.get? key := by
  obtain ⟨d, hread, hvalue⟩ := htaken
  cases d with
  | object members ending =>
    simp only [read, bind_eq_ok] at hread
    obtain ⟨_, -, _, -, _, -, _, -, _, -, _, -, _, -, _, -, _, -, _, -, _, -, _, -, _, -, _, -,
      _, -, extra, hextra, hread⟩ := hread
    obtain rfl := Except.ok.inj hread
    rw [toJson_eq, get?_written (areBeside_extra h) rfl nodup_keys_schema hkey]
    exact lookup_extra_eq_get? hextra hvalue hkey
  | _ => cases hread

theorem RelationshipDefinition.get?_toJson {origin : Origin}
    {relationship : RelationshipDefinition} (h : relationship.IsProper ok n)
    (htaken : IsTaken (read origin) relationship v) (hkey : key ∉ knownKeys) :
    relationship.toJson.get? key = v.get? key := by
  obtain ⟨d, hread, hvalue⟩ := htaken
  cases d with
  | object members ending =>
    simp only [read, bind_eq_ok] at hread
    obtain ⟨_, -, _, -, _, -, _, -, _, -, _, -, _, -, _, -, _, -, _, -, extra, hextra,
      hread⟩ := hread
    obtain rfl := Except.ok.inj hread
    rw [toJson_eq origin, get?_written (areBeside_extra h) rfl nodup_knownKeys hkey]
    exact lookup_extra_eq_get? hextra hvalue hkey
  | _ => cases hread

theorem Security.get?_toJson {security : Security} (h : security.IsProper ok n)
    (htaken : IsTaken read security v) (hkey : key ∉ keys schema) :
    security.toJson.get? key = v.get? key := by
  obtain ⟨d, hread, hvalue⟩ := htaken
  cases d with
  | object members ending =>
    simp only [read, bind_eq_ok] at hread
    obtain ⟨_, -, _, -, _, -, _, -, extra, hextra, hread⟩ := hread
    obtain rfl := Except.ok.inj hread
    rw [toJson_eq, get?_written (areBeside_extra h) rfl nodup_keys_schema hkey]
    exact lookup_extra_eq_get? hextra hvalue hkey
  | _ => cases hread

/-! ## Entities -/

namespace EntityDefinition

variable {origin : Origin} {definition : EntityDefinition}

/-- What a definition has of the value that it was taken from. -/
structure StandsIn (origin : Origin) (definition : EntityDefinition) (v : Json) : Prop where
  fields : List.Forall₂ (IsTaken FieldDefinition.read) definition.fields (itemsUnder "fields" v)
  relationships : List.Forall₂ (IsTaken (RelationshipDefinition.read origin))
    definition.relationships (itemsUnder "relationships" v)
  secure : (definition.options.secure = none ∧ under "secure" v = .null) ∨
    ∃ security, definition.options.secure = some security ∧
      IsTaken Security.read security (under "secure" v)
  extra : ∀ key ∉ allParts.map Part.key, definition.options.extra.lookup key = v.get? key

theorem standsIn_of_isTaken (h : IsTaken (read origin) definition v) :
    definition.StandsIn origin v := by
  obtain ⟨d, hread, hvalue⟩ := h
  cases d with
  | object members ending =>
    simp only [read, bind_eq_ok] at hread
    obtain ⟨_, hcheck, _, -, fields, hfields, relationships, hrelationships, _, -, _, -, _, -,
      options, hoptions, hread⟩ := hread
    obtain rfl := Except.ok.inj hread
    have hextra := (EntityOptions.slots_of_ofMembers hoptions).2
    simp only [EntityOptions.ofMembers, bind_eq_ok] at hoptions
    obtain ⟨_, hoptionsCheck, _, -, _, -, _, -, _, -, _, -, _, -, _, -, _, -, _, -, _, -, _, -,
      _, -, _, -, secure, hsecure, _, -, hoptions⟩ := hoptions
    obtain rfl := Except.ok.inj hoptions
    have hmembers : checkMembers (schema origin) Decoder.value.check [] members = .ok () :=
      (checkRecord_eq_ok.1 hcheck).1
    have hfound {key : String} (hkey : key ∈ knownKeys) :
        (v.get? key).map Except.ok = (members.lookup key).map Draft.value :=
      (get?_value hvalue).trans (lastValue_of_known hmembers hkey)
    -- the options see only the members that the entity does not know
    have hoption {key : String} (hunknown : key ∉ knownKeys) :
        (v.get? key).map Except.ok = lastValue key (unknownMembers (schema origin) members) :=
      (get?_value hvalue).trans (lastValue_unknownMembers hunknown).symm
    refine ⟨forall₂_isTaken hfields (hfound (by decide)),
      forall₂_isTaken hrelationships (hfound (by decide)),
      isTaken_of_optionalField hsecure ?_, fun key hkey => ?_⟩
    · exact (hoption (by decide)).trans (lastValue_of_known hoptionsCheck (by decide))
    · rw [allParts, List.map_append, List.mem_append, not_or] at hkey
      exact Option.map_injective (fun _ _ => Except.ok.inj)
        ((extraMembers_last hextra hkey.2).trans (hoption hkey.1).symm)
  | _ => cases hread

/-- Under the key of a field is written what its slot holds. -/
theorem get?_of_slot (h : definition.IsProper ok (n + 2)) (slot : Slot)
    (hslot : slot ∈ definition.slots .value ++ definition.options.slots) :
    definition.toJson.get? slot.key = slot.value := by
  have hkey : slot.key ∈ allParts.map Part.key := List.mem_map_of_mem (f := Slot.key) hslot
  rw [toJson_eq_object]
  show definition.written.lookup slot.key = _
  rw [lookup_written h, find?_slot definition.nodup_keys_slots hslot, lookup_extra h hkey,
    Option.bind_some, Option.or_none]

/-- Under another key is written what is kept beside the fields. -/
theorem get?_of_unknown (h : definition.IsProper ok (n + 2))
    (hkey : key ∉ allParts.map Part.key) :
    definition.toJson.get? key = definition.options.extra.lookup key := by
  have hfind : (definition.slots .value ++ definition.options.slots).find? (·.key == key) = none :=
    find?_eq_none_of_not_mem hkey
  rw [toJson_eq_object]
  show definition.written.lookup key = _
  rw [lookup_written h, hfind]
  rfl

end EntityDefinition

/-! ## Places of records -/

/-- A place in a document where a record may stand. -/
inductive RecordPlace where
  | entity
  | field (index : Nat)
  | relationship (index : Nat)
  | secure
  | role (index : Nat)
  | privilege (index : Nat)
deriving DecidableEq, Repr

namespace RecordPlace

/-- What stands at a place of a document; null if nothing does. -/
def find : RecordPlace → Json → Json
  | .entity, value => value
  | .field index, value => (itemsUnder "fields" value).getD index .null
  | .relationship index, value => (itemsUnder "relationships" value).getD index .null
  | .secure, value => under "secure" value
  | .role index, value => (itemsUnder "roles" (under "secure" value)).getD index .null
  | .privilege index, value => (itemsUnder "customSecurity" (under "secure" value)).getD index .null

/-- The keys that the record at a place knows, those of the options among an entity's. -/
def knownKeys : RecordPlace → List String
  | .entity => EntityDefinition.allParts.map Part.key
  | .field _ => keys FieldDefinition.schema
  | .relationship _ => RelationshipDefinition.knownKeys
  | .secure => keys Security.schema
  | .role _ => ["role", "actionList"]
  | .privilege _ => ["action", "privList"]

/-- The member under a key at a place. -/
def member? (place : RecordPlace) (key : String) (value : Json) : Option Json :=
  (place.find value).get? key

/-- A place of one rule for a role or an action. -/
def IsRule : RecordPlace → Prop
  | .role _ | .privilege _ => True
  | _ => False

/-- No member at the place is unknown. -/
def IsPlain (place : RecordPlace) (value : Json) : Prop :=
  ∀ key ∉ place.knownKeys, place.member? key value = none

/-- Each unknown member at the place stands there, with its value, in what is written. -/
def Keeps (place : RecordPlace) (value written : Json) : Prop :=
  ∀ key ∉ place.knownKeys, place.member? key written = place.member? key value

end RecordPlace

namespace Security

variable {security : Security}

theorem itemsUnder_roles (h : security.IsProper ok n) :
    itemsUnder "roles" security.toJson = security.roles.map RoleRule.toJson :=
  itemsUnder_of_list (toJson_eq security ▸ get?_written_slot (areBeside_extra h) nodup_keys_schema
    (.list "roles" RoleRule.read RoleRule.toJson security.roles) (by simp [slots]))

theorem itemsUnder_privileges (h : security.IsProper ok n) :
    itemsUnder "customSecurity" security.toJson = security.privileges.map PrivilegeRule.toJson :=
  itemsUnder_of_list (toJson_eq security ▸ get?_written_slot (areBeside_extra h) nodup_keys_schema
    (.list "customSecurity" PrivilegeRule.read PrivilegeRule.toJson security.privileges)
    (by simp [slots]))

end Security

namespace EntityDefinition

variable {origin : Origin} {definition : EntityDefinition} {place : RecordPlace}

theorem itemsUnder_fields (h : definition.IsProper ok (n + 2)) :
    itemsUnder "fields" definition.toJson = definition.fields.map FieldDefinition.toJson :=
  itemsUnder_of_array (get?_of_slot h (.single "fields" (.list FieldDefinition.read)
    (.array (definition.fields.map FieldDefinition.toJson))) (by simp [slots]))

theorem itemsUnder_relationships (h : definition.IsProper ok (n + 2)) :
    itemsUnder "relationships" definition.toJson =
      definition.relationships.map RelationshipDefinition.toJson :=
  itemsUnder_of_array (get?_of_slot h (.single "relationships"
    (.list (RelationshipDefinition.read .value))
    (.array (definition.relationships.map RelationshipDefinition.toJson))) (by simp [slots]))

theorem under_secure (h : definition.IsProper ok (n + 2)) : under "secure" definition.toJson =
    (definition.options.secure.map Security.toJson).getD .null :=
  congrArg (·.getD .null) (get?_of_slot h (.optional "secure" Security.read Security.toJson
    definition.options.secure) (by simp [EntityOptions.slots]))

/-- A record that is not a rule keeps what it does not know. -/
theorem keeps_of_not_isRule (h : definition.IsProper ok (n + 2))
    (hstands : definition.StandsIn origin v) (hplace : ¬place.IsRule) :
    place.Keeps v definition.toJson := by
  intro key hkey
  cases place with
  | entity => exact (get?_of_unknown h hkey).trans (hstands.extra key hkey)
  | field index =>
    have hfields : List.Forall₂ (fun field v => field.toJson.get? key = v.get? key)
        definition.fields (itemsUnder "fields" v) :=
      ((List.forall₂_and_left _ _).2 ⟨h.fields, hstands.fields⟩).imp fun _ _ hfield =>
        FieldDefinition.get?_toJson hfield.1 hfield.2 hkey
    simp only [RecordPlace.member?, RecordPlace.find, itemsUnder_fields h]
    exact get?_getD hfields index
  | relationship index =>
    have hrelationships : List.Forall₂
        (fun relationship v => relationship.toJson.get? key = v.get? key)
        definition.relationships (itemsUnder "relationships" v) :=
      ((List.forall₂_and_left _ _).2 ⟨h.relationships, hstands.relationships⟩).imp
        fun _ _ hmember => RelationshipDefinition.get?_toJson hmember.1 hmember.2 hkey
    simp only [RecordPlace.member?, RecordPlace.find, itemsUnder_relationships h]
    exact get?_getD hrelationships index
  | secure =>
    simp only [RecordPlace.member?, RecordPlace.find]
    rw [under_secure h]
    rcases hstands.secure with ⟨hnone, hnull⟩ | ⟨security, hsome, htaken⟩
    · rw [hnone, hnull]
      rfl
    · rw [hsome]
      exact Security.get?_toJson (h.options.secure security hsome) htaken hkey
  | role | privilege => exact absurd trivial hplace

/-- The items of a list in the access rules that are written are those of the definition's own. -/
theorem forall_items_of_secure (h : definition.IsProper ok (n + 2)) {P : Json → Prop}
    (hitems : ∀ security, definition.options.secure = some security →
      ∀ item ∈ itemsUnder key security.toJson, P item) :
    ∀ item ∈ itemsUnder key (under "secure" definition.toJson), P item := by
  rw [under_secure h]
  cases hsecure : definition.options.secure with
  | none => exact List.forall_mem_nil _
  | some security => exact hitems security hsecure

/-- A rule is written without anything that it does not know. -/
theorem isPlain_of_isRule (h : definition.IsProper ok (n + 2)) (hplace : place.IsRule) :
    place.IsPlain definition.toJson := by
  intro key hkey
  cases place with
  | entity | field | relationship | secure => exact absurd hplace id
  | role index =>
    refine get?_getD_eq_none (forall_items_of_secure h fun security hsecure => ?_) index
    rw [Security.itemsUnder_roles (h.options.secure security hsecure)]
    exact List.forall_mem_map.2 fun rule _ => get?_rule hkey
  | privilege index =>
    refine get?_getD_eq_none (forall_items_of_secure h fun security hsecure => ?_) index
    rw [Security.itemsUnder_privileges (h.options.secure security hsecure)]
    exact List.forall_mem_map.2 fun rule _ => get?_rule hkey

/-- What stands at a place keeps its unknown members exactly if it is no rule or has none. -/
theorem keeps_iff (h : definition.IsProper ok (n + 2))
    (htaken : IsTaken (read origin) definition v) :
    place.Keeps v (Snapshot.canonicalValue definition) ↔ (place.IsRule → place.IsPlain v) := by
  rw [h.canonicalValue_eq]
  by_cases hplace : place.IsRule
  · rw [imp_iff_right hplace]
    have hwritten := isPlain_of_isRule h hplace
    exact forall₂_congr fun key hkey => by rw [hwritten key hkey, eq_comm]
  · exact iff_of_true (keeps_of_not_isRule h (standsIn_of_isTaken htaken) hplace)
      fun hrule => absurd hrule hplace

end EntityDefinition

/-- A definition was read from a document: from a value, or from a text that holds one. -/
inductive EntityDefinition.IsReadFrom (definition : EntityDefinition) : Json → Prop
  | value {value : Json} : ofJson value = .ok definition → IsReadFrom definition value.sorted
  | text {text : String} {value : Json} : Json.parse text = .ok value →
      Snapshot.read text = .ok definition → IsReadFrom definition value

/-- What stands at a place of a document keeps its unknown members in the snapshot exactly if it is
no rule or has none: of entities, fields, relationships and access rules nothing is lost, of a rule
everything but its name and its list. -/
theorem unknown_members_survive_outside_rules (definition : EntityDefinition) (document : Json)
    (h : definition.IsReadFrom document) (place : RecordPlace) :
    place.Keeps document (Snapshot.canonicalValue definition) ↔
      (place.IsRule → place.IsPlain document) := by
  cases h with
  | @value value hread =>
    obtain ⟨n, hproper⟩ := EntityDefinition.exists_isProper_of_ofJson hread
    exact EntityDefinition.keeps_iff hproper ⟨_, hread, Draft.value_ofJson value⟩
  | @text text value hvalue hread =>
    have hproper : definition.IsProper (fun _ => True) (122 + 2) :=
      EntityDefinition.isProper_of_snapshot hread
    exact EntityDefinition.keeps_iff hproper
      ⟨_, Decoder.read_of_ofText hread, value_of_parse hvalue⟩

/-- A book with a note, which nothing knows, at each place but in its rule. -/
def notedBook : Json :=
  .object [
    ("fields", .array [.object [("fieldName", .string "title"), ("fieldType", .string "String"),
      ("note", .string "on the cover")]]),
    ("name", .string "Book"),
    ("note", .null),
    ("relationships", .array [.object [("note", .bool true), ("otherEntityName", .string "Author"),
      ("relationshipType", .string "many-to-one")]]),
    ("secure", .object [("note", .array [.null]),
      ("roles", .array [.object [("actionList", .array []), ("role", .string "READER")]])])]

/-- A book with a note of its own and one in a rule. -/
def notedText : String :=
  "\x7b\"note\": 1, \"name\": \"Book\", \"secure\": \x7b\"roles\": [\x7b\"role\": \"READER\",
    \"note\": 2\x7d]\x7d, \"note\": 3\x7d"

theorem notedBook_isPlain {place : RecordPlace} (hplace : place.IsRule) :
    place.IsPlain notedBook := by
  cases place with
  | entity | field | relationship | secure => exact absurd hplace id
  | role index =>
    intro key hkey
    refine get?_getD_eq_none (List.forall_mem_singleton.2 ?_) index
    exact lookup_eq_none_iff.2 fun hmem => hkey (List.mem_pair.2 (List.mem_pair.1 hmem).symm)
  | privilege index =>
    intro key _
    exact get?_getD_eq_none (List.forall_mem_nil _) index

theorem notes_survive_outside_rules :
    (∃ definition, EntityDefinition.ofJson notedBook = .ok definition ∧ ∀ place : RecordPlace,
      place.Keeps notedBook.sorted (Snapshot.canonicalValue definition)) ∧
    ∃ value definition, Json.parse notedText = .ok value ∧
      Snapshot.read notedText = .ok definition ∧
      RecordPlace.entity.Keeps value (Snapshot.canonicalValue definition) := by
  obtain ⟨book, hbook⟩ := exists_of_isOk (x := EntityDefinition.ofJson notedBook)
    (by decide +kernel)
  obtain ⟨value, hvalue⟩ := exists_of_isOk (x := Json.parse notedText) (by decide +kernel)
  obtain ⟨definition, hread⟩ := exists_of_isOk (x := Snapshot.read notedText) (by decide +kernel)
  have hsorted : notedBook.sorted = notedBook := rfl
  refine ⟨⟨book, hbook, fun place => ?_⟩, value, definition, hvalue, hread, ?_⟩
  · exact (unknown_members_survive_outside_rules book _ (.value hbook) place).2 fun hplace =>
      hsorted ▸ notedBook_isPlain hplace
  · exact (unknown_members_survive_outside_rules definition value (.text hvalue hread) .entity).2
      nofun

/-- A book with a note in a rule for a role and one in a rule for an action. -/
def ruledBook : Json :=
  .object [("name", .string "Book"), ("secure", .object [
    ("customSecurity", .array [.object [("action", .string "read"), ("note", .bool true)]]),
    ("roles", .array [.object [("note", .bool true), ("role", .string "READER")]])])]

/-- The notes in rules are not written again. -/
theorem notes_in_rules_are_lost : ∃ definition, EntityDefinition.ofJson ruledBook = .ok definition ∧
    ∀ place ∈ [RecordPlace.role 0, .privilege 0], "note" ∉ place.knownKeys ∧
      place.member? "note" ruledBook.sorted = some (.bool true) ∧
      place.member? "note" (Snapshot.canonicalValue definition) = none := by
  obtain ⟨definition, hread⟩ := exists_of_isOk (x := EntityDefinition.ofJson ruledBook)
    (by decide +kernel)
  obtain ⟨n, hproper⟩ := EntityDefinition.exists_isProper_of_ofJson hread
  have hrole : (RecordPlace.role 0).IsPlain definition.toJson :=
    EntityDefinition.isPlain_of_isRule hproper trivial
  have hprivilege : (RecordPlace.privilege 0).IsPlain definition.toJson :=
    EntityDefinition.isPlain_of_isRule hproper trivial
  refine ⟨definition, hread, ?_⟩
  rw [hproper.canonicalValue_eq, List.forall_mem_cons, List.forall_mem_singleton]
  exact ⟨⟨by decide, rfl, hrole _ (by decide)⟩, by decide, rfl, hprivilege _ (by decide)⟩

end EntityPipeline
