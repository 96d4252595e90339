-- Records read member by member. Whether an object is read as a record is settled by each of its
-- members alone, and what is written again under a key depends only on what stood under it. So
-- records can be compared key by key while members are replaced, and members that are laid over a
-- record one after the other may as well be laid over it at once.
import EntityPipeline.Proofs.Json.Records

namespace EntityPipeline.Json

variable {α β ε : Type} {key : String} {schema : Schema} {unknown : Check}

/-! ## Checks of members -/

/-- Members that pass a check are checked each by its own key. -/
theorem check_of_checkMembers {seen : List String} {members : List (String × Draft)}
    (h : checkMembers schema unknown seen members = .ok ()) :
    ∀ member ∈ members, (schema.lookup member.1).getD unknown member.2 = .ok () := by
  induction members generalizing seen with
  | nil => exact List.forall_mem_nil _
  | cons member rest ih =>
    obtain ⟨key, d⟩ := member
    rw [List.forall_mem_cons]
    unfold checkMembers at h
    cases hlookup : schema.lookup key with
    | none =>
      cases hunknown : unknown d with
      | error e => simp [hlookup, hunknown] at h
      | ok =>
        simp only [hlookup, hunknown] at h
        exact ⟨hunknown, ih h⟩
    | some check =>
      cases hcheck : check d with
      | error e =>
        simp only [hlookup, hcheck] at h
        split at h <;> cases h
      | ok =>
        simp only [hlookup, hcheck] at h
        split at h
        · cases h
        · exact ⟨hcheck, ih h⟩

theorem checkRecord_eq_ok {members : List (String × Draft)} {ending : Ending} :
    checkRecord schema unknown members ending = .ok () ↔
      checkMembers schema unknown [] members = .ok () ∧ ending.fault = none := by
  unfold checkRecord Ending.check
  cases checkMembers schema unknown [] members with
  | error e => simp
  | ok => cases ending.fault <;> simp

theorem checkRecord_closed {members : List (String × Draft)} :
    checkRecord schema unknown members .closed = checkMembers schema unknown [] members := by
  unfold checkRecord
  cases checkMembers schema unknown [] members <;> rfl

/-- A field whose member passes has a value. -/
theorem exists_defaulted {members : List (String × Draft)} {read : Decoder α} {absent : α}
    (h : ∀ d, members.lookup key = some d → read.check d = .ok ()) :
    ∃ a, defaulted key read absent members = .ok a := by
  unfold defaulted
  cases hlookup : members.lookup key with
  | none => exact ⟨absent, rfl⟩
  | some d =>
    have hcheck := h d hlookup
    unfold Decoder.check at hcheck
    cases hread : read d with
    | error e => simp [hread] at hcheck
    | ok a => exact ⟨a, hread⟩

/-- Where members pass their checks, each field has a value. -/
theorem exists_field {members : List (String × Draft)} {read : Decoder α} {absent : α}
    (h : checkMembers schema unknown [] members = .ok ()) (key : String)
    (hkey : schema.lookup key = some read.check) :
    ∃ a, defaulted key read absent members = .ok a := by
  refine exists_defaulted fun d hd => ?_
  have hcheck := check_of_checkMembers h _ (mem_of_lookup hd)
  rwa [hkey] at hcheck

theorem mem_ofMembers {members : List (String × Json)} {member : String × Json}
    (h : member ∈ members) : (member.1, Draft.ofJson member.2) ∈ Draft.ofMembers members := by
  rw [Draft.ofMembers_eq_map]
  exact List.mem_map_of_mem (f := fun member => (member.1, Draft.ofJson member.2)) h

theorem lookup_filter (p : String → Bool) (members : List (String × α)) :
    (members.filter fun member => p member.1).lookup key =
      if p key then members.lookup key else none := by
  induction members with
  | nil => simp
  | cons member rest ih =>
    by_cases hp : p member.1 = true
    · rw [List.filter_cons, if_pos hp, List.lookup_cons, ih, List.lookup_cons]
      by_cases hkey : key = member.1
      · simp [hkey, hp]
      · rw [beq_eq_false_iff_ne.2 hkey]
    · rw [List.filter_cons, if_neg hp, ih]
      by_cases hkey : key = member.1
      · simp [hkey, hp]
      · rw [lookup_cons_of_ne hkey]

/-! ## Fields out of members -/

/-- A field of a record: its key, its check, and what is written again for what stood under the
key. -/
structure Part where
  key : String
  check : Check
  rewrite : Option Draft → Option Json

namespace Part

/-- A field that may be absent or null. -/
def optional (key : String) (read : Decoder α) (write : α → Json) : Part where
  key := key
  check := read.optional.check
  rewrite found := (found.bind fun d => (read.optional d).toOption.join).map write

/-- A field that is always written. -/
def defaulted (key : String) (read : Decoder α) (write : α → Json) (absent : α) : Part where
  key := key
  check := read.check
  rewrite
    | none => some (write absent)
    | some d => (read d).toOption.map write

/-- A list that is written when it has items. -/
def list (key : String) (read : Decoder α) (write : α → Json) : Part where
  key := key
  check := (Decoder.list read).check
  rewrite found := found.bind fun d => (Decoder.list read d).toOption.bind (listValue write)

/-- The field as it stands in members. -/
def slot (part : Part) (members : List (String × Draft)) : Slot :=
  ⟨part.key, part.check, part.rewrite (members.lookup part.key)⟩

variable {members : List (String × Draft)} {read : Decoder α} {write : α → Json}

theorem slot_optional {a : Option α} (h : optionalField key read members = .ok a) :
    (optional key read write).slot members = .optional key read write a := by
  unfold optionalField Json.defaulted at h
  unfold slot optional Slot.optional
  cases hlookup : members.lookup key with
  | none =>
    simp only [hlookup, Except.ok.injEq] at h
    simp [← h]
  | some d =>
    simp only [hlookup] at h
    simp [h, Except.toOption]

theorem slot_defaulted {absent a : α} (h : Json.defaulted key read absent members = .ok a) :
    (defaulted key read write absent).slot members = .single key read (write a) := by
  unfold Json.defaulted at h
  unfold slot defaulted Slot.single
  cases hlookup : members.lookup key with
  | none =>
    simp only [hlookup, Except.ok.injEq] at h
    simp [h]
  | some d =>
    simp only [hlookup] at h
    simp [h, Except.toOption]

theorem slot_list {as : List α} (h : Json.defaulted key (.list read) [] members = .ok as) :
    (list key read write).slot members = .list key read write as := by
  unfold Json.defaulted at h
  unfold slot list Slot.list
  cases hlookup : members.lookup key with
  | none =>
    simp only [hlookup, Except.ok.injEq] at h
    simp [← h, listValue]
  | some d =>
    simp only [hlookup] at h
    simp [h, Except.toOption]

end Part

/-- Where keys tell fields apart, a field is the one that its key finds. -/
theorem find?_slot {slots : List Slot} {slot : Slot} (h : (slots.map Slot.key).Nodup)
    (hslot : slot ∈ slots) : slots.find? (·.key == slot.key) = some slot := by
  cases hfind : slots.find? (·.key == slot.key) with
  | none => exact absurd (beq_self_eq_true _) (List.find?_eq_none.1 hfind slot hslot)
  | some found =>
    have hkey : found.key = slot.key := by simpa using List.find?_some hfind
    rw [List.inj_on_of_nodup_map h (List.mem_of_find?_eq_some hfind) hslot hkey]

/-- Among written fields, a key finds what is written for its field. -/
theorem lookup_writtenOf {slots : List Slot} (h : (slots.map Slot.key).Nodup) :
    (writtenOf slots).lookup key = (slots.find? (·.key == key)).bind Slot.value := by
  have hnodup : (keys (writtenOf slots)).Nodup := (keys_writtenOf_sublist slots).nodup h
  refine Option.ext fun v => ?_
  rw [Option.bind_eq_some_iff]
  constructor
  · intro hv
    obtain ⟨slot, hslot, hkey, hvalue⟩ := mem_writtenOf.1 (mem_of_lookup hv)
    obtain rfl : slot.key = key := hkey
    exact ⟨slot, find?_slot h hslot, hvalue⟩
  · rintro ⟨slot, hfind, hvalue⟩
    have hkey : slot.key = key := by simpa using List.find?_some hfind
    exact lookup_eq_some hnodup
      (mem_writtenOf.2 ⟨slot, List.mem_of_find?_eq_some hfind, hkey, hvalue⟩)

section Extra

variable {members : List (String × Json)}

theorem unknownMembers_ofMembers : unknownMembers schema (Draft.ofMembers members) =
    Draft.ofMembers (members.filter fun member => (schema.lookup member.1).isNone) := by
  rw [unknownMembers, Draft.ofMembers_eq_map, List.filter_map, Draft.ofMembers_eq_map]
  rfl

/-- Of a value, the members that a record does not know can always be taken. -/
theorem extraMembers_ofMembers : extraMembers schema (Draft.ofMembers members) =
    .ok (sortMembers ((members.filter fun member => (schema.lookup member.1).isNone).map
      fun member => (member.1, member.2.sorted))) := by
  have hvalues (l : List (String × Json)) : Draft.valueMembers (Draft.ofMembers l) =
      .ok (l.map fun member => (member.1, member.2.sorted)) := by
    rw [Draft.valueMembers_eq_ok, Draft.ofMembers_eq_map, List.forall₂_map_left_iff,
      List.forall₂_map_right_iff, List.forall₂_same]
    exact fun member _ => ⟨rfl, Draft.value_ofJson member.2⟩
  unfold extraMembers
  rw [unknownMembers_ofMembers, hvalues]

/-- Beside the fields of a record is kept what stood under the keys it does not know. -/
theorem lookup_extraMembers {extra : List (String × Json)} (hincreasing : Increasing members)
    (h : extraMembers schema (Draft.ofMembers members) = .ok extra) :
    extra.lookup key =
      if (schema.lookup key).isNone then (members.lookup key).map sorted else none := by
  have hnodup : (keys (members.filter fun member =>
      (schema.lookup member.1).isNone)).Nodup :=
    (List.filter_sublist.map Prod.fst).nodup hincreasing.nodup
  rw [extraMembers_ofMembers] at h
  obtain rfl := Except.ok.inj h
  rw [lookup_sortMembers (by rwa [keys_map]), lookup_map_value,
    lookup_filter fun key => (schema.lookup key).isNone]
  split <;> rfl

end Extra

/-! ## What is written again -/

/-- What is written again under a key for what stood there: what is written for its field, or what
was kept beside the fields. -/
def rewriteBy (parts : List Part) (key : String) (found : Option Draft) : Option Json :=
  match parts.find? (·.key == key) with
  | some part => part.rewrite found
  | none => found.bind (·.value.toOption)

/-- Under a key stands what is written for its field, or what was kept beside the fields. -/
theorem lookup_written {slots : List Slot} {extra : List (String × Json)}
    (hslots : (slots.map Slot.key).Nodup) (hextra : (keys extra).Nodup)
    (hforeign : ∀ key ∈ keys extra, key ∉ slots.map Slot.key) :
    (sortMembers (writtenOf slots ++ extra)).lookup key =
      ((slots.find? (·.key == key)).bind Slot.value).or (extra.lookup key) := by
  have hnodup : (keys (writtenOf slots ++ extra)).Nodup := by
    rw [keys_append]
    refine List.nodup_append.2 ⟨(keys_writtenOf_sublist slots).nodup hslots, hextra, ?_⟩
    rintro key hkey _ hextra' rfl
    exact hforeign key hextra' ((keys_writtenOf_sublist slots).subset hkey)
  rw [lookup_sortMembers hnodup, List.lookup_append, lookup_writtenOf hslots]

/-- What is written for fields and beside them depends on what stood under each key. -/
theorem lookup_parts {parts : List Part} {slots : List Slot} {members extra : List (String × Json)}
    (hslots : slots = parts.map (·.slot (Draft.ofMembers members)))
    (hforeign : key ∈ parts.map Part.key → extra.lookup key = none)
    (hextra : key ∉ parts.map Part.key → extra.lookup key = (members.lookup key).map sorted) :
    ((slots.find? (·.key == key)).bind Slot.value).or (extra.lookup key) =
      rewriteBy parts key ((members.lookup key).map Draft.ofJson) := by
  have hfields : slots.find? (·.key == key) =
      (parts.find? (·.key == key)).map (·.slot (Draft.ofMembers members)) := by
    rw [hslots, List.find?_map]
    rfl
  rw [hfields]
  unfold rewriteBy
  cases hfind : parts.find? (·.key == key) with
  | none =>
    have hkey : key ∉ parts.map Part.key := by
      rintro hmem
      obtain ⟨part, hpart, rfl⟩ := List.mem_map.1 hmem
      exact absurd (beq_self_eq_true _) (List.find?_eq_none.1 hfind part hpart)
    rw [hextra hkey]
    cases members.lookup key with
    | none => rfl
    | some v => simp [Draft.value_ofJson, Except.toOption]
  | some part =>
    have hpart : part.key = key := by simpa using List.find?_some hfind
    rw [hforeign (hpart ▸ List.mem_map_of_mem (List.mem_of_find?_eq_some hfind)), Option.or_none]
    simp only [Option.map_some, Option.bind_some, Part.slot, hpart, Draft.ofMembers_eq_map,
      lookup_map_value]

/-! ## Members laid over records -/

/-- A record is read member by member: what is written for it is read as it again, an object is read
if each of its members passes, and what is written under a key depends on what stood there. -/
structure Memberwise (read : Json → Except ε α) (written : α → List (String × Json))
    (checkOf : String → Check) (rewrite : String → Option Draft → Option Json) : Prop where
  increasing : ∀ a, Increasing (written a)
  again : ∀ {value a}, read value = .ok a → read (.object (written a)) = .ok a
  checked : ∀ {members a}, read (.object members) = .ok a →
    ∀ member ∈ members, checkOf member.1 (Draft.ofJson member.2) = .ok ()
  reads : ∀ {members}, Increasing members →
    (∀ member ∈ members, checkOf member.1 (Draft.ofJson member.2) = .ok ()) →
    ∃ a, read (.object members) = .ok a
  lookup : ∀ {members a}, Increasing members → read (.object members) = .ok a →
    ∀ key, (written a).lookup key = rewrite key ((members.lookup key).map Draft.ofJson)

namespace Memberwise

variable {read : Json → Except ε α} {written : α → List (String × Json)}
  {checkOf : String → Check} {rewrite : String → Option Draft → Option Json}
  {base first second members : List (String × Json)} {a b : α}
  (h : Memberwise read written checkOf rewrite)
include h

/-- Records that were read are told by what is written for them under each key. -/
theorem ext {value value' : Json} (ha : read value = .ok a) (hb : read value' = .ok b)
    (hlookup : ∀ key, (written a).lookup key = (written b).lookup key) : a = b := by
  have hwritten : written a = written b := (h.increasing a).ext (h.increasing b) hlookup
  have hread := h.again ha
  rw [hwritten, h.again hb] at hread
  exact (Except.ok.inj hread).symm

/-- What is written for a record that was read is written again as it is. -/
theorem rewrite_written {value : Json} (ha : read value = .ok a) (key : String) :
    rewrite key (((written a).lookup key).map Draft.ofJson) = (written a).lookup key :=
  (h.lookup (h.increasing a) (h.again ha) key).symm

/-- An object is read if each of its members stands in an object that is read. -/
theorem reads_of_lookup (hmembers : Increasing members) (ha : read (.object first) = .ok a)
    (hb : read (.object second) = .ok b) (hmixed : ∀ key, members.lookup key = first.lookup key ∨
      members.lookup key = second.lookup key) : ∃ c, read (.object members) = .ok c := by
  refine h.reads hmembers fun member hmem => ?_
  have hmember := lookup_eq_some hmembers.nodup hmem
  rcases hmixed member.1 with heq | heq
  · exact h.checked ha member (mem_of_lookup (heq ▸ hmember))
  · exact h.checked hb member (mem_of_lookup (heq ▸ hmember))

/-- Members that are taken from two objects, each of which is read, are read as a record that has
under each key what one of the two has there. -/
theorem mixed (hmembers : Increasing members) (hfirst : Increasing first)
    (hsecond : Increasing second) (ha : read (.object first) = .ok a)
    (hb : read (.object second) = .ok b) (hmixed : ∀ key, members.lookup key = first.lookup key ∨
      members.lookup key = second.lookup key) :
    ∃ c, read (.object members) = .ok c ∧ ∀ key,
      (written c).lookup key = (written a).lookup key ∨
        (written c).lookup key = (written b).lookup key := by
  obtain ⟨c, hc⟩ := h.reads_of_lookup hmembers ha hb hmixed
  refine ⟨c, hc, fun key => ?_⟩
  rw [h.lookup hmembers hc, h.lookup hfirst ha, h.lookup hsecond hb]
  exact (hmixed key).imp (fun heq => by rw [heq]) fun heq => by rw [heq]

/-- Two layers may be laid over a record at once. Under the keys that count, what lies between them
must be what the first layer left. -/
theorem layered (counts : String → Prop) {between : List (String × Json)} (hbase : Increasing base)
    (hbetween : Increasing between) (hfirst : Increasing first) (hsecond : Increasing second)
    (ha : read (.object (overlay base first)) = .ok a)
    (hcounts : ∀ key, counts key → between.lookup key = (written a).lookup key)
    (hb : read (.object (overlay between second)) = .ok b) :
    ∃ c, read (.object (overlay base (overlay first second))) = .ok c ∧
      ∀ key, counts key → (written c).lookup key = (written b).lookup key := by
  have hlayers := (hfirst.overlay second).nodup
  -- a key of the second layer finds what it found last, any other one what it found first
  have hlookup : ∀ key, (overlay base (overlay first second)).lookup key =
      (second.lookup key).or ((overlay base first).lookup key) := by
    intro key
    rw [lookup_overlay hlayers, lookup_overlay hsecond.nodup, lookup_overlay hfirst.nodup,
      Option.or_assoc]
  obtain ⟨c, hc⟩ := h.reads_of_lookup (hbase.overlay _) ha hb fun key => by
    rw [hlookup, lookup_overlay hsecond.nodup]
    cases second.lookup key with
    | none => exact Or.inl rfl
    | some v => exact Or.inr rfl
  refine ⟨c, hc, fun key hkey => ?_⟩
  rw [h.lookup (hbase.overlay _) hc, h.lookup (hbetween.overlay _) hb, hlookup,
    lookup_overlay hsecond.nodup]
  cases second.lookup key with
  | some v => rfl
  | none =>
    rw [Option.none_or, Option.none_or, hcounts key hkey, h.rewrite_written ha,
      h.lookup (hbase.overlay _) ha]

/-- A layer that has been laid over a record leaves it as it is. -/
theorem layered_again (hbase : Increasing base) (hfirst : Increasing first)
    (ha : read (.object (overlay base first)) = .ok a) :
    read (.object (overlay (written a) first)) = .ok a := by
  have hwritten := h.again ha
  have hmixed : ∀ key, (overlay (written a) first).lookup key = (overlay base first).lookup key ∨
      (overlay (written a) first).lookup key = (written a).lookup key := by
    intro key
    rw [lookup_overlay hfirst.nodup, lookup_overlay hfirst.nodup]
    cases first.lookup key with
    | some v => exact Or.inl rfl
    | none => exact Or.inr rfl
  obtain ⟨c, hc, hsame⟩ := h.mixed ((h.increasing a).overlay _) (hbase.overlay _)
    (h.increasing a) ha hwritten hmixed
  rw [hc, h.ext hc ha fun key => (hsame key).elim id id]

end Memberwise

end EntityPipeline.Json
