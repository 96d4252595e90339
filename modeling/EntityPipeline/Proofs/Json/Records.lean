-- Records read back. A record is written as the members of its fields, those that are empty left
-- out, and the members it did not know; what is written passes every check, each field finds its own
-- member, and the members it did not know come out as they went in.
import EntityPipeline.Json.Decode
import EntityPipeline.Definition.Written
import EntityPipeline.Proofs.Json.Values

namespace EntityPipeline.Json

variable {α β : Type} {ok : Number → Prop} {n : Nat} {key : String} {d : Draft} {v : Json}
  {read : Decoder α} {schema : Schema} {unknown : Check}

/-! ## Results -/

theorem bind_eq_ok {x : Except ReadError α} {f : α → Except ReadError β} {b : β} :
    (x >>= f) = .ok b ↔ ∃ a, x = .ok a ∧ f a = .ok b := by
  cases x with
  | error e => exact ⟨nofun, nofun⟩
  | ok a =>
    refine ⟨fun h => ⟨a, rfl, h⟩, ?_⟩
    rintro ⟨_, ⟨⟩, h⟩
    exact h

/-! ## Values that are read back -/

/-- A value that a decoder reads as a given result, sorted and nested at most `n` deep. -/
structure IsReadBack (ok : Number → Prop) (n : Nat) (read : Decoder α) (v : Json) (a : α) : Prop where
  reads : read (Draft.ofJson v) = .ok a
  sorted : v.IsSorted
  fits : v.Fits ok n

/-- A value as it is kept in a record: sorted, not null, and no deeper than what it was read from. -/
structure IsKept (ok : Number → Prop) (n : Nat) (v : Json) : Prop where
  ne_null : v ≠ .null
  sorted : v.IsSorted
  fits : v.Fits ok n

theorem IsReadBack.check {a : α} (h : IsReadBack ok n read v a) :
    read.check (Draft.ofJson v) = .ok () := by
  unfold Decoder.check
  rw [h.reads]

theorem isReadBack_text (s : String) : IsReadBack ok n .text (.string s) s :=
  ⟨rfl, rfl, .string s⟩

theorem isReadBack_bool (b : Bool) : IsReadBack ok n .bool (.bool b) b :=
  ⟨rfl, rfl, .bool b⟩

theorem IsKept.isReadBack (h : IsKept ok n v) : IsReadBack ok n .value v v := by
  refine ⟨?_, h.sorted, h.fits⟩
  unfold Decoder.value
  rw [Draft.value_ofJson, h.sorted]

theorem check_value (v : Json) : Decoder.value.check (Draft.ofJson v) = .ok () := by
  unfold Decoder.check Decoder.value
  rw [Draft.value_ofJson]

theorem IsReadBack.optional {a : α} (hv : v ≠ .null) (h : IsReadBack ok n read v a) :
    IsReadBack ok n read.optional v (some a) := by
  have hdraft : read.optional (Draft.ofJson v) = (read (Draft.ofJson v)).map some := by
    cases v with
    | null => exact absurd rfl hv
    | _ => rfl
  refine ⟨?_, h.sorted, h.fits⟩
  rw [hdraft, h.reads]
  rfl

theorem isReadBack_list {write : α → Json} {as : List α}
    (h : ∀ a ∈ as, IsReadBack ok n read (write a) a) :
    IsReadBack ok (n + 1) (.list read) (.array (as.map write)) as := by
  have hitems : Decoder.items read (Draft.ofItems (as.map write)) = .ok as := by
    induction as with
    | nil => rfl
    | cons a as ih =>
      obtain ⟨ha, has⟩ := List.forall_mem_cons.1 h
      rw [List.map_cons, Draft.ofItems, Decoder.items, ha.reads, ih has]
  refine ⟨?_, isSorted_array.2 (List.forall_mem_map.2 fun a ha => (h a ha).sorted),
    .array (List.forall_mem_map.2 fun a ha => (h a ha).fits)⟩
  rw [Draft.ofJson, Decoder.list, hitems]
  rfl

theorem hardFault_ofJson (v : Json) : (Draft.ofJson v).hardFault = none := by
  induction v using induction with
  | null | bool | number | string => rfl
  | array items ih =>
    have hitems : Draft.hardFaultItems (Draft.ofItems items) = none := by
      induction items with
      | nil => rfl
      | cons item items ih' =>
        obtain ⟨hitem, hitems⟩ := List.forall_mem_cons.1 ih
        rw [Draft.ofItems, Draft.hardFaultItems, hitem, ih' hitems]
        rfl
    rw [Draft.ofJson, Draft.hardFault, hitems]
    rfl
  | object members ih =>
    have hmembers : Draft.hardFaultMembers (Draft.ofMembers members) = none := by
      induction members with
      | nil => rfl
      | cons member members ih' =>
        obtain ⟨hmember, hmembers⟩ := List.forall_mem_cons.1 ih
        rw [Draft.ofMembers, Draft.hardFaultMembers, hmember, ih' hmembers]
        rfl
    rw [Draft.ofJson, Draft.hardFault, hmembers]
    rfl

theorem skipUnknown_ofJson (v : Json) : skipUnknown (Draft.ofJson v) = .ok () := by
  unfold skipUnknown
  rw [hardFault_ofJson]

/-! ## Fields -/

/-- A field of a record that has a value: its key, its check, and what is written for it, if
anything is. -/
structure Slot where
  key : String
  check : Check
  value : Option Json

/-- The member that is written for a field. -/
def Slot.members (slot : Slot) : List (String × Json) :=
  optionalMember slot.key (fun v => v) slot.value

/-- The fields as the record knows them. -/
def schemaOf (slots : List Slot) : Schema := slots.map fun slot => (slot.key, slot.check)

/-- The members that are written for fields. -/
def writtenOf (slots : List Slot) : List (String × Json) := slots.flatMap Slot.members

/-- What is written for a list that is left out when it is empty. -/
def listValue (write : α → Json) : List α → Option Json
  | [] => none
  | items => some (.array (items.map write))

theorem mem_writtenOf {slots : List Slot} {member : String × Json} :
    member ∈ writtenOf slots ↔ ∃ slot ∈ slots, slot.key = member.1 ∧ slot.value = some member.2 := by
  have hslot (slot : Slot) :
      member ∈ slot.members ↔ slot.key = member.1 ∧ slot.value = some member.2 := by
    obtain ⟨key, check, value⟩ := slot
    obtain ⟨key', v⟩ := member
    cases value with
    | none => simp [Slot.members, optionalMember]
    | some w => simp [Slot.members, optionalMember, eq_comm]
  rw [writtenOf, List.mem_flatMap]
  exact exists_congr fun slot => and_congr_right fun _ => hslot slot

theorem keys_writtenOf_sublist (slots : List Slot) :
    (keys (writtenOf slots)).Sublist (slots.map Slot.key) := by
  induction slots with
  | nil => exact List.Sublist.refl _
  | cons slot slots ih =>
    have hslot : (keys slot.members).Sublist [slot.key] := by
      obtain ⟨key, check, value⟩ := slot
      cases value with
      | none => exact List.nil_sublist _
      | some w => exact List.Sublist.refl _
    rw [writtenOf, List.flatMap_cons, keys_append]
    exact hslot.append ih

/-- Members that may stand beside the fields of a record: each under one key, none under a key of
a field, and all of them pass. -/
structure AreBeside (slots : List Slot) (unknown : Check) (extra : List (String × Json)) : Prop where
  nodup : (keys extra).Nodup
  foreign : ∀ key ∈ keys extra, key ∉ slots.map Slot.key
  check : ∀ member ∈ extra, unknown (Draft.ofJson member.2) = .ok ()

/-- A field whose written value, if there is one, passes its check, is sorted and nests at most `n`
deep. -/
def Slot.Passes (ok : Number → Prop) (n : Nat) (slot : Slot) : Prop :=
  ∀ v, slot.value = some v →
    slot.check (Draft.ofJson v) = .ok () ∧ v.IsSorted ∧ v.Fits ok n

/-- Fields that are told apart by their keys and whose written values pass. -/
structure AreWritten (ok : Number → Prop) (n : Nat) (slots : List Slot) : Prop where
  nodup : (slots.map Slot.key).Nodup
  passes : ∀ slot ∈ slots, slot.Passes ok n

variable {slots : List Slot} {extra : List (String × Json)}

/-- The members that are written for a record, as drafts. -/
def drafts (slots : List Slot) (extra : List (String × Json)) : List (String × Draft) :=
  Draft.ofMembers (sortMembers (writtenOf slots ++ extra))

theorem ofJson_ofMembers (members : List (String × Json)) :
    Draft.ofJson (ofMembers members) = .object (Draft.ofMembers (sortMembers members)) .closed := by
  rw [ofMembers, Draft.ofJson]

theorem nodup_keys_written (h : AreWritten ok n slots) (hextra : AreBeside slots unknown extra) :
    (keys (writtenOf slots ++ extra)).Nodup := by
  rw [keys_append]
  refine List.nodup_append.2 ⟨(keys_writtenOf_sublist slots).nodup h.nodup, hextra.nodup, ?_⟩
  rintro key hkey _ hextra' rfl
  exact hextra.foreign key hextra' ((keys_writtenOf_sublist slots).subset hkey)

theorem keys_ofMembers (members : List (String × Json)) :
    keys (Draft.ofMembers members) = keys members := by
  rw [Draft.ofMembers_eq_map, keys_map]

theorem keys_schemaOf (slots : List Slot) : keys (schemaOf slots) = slots.map Slot.key := by
  rw [keys, schemaOf, List.map_map]
  rfl

theorem lookup_schemaOf_eq_none : (schemaOf slots).lookup key = none ↔ key ∉ slots.map Slot.key := by
  rw [← keys_schemaOf, lookup_eq_none_iff]

theorem lookup_schemaOf (h : AreWritten ok n slots) {slot : Slot} (hslot : slot ∈ slots) :
    (schemaOf slots).lookup slot.key = some slot.check :=
  lookup_eq_some (keys_schemaOf slots ▸ h.nodup)
    (List.mem_map_of_mem (f := fun slot : Slot => (slot.key, slot.check)) hslot)

/-- Members that are all different and all pass are accepted. -/
theorem checkMembers_eq_ok {seen : List String} {members : List (String × Draft)}
    (hnodup : (keys members).Nodup) (hseen : ∀ key ∈ keys members, key ∉ seen)
    (h : ∀ member ∈ members, (schema.lookup member.1).getD unknown member.2 = .ok ()) :
    checkMembers schema unknown seen members = .ok () := by
  induction members generalizing seen with
  | nil => rfl
  | cons member members ih =>
    obtain ⟨key, d⟩ := member
    obtain ⟨hkey, hnodup⟩ := List.nodup_cons.1 hnodup
    obtain ⟨hnew, hseen⟩ := List.forall_mem_cons.1 hseen
    obtain ⟨hmember, hmembers⟩ := List.forall_mem_cons.1 h
    unfold checkMembers
    cases hlookup : schema.lookup key with
    | none =>
      simp only [hlookup, Option.getD_none] at hmember
      simp only [hmember]
      exact ih hnodup hseen hmembers
    | some check =>
      simp only [hlookup, Option.getD_some] at hmember
      have hcontains : seen.contains key = false := by simpa using hnew
      simp only [hcontains, hmember, Bool.false_eq_true, if_false]
      refine ih hnodup (fun k hk => ?_) hmembers
      rintro (_ | ⟨_, hmem⟩)
      · exact hkey hk
      · exact hseen k hk hmem

/-- What is written for a record passes all of its checks. -/
theorem checkMembers_drafts (h : AreWritten ok n slots) (hextra : AreBeside slots unknown extra) :
    checkMembers (schemaOf slots) unknown [] (drafts slots extra) = .ok () := by
  have hnodup := nodup_keys_written h hextra
  refine checkMembers_eq_ok ?_ (fun _ _ => List.not_mem_nil) ?_
  · rw [drafts, keys_ofMembers]
    exact (increasing_sortMembers _).nodup
  · rw [drafts, Draft.ofMembers_eq_map]
    refine List.forall_mem_map.2 fun member hmem => ?_
    rcases List.mem_append.1 (mem_of_mem_sortMembers hmem) with hmem | hmem
    · obtain ⟨slot, hslot, hkey, hvalue⟩ := mem_writtenOf.1 hmem
      rw [← hkey, lookup_schemaOf h hslot]
      exact (h.passes slot hslot _ hvalue).1
    · have hunknown := hextra.foreign member.1 (List.mem_map_of_mem hmem)
      rw [lookup_schemaOf_eq_none.2 hunknown]
      exact hextra.check member hmem

theorem checkRecord_drafts (h : AreWritten ok n slots) (hextra : AreBeside slots unknown extra) :
    checkRecord (schemaOf slots) unknown (drafts slots extra) .closed = .ok () := by
  unfold checkRecord
  rw [checkMembers_drafts h hextra]
  rfl

/-- Each field finds what was written for it. -/
theorem lookup_drafts (h : AreWritten ok n slots) (hextra : AreBeside slots unknown extra) {slot : Slot}
    (hslot : slot ∈ slots) :
    (drafts slots extra).lookup slot.key = slot.value.map Draft.ofJson := by
  have hnodup := nodup_keys_written h hextra
  rw [drafts, Draft.ofMembers_eq_map, lookup_map_value, lookup_sortMembers hnodup]
  congr 1
  cases hvalue : slot.value with
  | some v =>
    exact lookup_eq_some hnodup
      (List.mem_append_left _ (mem_writtenOf.2 ⟨slot, hslot, rfl, hvalue⟩))
  | none =>
    by_contra hsome
    obtain ⟨v, hv⟩ := Option.ne_none_iff_exists'.1 hsome
    rcases List.mem_append.1 (mem_of_lookup hv) with hmem | hmem
    · obtain ⟨slot', hslot', hkey, hvalue'⟩ := mem_writtenOf.1 hmem
      rw [List.inj_on_of_nodup_map h.nodup hslot' hslot hkey, hvalue] at hvalue'
      exact nomatch hvalue'
    · exact hextra.foreign _ (List.mem_map_of_mem hmem) (List.mem_map_of_mem hslot)

/-- The members that a record does not know come out sorted. -/
theorem unknownMembers_drafts (h : AreWritten ok n slots) (hextra : AreBeside slots unknown extra) :
    unknownMembers (schemaOf slots) (drafts slots extra) =
      Draft.ofMembers (sortMembers extra) := by
  have hnodup := nodup_keys_written h hextra
  have hwritten : (writtenOf slots).filter
      (fun member => ((schemaOf slots).lookup member.1).isNone) = [] := by
    refine List.filter_eq_nil_iff.2 fun member hmem => ?_
    obtain ⟨slot, hslot, hkey, -⟩ := mem_writtenOf.1 hmem
    rw [← hkey, lookup_schemaOf h hslot]
    exact Bool.false_ne_true
  have hbeside : extra.filter (fun member => ((schemaOf slots).lookup member.1).isNone) = extra := by
    refine List.filter_eq_self.2 fun member hmem => ?_
    rw [lookup_schemaOf_eq_none.2 (hextra.foreign _ (List.mem_map_of_mem hmem))]
    rfl
  unfold unknownMembers
  rw [drafts, Draft.ofMembers_eq_map, List.filter_map, Draft.ofMembers_eq_map]
  congr 1
  have hfilter := filter_sortMembers (fun key => ((schemaOf slots).lookup key).isNone) hnodup
  rw [List.filter_append, hwritten, hbeside] at hfilter
  exact hfilter

theorem valueMembers_ofMembers {members : List (String × Json)}
    (h : ∀ member ∈ members, member.2.IsSorted) :
    Draft.valueMembers (Draft.ofMembers members) = .ok members := by
  rw [Draft.valueMembers_eq_ok, Draft.ofMembers_eq_map, List.forall₂_map_left_iff,
    List.forall₂_same]
  exact fun member hmem => ⟨rfl, (Draft.value_ofJson member.2).trans (by rw [h member hmem])⟩

theorem extraMembers_drafts (h : AreWritten ok n slots) (hextra : AreBeside slots unknown extra)
    (hincreasing : Increasing extra) (hsorted : ∀ member ∈ extra, member.2.IsSorted) :
    extraMembers (schemaOf slots) (drafts slots extra) = .ok extra := by
  unfold extraMembers
  rw [unknownMembers_drafts h hextra, sortMembers_eq_self hincreasing, valueMembers_ofMembers hsorted]
  simp only [sortMembers_eq_self hincreasing]

theorem isSorted_written (h : AreWritten ok n slots) (hextra : ∀ member ∈ extra, member.2.IsSorted) :
    ∀ member ∈ writtenOf slots ++ extra, member.2.IsSorted := by
  refine List.forall_mem_append.2 ⟨fun member hmem => ?_, hextra⟩
  obtain ⟨slot, hslot, -, hvalue⟩ := mem_writtenOf.1 hmem
  exact (h.passes slot hslot _ hvalue).2.1

theorem fits_written (h : AreWritten ok n slots) (hextra : ∀ member ∈ extra, member.2.Fits ok n) :
    ∀ member ∈ writtenOf slots ++ extra, member.2.Fits ok n := by
  refine List.forall_mem_append.2 ⟨fun member hmem => ?_, hextra⟩
  obtain ⟨slot, hslot, -, hvalue⟩ := mem_writtenOf.1 hmem
  exact (h.passes slot hslot _ hvalue).2.2

/-- A record reads back if what is written for it is read as it. -/
theorem isReadBack_written {a : α} (h : AreWritten ok n slots)
    (hsorted : ∀ member ∈ extra, member.2.IsSorted) (hfits : ∀ member ∈ extra, member.2.Fits ok n)
    (hreads : read (.object (drafts slots extra) .closed) = .ok a) :
    IsReadBack ok (n + 1) read (.ofMembers (writtenOf slots ++ extra)) a := by
  refine ⟨?_, isSorted_ofMembers (isSorted_written h hsorted), fits_ofMembers (fits_written h hfits)⟩
  rw [ofJson_ofMembers]
  exact hreads

/-! ## Reading fields -/

/-- An optional value that is not written as null and is read back. -/
def IsReadBackIfAny (ok : Number → Prop) (n : Nat) (read : Decoder α) (write : α → Json)
    (a : Option α) : Prop :=
  ∀ b, a = some b → write b ≠ .null ∧ IsReadBack ok n read (write b) b

theorem isReadBackIfAny_text (a : Option String) : IsReadBackIfAny ok n .text .string a :=
  fun b _ => ⟨nofun, isReadBack_text b⟩

theorem isReadBackIfAny_bool (a : Option Bool) : IsReadBackIfAny ok n .bool .bool a :=
  fun b _ => ⟨nofun, isReadBack_bool b⟩

theorem isReadBackIfAny_value {a : Option Json} (h : ∀ v, a = some v → IsKept ok n v) :
    IsReadBackIfAny ok n .value (fun v => v) a :=
  fun v hv => ⟨(h v hv).ne_null, (h v hv).isReadBack⟩

namespace Slot

/-- A field that is always written. -/
def single (key : String) (read : Decoder α) (value : Json) : Slot := ⟨key, read.check, some value⟩

/-- A field that is written when it has a value. -/
def optional (key : String) (read : Decoder α) (write : α → Json) (a : Option α) : Slot :=
  ⟨key, read.optional.check, a.map write⟩

/-- A list that is written when it has items. -/
def list (key : String) (read : Decoder α) (write : α → Json) (as : List α) : Slot :=
  ⟨key, (Decoder.list read).check, listValue write as⟩

theorem passes_single {a : α} (h : IsReadBack ok n read v a) : (single key read v).Passes ok n := by
  rintro _ ⟨⟩
  exact ⟨h.check, h.sorted, h.fits⟩

theorem passes_optional {write : α → Json} {a : Option α} (h : IsReadBackIfAny ok n read write a) :
    (optional key read write a).Passes ok n := by
  intro v hv
  obtain ⟨b, rfl, rfl⟩ := Option.map_eq_some_iff.1 hv
  have hb := (h b rfl).2.optional (h b rfl).1
  exact ⟨hb.check, hb.sorted, hb.fits⟩

theorem passes_list {write : α → Json} {as : List α}
    (h : ∀ a ∈ as, IsReadBack ok n read (write a) a) :
    (list key read write as).Passes ok (n + 1) := by
  intro v hv
  cases as with
  | nil => exact nomatch hv
  | cons a as =>
    obtain rfl := Option.some.inj hv
    have hlist := isReadBack_list h
    exact ⟨hlist.check, hlist.sorted, hlist.fits⟩

theorem members_single : (single key read v).members = [(key, v)] := rfl

theorem members_optional {write : α → Json} {a : Option α} :
    (optional key read write a).members = optionalMember key write a := by
  cases a <;> rfl

theorem members_list {write : α → Json} {as : List α} :
    (list key read write as).members = listMember key write as := by
  cases as <;> rfl

end Slot

section Fields

variable {m : Nat} (h : AreWritten ok n slots) (hextra : AreBeside slots unknown extra)
include h hextra

theorem defaulted_single {absent a : α} (hslot : Slot.single key read v ∈ slots)
    (hread : IsReadBack ok n read v a) : defaulted key read absent (drafts slots extra) = .ok a := by
  have hlookup := lookup_drafts h hextra hslot
  unfold defaulted
  rw [show (drafts slots extra).lookup key = some (Draft.ofJson v) from hlookup]
  exact hread.reads

theorem required_single {a : α} (hslot : Slot.single key read v ∈ slots)
    (hread : IsReadBack ok n read v a) : required key read (drafts slots extra) = .ok a := by
  have hlookup := lookup_drafts h hextra hslot
  unfold required
  rw [show (drafts slots extra).lookup key = some (Draft.ofJson v) from hlookup]
  exact hread.reads

theorem optionalField_optional {write : α → Json} {a : Option α}
    (hslot : Slot.optional key read write a ∈ slots) (hread : IsReadBackIfAny ok n read write a) :
    optionalField key read (drafts slots extra) = .ok a := by
  have hlookup : (drafts slots extra).lookup key = (a.map write).map Draft.ofJson :=
    lookup_drafts h hextra hslot
  unfold optionalField defaulted
  cases a with
  | none =>
    rw [hlookup]
    rfl
  | some b =>
    rw [hlookup]
    exact ((hread b rfl).2.optional (hread b rfl).1).reads

theorem defaulted_list {write : α → Json} {as : List α}
    (hslot : Slot.list key read write as ∈ slots)
    (hread : ∀ a ∈ as, IsReadBack ok m read (write a) a) :
    defaulted key (.list read) [] (drafts slots extra) = .ok as := by
  have hlookup : (drafts slots extra).lookup key = (listValue write as).map Draft.ofJson :=
    lookup_drafts h hextra hslot
  unfold defaulted
  cases as with
  | nil =>
    rw [hlookup]
    rfl
  | cons a as =>
    rw [hlookup]
    exact (isReadBack_list hread).reads

end Fields

/-! ## What has been read -/

/-- The members that a record does not know, as they are kept in it. -/
structure IsExtra (known : List String) (ok : Number → Prop) (n : Nat)
    (extra : List (String × Json)) : Prop where
  increasing : Increasing extra
  foreign : ∀ key ∈ keys extra, key ∉ known
  sorted : ∀ member ∈ extra, member.2.IsSorted
  fits : ∀ member ∈ extra, member.2.Fits ok n

theorem IsExtra.areBeside {known : List String} (h : IsExtra known ok n extra)
    (hknown : slots.map Slot.key = known) (hpass : ∀ v, unknown (Draft.ofJson v) = .ok ()) :
    AreBeside slots unknown extra :=
  ⟨h.increasing.nodup, hknown ▸ h.foreign, fun member _ => hpass member.2⟩

variable {members : List (String × Draft)}

theorem isExtra_of_extraMembers (hfits : ∀ member ∈ members, member.2.Fits ok n)
    (h : extraMembers schema members = .ok extra) : IsExtra (keys schema) ok n extra := by
  unfold extraMembers at h
  cases hvalues : Draft.valueMembers (unknownMembers schema members) with
  | error f => simp [hvalues] at h
  | ok values =>
    simp only [hvalues, Except.ok.injEq] at h
    subst h
    have hforall := Draft.valueMembers_eq_ok.1 hvalues
    have hmember : ∀ v ∈ sortMembers values, v.1 ∉ keys schema ∧ v.2.IsSorted ∧ v.2.Fits ok n := by
      intro v hv
      obtain ⟨d, hd, hkey, hvalue⟩ := exists_mem_of_forall₂ hforall (mem_of_mem_sortMembers hv)
      obtain ⟨hd, hnone⟩ := List.mem_filter.1 hd
      exact ⟨hkey ▸ lookup_eq_none_iff.1 (Option.isNone_iff_eq_none.1 hnone),
        (hfits d hd).value hvalue⟩
    refine ⟨increasing_sortMembers values, fun key hkey => ?_, fun v hv => (hmember v hv).2.1,
      fun v hv => (hmember v hv).2.2⟩
    obtain ⟨v, hv, rfl⟩ := List.mem_map.1 hkey
    exact (hmember v hv).1

theorem mem_keys_of_extraMembers (h : extraMembers schema members = .ok extra) :
    ∀ key ∈ keys extra, key ∈ keys members := by
  unfold extraMembers at h
  cases hvalues : Draft.valueMembers (unknownMembers schema members) with
  | error f => simp [hvalues] at h
  | ok values =>
    simp only [hvalues, Except.ok.injEq] at h
    subst h
    intro key hkey
    obtain ⟨v, hv, rfl⟩ := List.mem_map.1 hkey
    obtain ⟨d, hd, hkey, -⟩ := exists_mem_of_forall₂ (Draft.valueMembers_eq_ok.1 hvalues)
      (mem_of_mem_sortMembers hv)
    exact hkey ▸ List.mem_map_of_mem (List.mem_of_mem_filter hd)

theorem items_eq_ok {ds : List Draft} {as : List α} (h : Decoder.items read ds = .ok as) :
    List.Forall₂ (fun d a => read d = .ok a) ds as := by
  induction ds generalizing as with
  | nil =>
    obtain rfl := Except.ok.inj h
    exact .nil
  | cons d ds ih =>
    unfold Decoder.items at h
    cases hd : read d with
    | error e => simp [hd] at h
    | ok a =>
      cases hds : Decoder.items read ds with
      | error e => simp [hd, hds] at h
      | ok rest =>
        simp only [hd, hds, Except.ok.injEq] at h
        subst h
        exact .cons hd (ih hds)

theorem list_eq_ok {as : List α} (h : Decoder.list read d = .ok as) : ∃ ds ending,
    d = .array ds ending ∧ ending.fault = none ∧ Decoder.items read ds = .ok as := by
  cases d with
  | array ds ending =>
    unfold Decoder.list at h
    cases hitems : Decoder.items read ds with
    | error e => simp [hitems] at h
    | ok bs =>
      cases hending : ending.fault with
      | some f => simp [hitems, Ending.check, hending] at h
      | none =>
        simp only [hitems, Ending.check, hending, Except.ok.injEq] at h
        subst h
        exact ⟨ds, ending, rfl, hending, hitems⟩
  | _ => cases h

/-- What holds of every item that can be read holds of the items of a list that has been read. -/
theorem forall_of_defaulted_list {P : α → Prop} {as : List α}
    (hfits : ∀ member ∈ members, member.2.Fits ok (n + 1))
    (hread : ∀ d a, d.Fits ok n → read d = .ok a → P a)
    (h : defaulted key (.list read) [] members = .ok as) : ∀ a ∈ as, P a := by
  unfold defaulted at h
  cases hlookup : members.lookup key with
  | none =>
    simp only [hlookup, Except.ok.injEq] at h
    exact h ▸ nofun
  | some d =>
    simp only [hlookup] at h
    have hd := hfits _ (mem_of_lookup hlookup)
    obtain ⟨ds, ending, rfl, -, hitems⟩ := list_eq_ok h
    intro a ha
    obtain ⟨d, hmem, ha⟩ := exists_mem_of_forall₂ (items_eq_ok hitems) ha
    exact hread d a (hd.of_array d hmem) ha

theorem optional_eq_none (h : read.optional d = .ok none) : d = .null := by
  have hmap : (read d).map some ≠ .ok none := by
    cases read d <;> exact nofun
  cases d with
  | null => rfl
  | _ => exact absurd h hmap

theorem optional_eq_some {a : α} (h : read.optional d = .ok (some a)) :
    d ≠ .null ∧ read d = .ok a := by
  have hsome (h : (read d).map some = .ok (some a)) : read d = .ok a := by
    cases hread : read d with
    | error e => simp [hread, Except.map] at h
    | ok b => simpa [hread, Except.map] using h
  cases d with
  | null => exact nomatch h
  | _ => exact ⟨nofun, hsome h⟩

/-- A field that has a value was read from a member. -/
theorem exists_of_optionalField {a : α} (h : optionalField key read members = .ok (some a)) :
    ∃ d, (key, d) ∈ members ∧ d ≠ .null ∧ read d = .ok a := by
  unfold optionalField defaulted at h
  cases hlookup : members.lookup key with
  | none => simp [hlookup] at h
  | some d =>
    simp only [hlookup] at h
    exact ⟨d, mem_of_lookup hlookup, optional_eq_some h⟩

theorem value_ne_null (hd : d ≠ .null) : d.value ≠ .ok .null := by
  intro h
  cases d with
  | null => exact hd rfl
  | array items ending =>
    obtain ⟨-, values, -, hvalue⟩ := Draft.value_array_eq_ok h
    exact nomatch hvalue
  | object members ending =>
    obtain ⟨-, members, -, hvalue⟩ := Draft.value_object_eq_ok h
    exact nomatch hvalue
  | _ => exact nomatch h

theorem isKept_of_optionalField (hfits : ∀ member ∈ members, member.2.Fits ok n)
    (h : optionalField key .value members = .ok (some v)) : IsKept ok n v := by
  obtain ⟨d, hmem, hne, hread⟩ := exists_of_optionalField h
  have hvalue : d.value = .ok v := by
    unfold Decoder.value at hread
    cases hd : d.value with
    | error f => simp [hd] at hread
    | ok w => simpa [hd] using hread
  have hkept := (hfits _ hmem).value hvalue
  exact ⟨fun hnull => value_ne_null hne (hnull ▸ hvalue), hkept.1, hkept.2⟩

end EntityPipeline.Json
