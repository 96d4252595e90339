-- Members and what was read from them. A field, a list and a variant are told by the member that
-- they were read from, and each lemma says for which spellings of that member it stands as it is
-- written again.
import EntityPipeline.Proofs.Definition.Likeness

namespace EntityPipeline.Json

variable {α : Type} {key : String} {read : Decoder α} {write : α → Json} {v w : Json}
  {found : Option Json} {members members' : List (String × Json)}
  {drafts : List (String × Draft)} {ending : Ending}
  {schema : Schema}

/-! ## Members and the fields that were read from them -/

/-- An optional field and the member that it was read from. -/
inductive IsGiven (read : Decoder α) : Option α → Option Json → Prop
  | absent : IsGiven read none none
  | null : IsGiven read none (some .null)
  | value {a : α} {v : Json} : v ≠ .null → IsTaken read a v → IsGiven read (some a) (some v)

/-- A list that may be left out and the member that it was read from. -/
inductive IsListed (read : Decoder α) : List α → Option Json → Prop
  | absent : IsListed read [] none
  | items {as : List α} {items : List Json} : List.Forall₂ (IsTaken read) as items →
      IsListed read as (some (.array items))

theorem isGiven_of_optionalField {a : Option α} (h : optionalField key read drafts = .ok a)
    (hvalue : (v.get? key).map Except.ok = (drafts.lookup key).map Draft.value) :
    IsGiven read a (v.get? key) := by
  unfold optionalField defaulted at h
  cases hlookup : drafts.lookup key with
  | none =>
    simp only [hlookup, Except.ok.injEq] at h
    have hnone : v.get? key = none := by simpa [hlookup] using hvalue
    rw [hnone, ← h]
    exact .absent
  | some d =>
    simp only [hlookup] at h
    obtain ⟨w, hw, hd⟩ := Option.map_eq_some_iff.1 (hlookup ▸ hvalue)
    rw [hw]
    cases a with
    | none =>
      obtain rfl := optional_eq_none h
      obtain rfl := Except.ok.inj hd
      exact .null
    | some a =>
      obtain ⟨hne, hread⟩ := optional_eq_some h
      exact .value (fun hnull => value_ne_null hne (hnull ▸ hd.symm)) ⟨d, hread, hd.symm⟩

theorem isListed_of_defaulted {as : List α} (h : defaulted key (.list read) [] drafts = .ok as)
    (hvalue : (v.get? key).map Except.ok = (drafts.lookup key).map Draft.value) :
    IsListed read as (v.get? key) := by
  unfold defaulted at h
  cases hlookup : drafts.lookup key with
  | none =>
    simp only [hlookup, Except.ok.injEq] at h
    have hnone : v.get? key = none := by simpa [hlookup] using hvalue
    rw [hnone, ← h]
    exact .absent
  | some d =>
    simp only [hlookup] at h
    obtain ⟨w, hw, hd⟩ := Option.map_eq_some_iff.1 (hlookup ▸ hvalue)
    obtain ⟨ds, ending, rfl, -, hitems⟩ := list_eq_ok h
    obtain ⟨-, values, hvalues, rfl⟩ := Draft.value_array_eq_ok hd.symm
    rw [hw]
    exact .items (forall₂_of_left (items_eq_ok hitems) hvalues)

theorem exists_isTaken_of_required {a : α} (h : required key read drafts = .ok a)
    (hvalue : (v.get? key).map Except.ok = (drafts.lookup key).map Draft.value) :
    ∃ w, v.get? key = some w ∧ IsTaken read a w := by
  unfold required at h
  cases hlookup : drafts.lookup key with
  | none => simp [hlookup] at h
  | some d =>
    simp only [hlookup] at h
    obtain ⟨w, hw, hd⟩ := Option.map_eq_some_iff.1 (hlookup ▸ hvalue)
    exact ⟨w, hw, d, h, hd.symm⟩

/-- A field of a decoder that refuses null was not read from it. -/
theorem get?_ne_null_of_defaulted {absent a : α} (h : defaulted key read absent drafts = .ok a)
    (hvalue : (v.get? key).map Except.ok = (drafts.lookup key).map Draft.value)
    (hread : ∀ a, read .null ≠ .ok a) : v.get? key ≠ some .null := by
  intro hnull
  unfold defaulted at h
  rw [hnull] at hvalue
  obtain ⟨d, hd, hdraft⟩ := Option.map_eq_some_iff.1 hvalue.symm
  simp only [hd] at h
  by_cases hne : d = .null
  · exact hread a (hne ▸ h)
  · exact value_ne_null hne hdraft

/-- What a decoder reads has one spelling. -/
def IsPlainSpelling (read : Decoder α) (write : α → Json) : Prop :=
  ∀ a v, IsTaken read a v → v = write a

theorem isPlainSpelling_text : IsPlainSpelling .text .string := by
  rintro a v ⟨d, hread, hvalue⟩
  cases d with
  | text s =>
    obtain rfl := Except.ok.inj hread
    exact (Except.ok.inj hvalue).symm
  | _ => cases hread

theorem isPlainSpelling_bool : IsPlainSpelling .bool .bool := by
  rintro a v ⟨d, hread, hvalue⟩
  cases d with
  | bool b =>
    obtain rfl := Except.ok.inj hread
    exact (Except.ok.inj hvalue).symm
  | _ => cases hread

theorem isPlainSpelling_value : IsPlainSpelling .value (fun v => v) := by
  rintro a v ⟨d, hread, hvalue⟩
  unfold Decoder.value at hread
  rw [hvalue] at hread
  exact Except.ok.inj hread

/-- A field that must be there and has one spelling stands as it is written. -/
theorem stands_iff_of_required {a : α} (h : required key read drafts = .ok a)
    (hvalue : (v.get? key).map Except.ok = (drafts.lookup key).map Draft.value)
    (hread : IsPlainSpelling read write) (hnull : write a ≠ .null) :
    (v.get? key).map unsigned = (some (write a)).map unsigned ↔ v.get? key ≠ some .null := by
  obtain ⟨w, hw, htaken⟩ := exists_isTaken_of_required h hvalue
  obtain rfl := hread a w htaken
  rw [hw]
  simpa using hnull

/-- An optional field with one spelling stands as it is written unless it is given as null. -/
theorem IsGiven.stands_iff {a : Option α} (h : IsGiven read a found)
    (hread : IsPlainSpelling read write) :
    found.map unsigned = (a.map write).map unsigned ↔ found ≠ some .null := by
  cases h with
  | absent => simp
  | null => simp
  | value hne htaken =>
    obtain rfl := hread _ _ htaken
    simpa using hne

theorem eq_map_of_isPlainSpelling {as : List α} {items : List Json}
    (h : List.Forall₂ (IsTaken read) as items) (hread : IsPlainSpelling read write) :
    items = as.map write := by
  rw [← List.forall₂_eq_eq_eq, List.forall₂_map_right_iff]
  exact h.flip.imp fun v a htaken => hread a v htaken

theorem IsGiven.bind_text? {a : Option String} (h : IsGiven .text a found) :
    (a.map string).bind text? = found.bind text? := by
  cases h with
  | absent => rfl
  | null => rfl
  | value _ htaken =>
    obtain rfl := isPlainSpelling_text _ _ htaken
    rfl

/-- A list whose items have one spelling stands as it is written unless it is given without items. -/
theorem IsListed.stands_iff {as : List α} (h : IsListed read as found)
    (hread : IsPlainSpelling read write) :
    found.map unsigned = (listValue write as).map unsigned ↔ found ≠ some (.array []) := by
  cases h with
  | absent => simp [listValue]
  | items hitems =>
    obtain rfl := eq_map_of_isPlainSpelling hitems hread
    cases as <;> simp [listValue]

/-- A list that is always written stands as it is written if it is given. -/
theorem IsListed.stands_iff_given {as : List α} (h : IsListed read as found)
    (hread : IsPlainSpelling read write) :
    found.map unsigned = (some (array (as.map write))).map unsigned ↔ found ≠ none := by
  cases h with
  | absent => simp
  | items hitems =>
    obtain rfl := eq_map_of_isPlainSpelling hitems hread
    simp

/-! ## Variants -/

/-- What a variant may be read from: its name, or an object. -/
inductive IsVariant (variants : List (String × α)) (a : α) : Json → Prop
  | word {word : String} : variants.lookup word = some a → IsVariant variants a (.string word)
  | object {members : List (String × Json)} : IsVariant variants a (.object members)

theorem variantNamed_eq_ok {variants : List (String × α)} {word : String} {a : α}
    (h : Decoder.variantNamed variants word = .ok a) : variants.lookup word = some a := by
  unfold Decoder.variantNamed at h
  split at h
  · obtain rfl := Except.ok.inj h
    assumption
  · cases h

theorem isVariant_of_variant {variants : List (String × α)} {a : α}
    (h : IsTaken (.variant variants) a v) : IsVariant variants a v := by
  obtain ⟨d, hread, hvalue⟩ := h
  cases d with
  | text s =>
    obtain rfl := Except.ok.inj hvalue
    exact .word (variantNamed_eq_ok hread)
  | object drafts ending =>
    obtain ⟨-, members, -, rfl⟩ := Draft.value_object_eq_ok hvalue
    exact .object
  | _ => cases hread

theorem isVariant_of_variantInText {variants : List (String × α)} {a : α}
    (h : IsTaken (.variantInText variants) a v) : IsVariant variants a v := by
  obtain ⟨d, hread, hvalue⟩ := h
  cases d with
  | text s =>
    obtain rfl := Except.ok.inj hvalue
    exact .word (variantNamed_eq_ok hread)
  | object drafts ending =>
    obtain ⟨-, members, -, rfl⟩ := Draft.value_object_eq_ok hvalue
    exact .object
  | _ => cases hread

/-- A variant stands as it is written if it is given as a word. -/
theorem IsVariant.stands_iff {variants : List (String × α)} {a : α} {name : α → String}
    (h : IsVariant variants a v) (hname : ∀ variant ∈ variants, variant.1 = name variant.2) :
    v.unsigned = .string (name a) ↔ ∃ word, v = .string word := by
  cases h with
  | @word word hlookup =>
    have hword : word = name a := hname _ (mem_of_lookup hlookup)
    exact iff_of_true (congrArg Json.string hword) ⟨_, rfl⟩
  | object => simp [unsigned]

/-! ## Where null counts as absent -/

/-- What stands under a key, as long as it is not null. -/
def present (found : Option Json) : Option Json := found.filter fun v => !v.isNull

/-- A field that may be null or absent is there if its member is. -/
theorem IsGiven.isSome_present (h : IsGiven read a found) :
    (present found).isSome = a.isSome := by
  cases h with
  | absent => rfl
  | null => rfl
  | @value a v hne _ =>
    have hnull : v.isNull = false := by cases v <;> first | rfl | exact absurd rfl hne
    simp [present, hnull]

theorem present_of_ne {v : Json} (h : v ≠ .null) : present (some v) = some v := by
  cases v with
  | null => exact absurd rfl h
  | _ => rfl

/-- Where null counts as absent, a field with one spelling stands as it is written. -/
theorem IsGiven.present_eq (h : IsGiven read a found) (hread : IsPlainSpelling read write) :
    present found = a.map write := by
  cases h with
  | absent => rfl
  | null => rfl
  | value hne htaken =>
    obtain rfl := hread _ _ htaken
    exact present_of_ne hne

/-- Where null counts as absent, a variant stands as it is written unless it is given in an
object. -/
theorem IsGiven.present_variant_iff {variants : List (String × α)} {name : α → String}
    (h : IsGiven (.variant variants) a found)
    (hname : ∀ variant ∈ variants, variant.1 = name variant.2) :
    (present found).map unsigned = a.map (.string <| name ·) ↔
      ((found.getD .null).members?) = none := by
  cases h with
  | absent => simp [present, members?]
  | null => simp [present, members?, isNull]
  | value hne htaken =>
    cases isVariant_of_variant htaken with
    | word hlookup =>
      have hword := hname _ (mem_of_lookup hlookup)
      exact iff_of_true (congrArg (some <| string ·) hword) rfl
    | object => simp [present, members?, isNull, unsigned]

/-! ## Lists and records -/

/-- Two lists have the same images if these are the same at every place. -/
theorem map_eq_map_iff_of_forall₂ {β γ : Type} {f : β → γ} {g : α → γ} {P : β → Prop}
    {as : List α} {bs : List β} (h : List.Forall₂ (fun a b => f b = g a ↔ P b) as bs) :
    bs.map f = as.map g ↔ ∀ b ∈ bs, P b := by
  induction h with
  | nil => simp
  | cons hhead _ ih => rw [List.map_cons, List.map_cons, List.cons.injEq, hhead, ih,
      List.forall_mem_cons]

/-- Sorted members are the same if every key finds the same. -/
theorem unsigned_object_inj (h : Increasing members) (h' : Increasing members') :
    (object members).unsigned = (object members').unsigned ↔
      ∀ key, (members.lookup key).map unsigned = (members'.lookup key).map unsigned := by
  rw [unsigned_object, unsigned_object, Json.object.injEq]
  refine ⟨fun heq key => ?_, fun hlookup => ?_⟩
  · rw [← lookup_map_value, ← lookup_map_value, heq]
  · refine ((increasing_map_iff unsigned).2 h).ext ((increasing_map_iff unsigned).2 h') fun key => ?_
    rw [lookup_map_value, lookup_map_value, hlookup]

/-- A sorted object that has the unknown members of a record is what is written for the record if
its known members are. -/
theorem unsigned_eq_written_iff {slots : List Slot} {extra : List (String × Json)} {unknown : Check}
    (hv : v.IsSorted) (hobject : ∃ members, v = .object members)
    (hextra : AreBeside slots unknown extra) (hnodup : (slots.map Slot.key).Nodup)
    (hunknown : ∀ key ∉ slots.map Slot.key,
      v.get? key = (ofMembers (writtenOf slots ++ extra)).get? key) :
    v.unsigned = (ofMembers (writtenOf slots ++ extra)).unsigned ↔
      ∀ slot ∈ slots, (v.get? slot.key).map unsigned = slot.value.map unsigned := by
  obtain ⟨members, rfl⟩ := hobject
  have hslot (slot : Slot) (hmem : slot ∈ slots) :
      (sortMembers (writtenOf slots ++ extra)).lookup slot.key = slot.value :=
    get?_written_slot hextra hnodup slot hmem
  rw [ofMembers, unsigned_object_inj (isSorted_object.1 hv).1 (increasing_sortMembers _)]
  refine ⟨fun hlookup slot hmem => hslot slot hmem ▸ hlookup slot.key, fun hlookup key => ?_⟩
  by_cases hkey : key ∈ slots.map Slot.key
  · obtain ⟨slot, hmem, rfl⟩ := List.mem_map.1 hkey
    rw [hslot slot hmem]
    exact hlookup slot hmem
  · exact congrArg _ (hunknown key hkey)

/-- A known member of a record is what its field was read from. -/
theorem get?_of_checkRecord {unknown : Check} (h : checkRecord schema unknown drafts ending = .ok ())
    (hvalue : (Draft.object drafts ending).value = .ok v) {key : String}
    (hkey : key ∈ keys schema) :
    (v.get? key).map Except.ok = (drafts.lookup key).map Draft.value :=
  (get?_value hvalue).trans (lastValue_of_known (checkRecord_eq_ok.1 h).1 hkey)

theorem isSorted_itemsUnder {key : String} (h : v.IsSorted) :
    ∀ item ∈ itemsUnder key v, item.IsSorted := by
  intro item hmem
  unfold itemsUnder under at hmem
  cases hfound : v.get? key with
  | none => simp [hfound, items?] at hmem
  | some w =>
    cases v with
    | object members =>
      cases w with
      | array items =>
        rw [hfound] at hmem
        exact isSorted_array.1 ((isSorted_object.1 h).2 _ (mem_of_lookup hfound)) item hmem
      | _ => simp [hfound, items?] at hmem
    | _ => cases hfound

end EntityPipeline.Json
