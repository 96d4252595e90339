-- Drafts of one value. Members of an object stand in the order in which the text gives them, but a
-- reader finds them by their keys. Where each key has one member, what is read of two drafts of one
-- value is the same; only which error is met first depends on the order.
import EntityPipeline.Proofs.Json.Memberwise
import EntityPipeline.Proofs.Json.Trees

namespace EntityPipeline.Json

variable {α β : Type} {key : String} {read : Decoder α} {schema : Schema} {unknown : Check}

/-! ## Results without their errors -/

theorem toOption_bind_congr {x x' : Except ReadError α} {f f' : α → Except ReadError β}
    (hx : x.toOption = x'.toOption) (hf : ∀ a, (f a).toOption = (f' a).toOption) :
    (x >>= f).toOption = (x' >>= f').toOption := by
  cases x with
  | error e =>
    cases x' with
    | error e' => rfl
    | ok a' => cases hx
  | ok a =>
    cases x' with
    | error e' => cases hx
    | ok a' =>
      obtain rfl := Option.some.inj hx
      exact hf a

theorem toOption_map (f : α → β) (x : Except ReadError α) :
    (x.map f).toOption = x.toOption.map f := by
  cases x <;> rfl

theorem toOption_eq_some {x : Except ReadError α} {a : α} : x.toOption = some a ↔ x = .ok a := by
  cases x <;> simp [Except.toOption]

theorem toOption_unit_eq {x y : Except ReadError Unit} (h : x = .ok () ↔ y = .ok ()) :
    x.toOption = y.toOption :=
  Option.ext fun () => toOption_eq_some.trans (h.trans toOption_eq_some.symm)

/-! ## Members by their keys -/

theorem forall_mem_iff_lookup {members : List (String × α)} (h : (keys members).Nodup)
    {P : String → α → Prop} :
    (∀ member ∈ members, P member.1 member.2) ↔ ∀ key a, members.lookup key = some a → P key a :=
  ⟨fun hall key a hlookup => hall (key, a) (mem_of_lookup hlookup),
    fun hall member hin => hall member.1 member.2 (lookup_eq_some h hin)⟩

namespace Draft

variable {d d' : Draft} {v : Json} {members members' : List (String × Draft)}
  {items items' : List Draft}

/-! ## What a value is the value of -/

/-- Under a key of the value stands the value of the member under that key. -/
theorem lookup_sorted_values {values : List (String × Json)} (hdistinct : (keys members).Nodup)
    (h : valueMembers members = .ok values) (key : String) :
    ((sortMembers values).lookup key).map Except.ok = (members.lookup key).map Draft.value := by
  have hvalues := map_value_of_forall₂ (valueMembers_eq_ok.1 h)
  have hkeys : keys values = keys members := by
    rw [← keys_map (Except.ok (ε := Fault)), ← hvalues, keys_map]
  rw [lookup_sortMembers (hkeys ▸ hdistinct), ← lookup_map_value, ← hvalues, lookup_map_value]

theorem exists_valueItems (h : ∀ item ∈ items, ∃ v, item.value = .ok v) :
    ∃ values, valueItems items = .ok values := by
  induction items with
  | nil => exact ⟨[], rfl⟩
  | cons item items ih =>
    obtain ⟨⟨v, hv⟩, hitems⟩ := List.forall_mem_cons.1 h
    obtain ⟨values, hvalues⟩ := ih hitems
    exact ⟨v :: values, by rw [valueItems, hv, hvalues]⟩

theorem exists_valueMembers (h : ∀ member ∈ members, ∃ v, member.2.value = .ok v) :
    ∃ values, valueMembers members = .ok values := by
  induction members with
  | nil => exact ⟨[], rfl⟩
  | cons member members ih =>
    obtain ⟨⟨v, hv⟩, hmembers⟩ := List.forall_mem_cons.1 h
    obtain ⟨values, hvalues⟩ := ih hmembers
    exact ⟨(member.1, v) :: values, by rw [valueMembers, hv, hvalues]⟩

theorem exists_of_value (h : d.value = .ok v) : match v with
    | .null => d = .null
    | .bool b => d = .bool b
    | .number x => d = .number x
    | .string s => d = .text s
    | .array values => ∃ items, d = .array items .closed ∧
        List.Forall₂ (fun item v => item.value = .ok v) items values
    | .object values => ∃ members given, d = .object members .closed ∧
        valueMembers members = .ok given ∧ values = sortMembers given := by
  cases d with
  | null | bool | number | text =>
    obtain rfl := Except.ok.inj h
    rfl
  | array items ending =>
    obtain ⟨hending, values, hvalues, rfl⟩ := value_array_eq_ok h
    cases ending with
    | closed => exact ⟨items, rfl, hvalues⟩
    | broken | unreadable => cases hending
  | object members ending =>
    obtain ⟨hending, given, hgiven, rfl⟩ := value_object_eq_ok h
    cases ending with
    | closed => exact ⟨members, given, rfl, valueMembers_eq_ok.2 hgiven, rfl⟩
    | broken | unreadable => cases hending
  | unreadable | broken => cases h

/-- What has a value can be skipped. -/
theorem hardFault_of_value (h : d.value = .ok v) : d.hardFault = none := by
  induction d using induction generalizing v with
  | null | bool | number | text => rfl
  | array items ending ih =>
    obtain ⟨hending, values, hvalues, -⟩ := value_array_eq_ok h
    have hitems : hardFaultItems items = none := Tree.hardFaultItems_eq_none.2 fun item hin => by
      obtain ⟨value, -, hvalue⟩ := exists_mem_of_forall₂ hvalues.flip hin
      exact ih item hin hvalue
    rw [hardFault, hitems]
    cases ending with
    | closed => rfl
    | broken | unreadable => cases hending
  | object members ending ih =>
    obtain ⟨hending, given, hgiven, -⟩ := value_object_eq_ok h
    have hmembers : hardFaultMembers members = none :=
      Tree.hardFaultMembers_eq_none.2 fun member hin => by
        obtain ⟨value, -, -, hvalue⟩ := exists_mem_of_forall₂ hgiven.flip hin
        exact ih member hin hvalue
    rw [hardFault, hmembers]
    cases ending with
    | closed => rfl
    | broken | unreadable => cases hending
  | unreadable | broken => cases h

/-! ## Two drafts of one value -/

/-- A draft whose objects have one member for each of their keys. -/
inductive HasDistinctKeys : Draft → Prop where
  | null : HasDistinctKeys .null
  | bool (b : Bool) : HasDistinctKeys (.bool b)
  | number (x : Number) : HasDistinctKeys (.number x)
  | text (s : String) : HasDistinctKeys (.text s)
  | array {items : List Draft} {ending : Ending} (h : ∀ item ∈ items, HasDistinctKeys item) :
    HasDistinctKeys (.array items ending)
  | object {members : List (String × Draft)} {ending : Ending} (hkeys : (keys members).Nodup)
    (h : ∀ member ∈ members, HasDistinctKeys member.2) : HasDistinctKeys (.object members ending)
  | unreadable (f : Option Fault) : HasDistinctKeys (.unreadable f)
  | broken (f : Fault) : HasDistinctKeys (.broken f)

/-- Two drafts of one value, which may give the members of their objects in another order. -/
structure Alike (d d' : Draft) : Prop where
  distinct : d.HasDistinctKeys
  distinct' : d'.HasDistinctKeys
  value : ∃ v, d.value = .ok v ∧ d'.value = .ok v

/-- Members with the same keys, alike under each of them. -/
structure MembersAlike (members members' : List (String × Draft)) : Prop where
  distinct : (keys members).Nodup
  distinct' : (keys members').Nodup
  lookup : ∀ key, Option.Rel Alike (members.lookup key) (members'.lookup key)

/-- How drafts that are alike are made of drafts that are. -/
inductive Alike.Shape : Draft → Draft → Prop where
  | same (d : Draft) : Shape d d
  | array {items items' : List Draft} (h : List.Forall₂ Alike items items') :
    Shape (.array items .closed) (.array items' .closed)
  | object {members members' : List (String × Draft)} (h : MembersAlike members members') :
    Shape (.object members .closed) (.object members' .closed)

theorem forall₂_alike {values : List Json} (h : ∀ item ∈ items, item.HasDistinctKeys)
    (h' : ∀ item ∈ items', item.HasDistinctKeys)
    (hvalues : List.Forall₂ (fun item v => item.value = .ok v) items values)
    (hvalues' : List.Forall₂ (fun item v => item.value = .ok v) items' values) :
    List.Forall₂ Alike items items' := by
  induction hvalues generalizing items' with
  | nil =>
    cases hvalues'
    exact .nil
  | cons hvalue _ ih =>
    cases hvalues' with
    | cons hvalue' hvalues' =>
      obtain ⟨hitem, hitems⟩ := List.forall_mem_cons.1 h
      obtain ⟨hitem', hitems'⟩ := List.forall_mem_cons.1 h'
      exact .cons ⟨hitem, hitem', _, hvalue, hvalue'⟩ (ih hitems hitems' hvalues')

theorem membersAlike {given given' : List (String × Json)}
    (h : (object members .closed).HasDistinctKeys) (h' : (object members' .closed).HasDistinctKeys)
    (hgiven : valueMembers members = .ok given) (hgiven' : valueMembers members' = .ok given')
    (hsame : sortMembers given = sortMembers given') : MembersAlike members members' := by
  cases h with
  | object hkeys hmembers =>
    cases h' with
    | object hkeys' hmembers' =>
      refine ⟨hkeys, hkeys', fun key => ?_⟩
      have hlookup := lookup_sorted_values hkeys hgiven key
      have hlookup' := lookup_sorted_values hkeys' hgiven' key
      rw [hsame, hlookup'] at hlookup
      cases hd : members.lookup key with
      | none =>
        cases hd' : members'.lookup key with
        | none => exact .none
        | some d' => simp [hd, hd'] at hlookup
      | some d =>
        cases hd' : members'.lookup key with
        | none => simp [hd, hd'] at hlookup
        | some d' =>
          obtain ⟨v, -, hv⟩ := Option.map_eq_some_iff.1 (hlookup'.trans (congrArg _ hd'))
          rw [hd, hd'] at hlookup
          exact .some ⟨hmembers _ (mem_of_lookup hd), hmembers' _ (mem_of_lookup hd'), v,
            (Option.some.inj hlookup).symm.trans hv.symm, hv.symm⟩

theorem Alike.shape (h : Alike d d') : Alike.Shape d d' := by
  obtain ⟨hd, hd', v, hv, hv'⟩ := h
  have hfrom := exists_of_value hv
  have hfrom' := exists_of_value hv'
  cases v with
  | null | bool | number | string =>
    have heq : d = d' := Eq.trans hfrom hfrom'.symm
    exact heq ▸ .same d
  | array values =>
    obtain ⟨items, rfl, hvalues⟩ := hfrom
    obtain ⟨items', rfl, hvalues'⟩ := hfrom'
    cases hd with
    | array h =>
      cases hd' with
      | array h' => exact .array (forall₂_alike h h' hvalues hvalues')
  | object values =>
    obtain ⟨members, given, rfl, hgiven, rfl⟩ := hfrom
    obtain ⟨members', given', rfl, hgiven', hsame⟩ := hfrom'
    exact .object (membersAlike hd hd' hgiven hgiven' hsame)

/-! ## Members that are alike -/

namespace MembersAlike

variable (h : MembersAlike members members')
include h

theorem filter (p : String → Bool) :
    MembersAlike (members.filter fun member => p member.1)
      (members'.filter fun member => p member.1) := by
  refine ⟨(List.filter_sublist.map Prod.fst).nodup h.distinct,
    (List.filter_sublist.map Prod.fst).nodup h.distinct', fun key => ?_⟩
  rw [lookup_filter, lookup_filter]
  split
  · exact h.lookup key
  · exact .none

theorem mem_keys : key ∈ keys members ↔ key ∈ keys members' := by
  have hkey := h.lookup key
  rw [← lookup_isSome, ← lookup_isSome]
  generalize members.lookup key = found, members'.lookup key = found' at hkey
  cases hkey <;> simp

theorem length_eq : members.length = members'.length := by
  have hperm : (keys members).Perm (keys members') :=
    (List.perm_ext_iff_of_nodup h.distinct h.distinct').2 fun _ => h.mem_keys
  simpa [keys] using hperm.length_eq

theorem exists_values_left : ∃ values, valueMembers members = .ok values := by
  refine exists_valueMembers ((forall_mem_iff_lookup h.distinct
    (P := fun _ d => ∃ v, d.value = .ok v)).2 fun key d hd => ?_)
  have hkey := h.lookup key
  rw [hd] at hkey
  generalize members'.lookup key = found at hkey
  cases hkey with
  | some halike => exact halike.value.imp fun _ => And.left

end MembersAlike

theorem MembersAlike.symm (h : MembersAlike members members') : MembersAlike members' members := by
  refine ⟨h.distinct', h.distinct, fun key => ?_⟩
  have hkey := h.lookup key
  generalize members.lookup key = found, members'.lookup key = found' at hkey
  cases hkey with
  | none => exact .none
  | some halike =>
    obtain ⟨v, hv, hv'⟩ := halike.value
    exact .some ⟨halike.distinct', halike.distinct, v, hv', hv⟩

/-- The values of members that are alike are the same in the order of their keys. -/
theorem MembersAlike.exists_values (h : MembersAlike members members') :
    ∃ values values', valueMembers members = .ok values ∧ valueMembers members' = .ok values' ∧
      sortMembers values = sortMembers values' := by
  obtain ⟨values, hvalues⟩ := h.exists_values_left
  obtain ⟨values', hvalues'⟩ := h.symm.exists_values_left
  refine ⟨values, values', hvalues, hvalues',
    (increasing_sortMembers _).ext (increasing_sortMembers _) fun key => ?_⟩
  have hkey := h.lookup key
  have hlookup := lookup_sorted_values h.distinct hvalues key
  have hlookup' := lookup_sorted_values h.distinct' hvalues' key
  refine Option.map_injective (fun _ _ => Except.ok.inj) (hlookup.trans (Eq.trans ?_ hlookup'.symm))
  generalize members.lookup key = found, members'.lookup key = found' at hkey
  cases hkey with
  | none => rfl
  | some halike =>
    obtain ⟨v, hv, hv'⟩ := halike.value
    exact congrArg some (hv.trans hv'.symm)

end Draft

/-! ## Decoders -/

/-- A property of decoders that holds of those for single values, and of those that are made of
others if it holds of them. -/
structure Decoder.Composes (P : ∀ {α : Type}, Decoder α → Prop) : Prop where
  text : P Decoder.text
  bool : P Decoder.bool
  value : P Decoder.value
  optional : ∀ {α : Type} {read : Decoder α}, P read → P read.optional
  list : ∀ {α : Type} {read : Decoder α}, P read → P (Decoder.list read)
  check : ∀ {α : Type} {read : Decoder α}, P read → P read.check

/-- What a decoder gives depends on the value of a draft, and not on the order of members in it. -/
def Decoder.SeesValue (read : Decoder α) : Prop :=
  ∀ d d', Draft.Alike d d' → (read d).toOption = (read d').toOption

namespace Decoder

theorem seesValue_text : Decoder.text.SeesValue := fun _ _ h => by cases h.shape <;> rfl

theorem seesValue_bool : Decoder.bool.SeesValue := fun _ _ h => by cases h.shape <;> rfl

theorem seesValue_unit : Decoder.unit.SeesValue := fun _ _ h => by cases h.shape <;> rfl

theorem seesValue_value : Decoder.value.SeesValue := by
  intro d d' h
  obtain ⟨v, hv, hv'⟩ := h.value
  unfold Decoder.value
  rw [hv, hv']

theorem SeesValue.optional (hread : read.SeesValue) : read.optional.SeesValue := by
  intro d d' h
  have hmap : ((read d).map some).toOption = ((read d').map some).toOption := by
    rw [toOption_map, toOption_map, hread d d' h]
  cases h.shape with
  | same d => rfl
  | array hitems => exact hmap
  | object hmembers => exact hmap

theorem SeesValue.check (hread : read.SeesValue) : Decoder.SeesValue read.check := by
  have hcheck (d : Draft) : (read.check d).toOption = (read d).toOption.map fun _ => () := by
    unfold Decoder.check
    cases read d <;> rfl
  intro d d' h
  rw [hcheck, hcheck, hread d d' h]

theorem SeesValue.items (hread : read.SeesValue) {ds ds' : List Draft}
    (h : List.Forall₂ Draft.Alike ds ds') :
    (Decoder.items read ds).toOption = (Decoder.items read ds').toOption := by
  have hitems (d : Draft) (ds : List Draft) : (Decoder.items read (d :: ds)).toOption =
      (read d).toOption.bind fun a => (Decoder.items read ds).toOption.map (a :: ·) := by
    rw [Decoder.items]
    cases read d with
    | error e => rfl
    | ok a => cases Decoder.items read ds <;> rfl
  induction h with
  | nil => rfl
  | cons halike _ ih => rw [hitems, hitems, hread _ _ halike, ih]

theorem SeesValue.list (hread : read.SeesValue) : (Decoder.list read).SeesValue := by
  intro d d' h
  cases h.shape with
  | same d => rfl
  | object hmembers => rfl
  | array hitems =>
    have hlist (ds : List Draft) :
        (Decoder.list read (.array ds .closed)).toOption = (Decoder.items read ds).toOption := by
      rw [Decoder.list]
      cases Decoder.items read ds <;> rfl
    rw [hlist, hlist, hread.items hitems]

theorem composes_seesValue : Composes SeesValue :=
  ⟨seesValue_text, seesValue_bool, seesValue_value, .optional, .list, .check⟩

theorem toOption_variantInText_of_two {variants : List (String × α)} {first second : String × Draft}
    {rest : List (String × Draft)} {ending : Ending} :
    (variantInText variants (.object (first :: second :: rest) ending)).toOption = none := by
  obtain ⟨name, d⟩ := first
  unfold variantInText
  dsimp only
  cases variantNamed variants name with
  | error e => rfl
  | ok a => cases unit d <;> rfl

/-- An object for a variant has one member, so it gives no order to see. -/
theorem seesValue_of_one {read : Decoder α}
    (hone : ∀ key d d', d.Alike d' → (read (.object [(key, d)] .closed)).toOption =
      (read (.object [(key, d')] .closed)).toOption)
    (hmore : ∀ first second rest,
      (read (.object (first :: second :: rest) .closed)).toOption = none)
    (harray : ∀ items, (read (.array items .closed)).toOption = none) : read.SeesValue := by
  intro d d' h
  cases h.shape with
  | same d => rfl
  | array hitems => rw [harray, harray]
  | @object members members' hmembers =>
    have hlength := hmembers.length_eq
    match members, members' with
    | [], [] => rfl
    | [(key, d)], [(key', d')] =>
      have hkey := hmembers.lookup key
      rw [List.lookup_cons_self] at hkey
      by_cases heq : key = key'
      · subst heq
        rw [List.lookup_cons_self] at hkey
        cases hkey with
        | some halike => exact hone key d d' halike
      · rw [lookup_cons_of_ne heq] at hkey
        cases hkey
    | _ :: _ :: _, _ :: _ :: _ => rw [hmore, hmore]
    | [], _ :: _ | _ :: _, [] => simp at hlength
    | [_], _ :: _ :: _ | _ :: _ :: _, [_] => simp at hlength

theorem seesValue_variant (variants : List (String × α)) : (variant variants).SeesValue := by
  refine seesValue_of_one (fun key d d' halike => ?_) (fun _ _ _ => rfl) fun _ => rfl
  unfold variant
  dsimp only
  cases variantNamed variants key with
  | error e => rfl
  | ok a => exact (toOption_map _ _).trans ((congrArg _ (seesValue_unit d d' halike)).trans
      (toOption_map _ _).symm)

theorem seesValue_variantInText (variants : List (String × α)) :
    (variantInText variants).SeesValue := by
  refine seesValue_of_one (fun key d d' halike => ?_) (fun _ _ _ => toOption_variantInText_of_two)
    fun _ => rfl
  have hunit := seesValue_unit d d' halike
  unfold variantInText
  dsimp only
  cases variantNamed variants key with
  | error e => rfl
  | ok a =>
    generalize unit d = result, unit d' = result' at hunit
    cases result <;> cases result' <;> first | rfl | cases hunit

end Decoder

theorem seesValue_skipUnknown : Decoder.SeesValue skipUnknown := by
  intro d d' h
  obtain ⟨v, hv, hv'⟩ := h.value
  unfold skipUnknown
  rw [Draft.hardFault_of_value hv, Draft.hardFault_of_value hv']

/-! ## Records -/

/-- Something holds of the check of every field. -/
def Schema.All (P : Check → Prop) (schema : Schema) : Prop := ∀ field ∈ schema, P field.2

theorem Schema.All.nil {P : Check → Prop} : Schema.All P [] := List.forall_mem_nil _

theorem Schema.All.cons {P : Check → Prop} {check : Check} (hcheck : P check)
    (h : schema.All P) : Schema.All P ((key, check) :: schema) :=
  List.forall_mem_cons.2 ⟨hcheck, h⟩

theorem Schema.All.check {P : Check → Prop} (h : schema.All P) (hunknown : P unknown)
    (key : String) : P ((schema.lookup key).getD unknown) := by
  cases hlookup : schema.lookup key with
  | none => exact hunknown
  | some check => exact h _ (mem_of_lookup hlookup)

/-- Members with different keys pass if each of them does. -/
theorem checkMembers_iff {members : List (String × Draft)} (h : (keys members).Nodup) :
    checkMembers schema unknown [] members = .ok () ↔ ∀ key d, members.lookup key = some d →
      (schema.lookup key).getD unknown d = .ok () := by
  rw [← forall_mem_iff_lookup h (P := fun key d => (schema.lookup key).getD unknown d = .ok ())]
  exact ⟨check_of_checkMembers, checkMembers_eq_ok h fun _ _ => List.not_mem_nil⟩

namespace Draft.MembersAlike

variable {members members' : List (String × Draft)} (h : MembersAlike members members')
include h

theorem defaulted (hread : read.SeesValue) (key : String) (absent : α) :
    (defaulted key read absent members).toOption =
      (defaulted key read absent members').toOption := by
  have hkey := h.lookup key
  unfold Json.defaulted
  generalize members.lookup key = found, members'.lookup key = found' at hkey
  cases hkey with
  | none => rfl
  | some halike => exact hread _ _ halike

theorem required (hread : read.SeesValue) (key : String) :
    (required key read members).toOption = (required key read members').toOption := by
  have hkey := h.lookup key
  unfold Json.required
  generalize members.lookup key = found, members'.lookup key = found' at hkey
  cases hkey with
  | none => rfl
  | some halike => exact hread _ _ halike

theorem optionalField (hread : read.SeesValue) (key : String) :
    (optionalField key read members).toOption = (optionalField key read members').toOption :=
  h.defaulted hread.optional key none

theorem checkMembers (hschema : schema.All Decoder.SeesValue)
    (hunknown : Decoder.SeesValue unknown) :
    (checkMembers schema unknown [] members).toOption =
      (checkMembers schema unknown [] members').toOption := by
  refine toOption_unit_eq ?_
  rw [checkMembers_iff h.distinct, checkMembers_iff h.distinct']
  refine forall_congr' fun key => ?_
  have hkey := h.lookup key
  generalize members.lookup key = found, members'.lookup key = found' at hkey
  cases hkey with
  | none => simp
  | some halike =>
    have hcheck := hschema.check hunknown key _ _ halike
    simp only [Option.some.injEq, forall_eq']
    rw [← toOption_eq_some, hcheck, toOption_eq_some]

theorem checkRecord (hschema : schema.All Decoder.SeesValue)
    (hunknown : Decoder.SeesValue unknown) :
    (checkRecord schema unknown members .closed).toOption =
      (checkRecord schema unknown members' .closed).toOption := by
  rw [checkRecord_closed, checkRecord_closed]
  exact h.checkMembers hschema hunknown

theorem unknownMembers (schema : Schema) :
    MembersAlike (unknownMembers schema members) (unknownMembers schema members') :=
  h.filter fun key => (schema.lookup key).isNone

/-- What a record keeps beside its fields is in the order of the keys. -/
theorem extraMembers (schema : Schema) :
    (extraMembers schema members).toOption = (extraMembers schema members').toOption := by
  obtain ⟨values, values', hvalues, hvalues', hsame⟩ := (h.unknownMembers schema).exists_values
  unfold Json.extraMembers
  rw [hvalues, hvalues']
  exact congrArg some hsame

end Draft.MembersAlike

/-! ## Decoders that take all of a draft -/

/-- What a decoder accepts has a value: nothing in it is only skipped. -/
def Decoder.TakesValue (read : Decoder α) : Prop := ∀ d a, read d = .ok a → ∃ v, d.value = .ok v

namespace Decoder

theorem takesValue_text : Decoder.text.TakesValue := by
  intro d a h
  cases d with
  | text s => exact ⟨_, rfl⟩
  | _ => cases h

theorem takesValue_bool : Decoder.bool.TakesValue := by
  intro d a h
  cases d with
  | bool b => exact ⟨_, rfl⟩
  | _ => cases h

theorem takesValue_value : Decoder.value.TakesValue := by
  intro d v h
  unfold Decoder.value at h
  split at h
  · exact ⟨_, ‹_›⟩
  · cases h

theorem TakesValue.optional (hread : read.TakesValue) : read.optional.TakesValue := by
  intro d a h
  cases a with
  | none =>
    obtain rfl := optional_eq_none h
    exact ⟨_, rfl⟩
  | some a => exact hread d a (optional_eq_some h).2

theorem TakesValue.check (hread : read.TakesValue) : Decoder.TakesValue read.check := by
  intro d a h
  unfold Decoder.check at h
  cases hd : read d with
  | error e => simp [hd] at h
  | ok a => exact hread d a hd

theorem TakesValue.list (hread : read.TakesValue) : (Decoder.list read).TakesValue := by
  intro d as h
  obtain ⟨ds, ending, rfl, hending, hitems⟩ := list_eq_ok h
  have hall : ∀ d ∈ ds, ∃ v, d.value = .ok v := fun d hin => by
    obtain ⟨a, -, ha⟩ := exists_mem_of_forall₂ (items_eq_ok hitems).flip hin
    exact hread d a ha
  obtain ⟨values, hvalues⟩ := Draft.exists_valueItems hall
  exact ⟨_, Draft.value_array_iff.2 ⟨hending, values, hvalues, rfl⟩⟩

theorem composes_takesValue : Composes TakesValue :=
  ⟨takesValue_text, takesValue_bool, takesValue_value, .optional, .list, .check⟩

theorem unit_eq_ok {d : Draft} (h : unit d = .ok ()) : d = .null := by
  cases d with
  | null => rfl
  | _ => cases h

theorem takesValue_variantInText (variants : List (String × α)) :
    (variantInText variants).TakesValue := by
  intro d a h
  cases d with
  | text s => exact ⟨_, rfl⟩
  | object members ending =>
    match members with
    | [] => cases h
    | (name, d) :: rest =>
      unfold variantInText at h
      dsimp only at h
      split at h
      · cases h
      · split at h
        · cases h
        · -- the only member is over null, and the object is closed behind it
          rename_i hunit
          obtain rfl := unit_eq_ok hunit
          split at h
          · rename_i hrest
            obtain rfl := List.isEmpty_iff.1 hrest
            cases hending : ending.fault with
            | some f => simp [Ending.check, hending, Except.map] at h
            | none => exact ⟨_, Draft.value_object_iff.2 ⟨hending, _, rfl, rfl⟩⟩
          · cases h
  | _ => cases h

end Decoder

variable {members : List (String × Draft)} {ending : Ending}

/-- A record that takes each of its members has a value. -/
theorem exists_value_of_checkRecord
    (hschema : schema.All Decoder.TakesValue) (hunknown : Decoder.TakesValue unknown)
    (h : checkRecord schema unknown members ending = .ok ()) :
    ∃ v, (Draft.object members ending).value = .ok v := by
  obtain ⟨hmembers, hending⟩ := checkRecord_eq_ok.1 h
  have hall : ∀ member ∈ members, ∃ v, member.2.value = .ok v := fun member hin =>
    hschema.check hunknown member.1 member.2 () (check_of_checkMembers hmembers member hin)
  obtain ⟨values, hvalues⟩ := Draft.exists_valueMembers hall
  exact ⟨_, Draft.value_object_iff.2 ⟨hending, values, hvalues, rfl⟩⟩

end EntityPipeline.Json
