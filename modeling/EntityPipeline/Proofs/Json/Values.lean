-- Values and drafts. The value of a draft is sorted, a draft made of a value has that value, and a
-- value nests no deeper than the draft it was taken from.
import EntityPipeline.Json.Draft
import EntityPipeline.Proofs.Json.Members
import Mathlib.Data.List.Forall2

namespace EntityPipeline.Json

variable {ok : Number → Prop} {n m : Nat} {v : Json} {items : List Json}
  {members : List (String × Json)}

/-- What holds of the items and members of each container and of all other values holds of every
value. -/
@[elab_as_elim]
theorem induction {P : Json → Prop} (null : P .null) (bool : ∀ b, P (.bool b))
    (number : ∀ x, P (.number x)) (string : ∀ s, P (.string s))
    (array : ∀ items, (∀ item ∈ items, P item) → P (.array items))
    (object : ∀ members, (∀ member ∈ members, P member.2) → P (.object members)) (v : Json) : P v :=
  @Json.rec P (fun items => ∀ item ∈ items, P item)
    (fun members => ∀ member ∈ members, P member.2) (fun member => P member.2)
    null bool number string array object
    nofun (fun _ _ hitem hrest => List.forall_mem_cons.2 ⟨hitem, hrest⟩)
    nofun (fun _ _ hmember hrest => List.forall_mem_cons.2 ⟨hmember, hrest⟩)
    (fun _ _ hvalue => hvalue) v

/-! ## Sorted values -/

theorem sortedItems_eq_map (items : List Json) : sortedItems items = items.map sorted := by
  induction items with
  | nil => rfl
  | cons item rest ih => rw [sortedItems, ih, List.map_cons]

theorem sortedMembers_eq_map (members : List (String × Json)) :
    sortedMembers members = members.map fun member => (member.1, sorted member.2) := by
  induction members with
  | nil => rfl
  | cons member rest ih => rw [sortedMembers, ih, List.map_cons]

theorem map_eq_self_iff {γ : Type} {f : γ → γ} {l : List γ} :
    l.map f = l ↔ ∀ a ∈ l, f a = a := by
  conv_lhs => rw [← List.map_id l, List.map_map]
  exact List.map_inj_left

theorem exists_mem_of_forall₂ {γ δ : Type} {r : γ → δ → Prop} {l : List γ} {l' : List δ} {b : δ}
    (h : List.Forall₂ r l l') (hb : b ∈ l') : ∃ a ∈ l, r a b := by
  induction h with
  | nil => exact nomatch hb
  | cons hr _ ih =>
    rcases List.mem_cons.1 hb with rfl | hb
    · exact ⟨_, List.mem_cons_self .., hr⟩
    · obtain ⟨a, ha, hr⟩ := ih hb
      exact ⟨a, List.mem_cons_of_mem _ ha, hr⟩

/-- A value that sorting leaves as it is. -/
def IsSorted (v : Json) : Prop := v.sorted = v

theorem isSorted_array : (array items).IsSorted ↔ ∀ item ∈ items, item.IsSorted := by
  unfold IsSorted
  rw [sorted, sortedItems_eq_map, Json.array.injEq, map_eq_self_iff]

theorem isSorted_object :
    (object members).IsSorted ↔ Increasing members ∧ ∀ member ∈ members, member.2.IsSorted := by
  have hmap : (members.map fun member => (member.1, sorted member.2)) = members ↔
      ∀ member ∈ members, member.2.IsSorted := by
    rw [map_eq_self_iff]
    exact forall₂_congr fun member _ => Prod.mk.injEq .. ▸ and_iff_right rfl
  unfold IsSorted at *
  rw [sorted, sortedMembers_eq_map, Json.object.injEq]
  constructor
  · intro h
    have hincreasing : Increasing members := h ▸ increasing_sortMembers _
    rw [sortMembers_eq_self ((increasing_map_iff sorted).2 hincreasing)] at h
    exact ⟨hincreasing, hmap.1 h⟩
  · rintro ⟨hincreasing, hmembers⟩
    rw [hmap.2 hmembers, sortMembers_eq_self hincreasing]

theorem isSorted_ofMembers (h : ∀ member ∈ members, member.2.IsSorted) :
    (ofMembers members).IsSorted :=
  isSorted_object.2 ⟨increasing_sortMembers members, fun _ hmem => h _ (mem_of_mem_sortMembers hmem)⟩

theorem isSorted_sorted (v : Json) : v.sorted.IsSorted := by
  induction v using induction with
  | null => rfl
  | bool => rfl
  | number => rfl
  | string => rfl
  | array items ih =>
    rw [sorted, sortedItems_eq_map]
    exact isSorted_array.2 (List.forall_mem_map.2 ih)
  | object members ih =>
    rw [sorted, sortedMembers_eq_map]
    exact isSorted_ofMembers (List.forall_mem_map.2 ih)

/-! ## Nesting -/

/-- A value whose containers nest at most `n` deep and whose numbers are all `ok`. -/
inductive Fits (ok : Number → Prop) : Nat → Json → Prop where
  | null {n : Nat} : Fits ok n .null
  | bool {n : Nat} (b : Bool) : Fits ok n (.bool b)
  | number {n : Nat} {x : Number} (h : ok x) : Fits ok n (.number x)
  | string {n : Nat} (s : String) : Fits ok n (.string s)
  | array {n : Nat} {items : List Json} (h : ∀ item ∈ items, Fits ok n item) :
    Fits ok (n + 1) (.array items)
  | object {n : Nat} {members : List (String × Json)} (h : ∀ member ∈ members, Fits ok n member.2) :
    Fits ok (n + 1) (.object members)

theorem Fits.mono (h : v.Fits ok n) (hle : n ≤ m) : v.Fits ok m := by
  induction h generalizing m with
  | null => exact .null
  | bool b => exact .bool b
  | number h => exact .number h
  | string s => exact .string s
  | array _ ih =>
    obtain ⟨m, rfl⟩ := Nat.exists_eq_add_of_le' (Nat.le_of_add_left_le hle)
    exact .array fun item hmem => ih item hmem (by omega)
  | object _ ih =>
    obtain ⟨m, rfl⟩ := Nat.exists_eq_add_of_le' (Nat.le_of_add_left_le hle)
    exact .object fun member hmem => ih member hmem (by omega)

theorem Fits.of_object (h : (Json.object members).Fits ok (n + 1)) :
    ∀ member ∈ members, member.2.Fits ok n := by
  cases h with
  | object h => exact h

theorem fits_ofMembers (h : ∀ member ∈ members, member.2.Fits ok n) :
    (ofMembers members).Fits ok (n + 1) :=
  .object fun _ hmem => h _ (mem_of_mem_sortMembers hmem)

mutual

/-- How deep the containers of a value nest. -/
def nesting : Json → Nat
  | .array items => itemsNesting items + 1
  | .object members => membersNesting members + 1
  | _ => 0

/-- How deep the containers in a list of values nest. -/
def itemsNesting : List Json → Nat
  | [] => 0
  | item :: rest => max (nesting item) (itemsNesting rest)

/-- How deep the containers in a list of members nest. -/
def membersNesting : List (String × Json) → Nat
  | [] => 0
  | (_, value) :: rest => max (nesting value) (membersNesting rest)

end

mutual

/-- The numbers in a value. -/
def numbers : Json → List Number
  | .number x => [x]
  | .array items => itemsNumbers items
  | .object members => membersNumbers members
  | _ => []

/-- The numbers in a list of values. -/
def itemsNumbers : List Json → List Number
  | [] => []
  | item :: rest => numbers item ++ itemsNumbers rest

/-- The numbers in a list of members. -/
def membersNumbers : List (String × Json) → List Number
  | [] => []
  | (_, value) :: rest => numbers value ++ membersNumbers rest

end

theorem itemsNesting_le : itemsNesting items ≤ n ↔ ∀ item ∈ items, item.nesting ≤ n := by
  induction items with
  | nil => simp [itemsNesting]
  | cons item rest ih => rw [itemsNesting, max_le_iff, ih, List.forall_mem_cons]

theorem membersNesting_le : membersNesting members ≤ n ↔
    ∀ member ∈ members, member.2.nesting ≤ n := by
  induction members with
  | nil => simp [membersNesting]
  | cons member rest ih => rw [membersNesting, max_le_iff, ih, List.forall_mem_cons]

theorem forall_mem_itemsNumbers : (∀ x ∈ itemsNumbers items, ok x) ↔
    ∀ item ∈ items, ∀ x ∈ item.numbers, ok x := by
  induction items with
  | nil => simp [itemsNumbers]
  | cons item rest ih => rw [itemsNumbers, List.forall_mem_append, ih, List.forall_mem_cons]

theorem forall_mem_membersNumbers : (∀ x ∈ membersNumbers members, ok x) ↔
    ∀ member ∈ members, ∀ x ∈ member.2.numbers, ok x := by
  induction members with
  | nil => simp [membersNumbers]
  | cons member rest ih => rw [membersNumbers, List.forall_mem_append, ih, List.forall_mem_cons]

/-- What fits is told by how deep it nests and by its numbers. -/
theorem fits_iff : v.Fits ok n ↔ v.nesting ≤ n ∧ ∀ x ∈ v.numbers, ok x := by
  constructor
  · intro h
    induction h with
    | number hx => exact ⟨Nat.zero_le _, List.forall_mem_singleton.2 hx⟩
    | array _ ih =>
      exact ⟨Nat.succ_le_succ (itemsNesting_le.2 fun item hmem => (ih item hmem).1),
        forall_mem_itemsNumbers.2 fun item hmem => (ih item hmem).2⟩
    | object _ ih =>
      exact ⟨Nat.succ_le_succ (membersNesting_le.2 fun member hmem => (ih member hmem).1),
        forall_mem_membersNumbers.2 fun member hmem => (ih member hmem).2⟩
    | _ => exact ⟨Nat.zero_le _, List.forall_mem_nil _⟩
  · rintro ⟨hnesting, hnumbers⟩
    induction v using induction generalizing n with
    | null => exact .null
    | bool b => exact .bool b
    | number x => exact .number (hnumbers x (List.mem_singleton_self x))
    | string s => exact .string s
    | array items ih =>
      obtain ⟨n, rfl⟩ := Nat.exists_eq_add_of_le' ((Nat.le_add_left 1 _).trans hnesting)
      exact .array fun item hmem => ih item hmem
        (itemsNesting_le.1 (Nat.le_of_succ_le_succ hnesting) item hmem)
        (forall_mem_itemsNumbers.1 hnumbers item hmem)
    | object members ih =>
      obtain ⟨n, rfl⟩ := Nat.exists_eq_add_of_le' ((Nat.le_add_left 1 _).trans hnesting)
      exact .object fun member hmem => ih member hmem
        (membersNesting_le.1 (Nat.le_of_succ_le_succ hnesting) member hmem)
        (forall_mem_membersNumbers.1 hnumbers member hmem)

theorem Fits.imp {ok' : Number → Prop} (h : v.Fits ok n) (himp : ∀ x, ok x → ok' x) :
    v.Fits ok' n :=
  fits_iff.2 ⟨(fits_iff.1 h).1, fun x hx => himp x ((fits_iff.1 h).2 x hx)⟩

theorem fits_nesting (v : Json) : v.Fits (fun _ => True) v.nesting :=
  fits_iff.2 ⟨le_rfl, fun _ _ => trivial⟩

namespace Draft

variable {d : Draft} {values : List Json} {drafts : List Draft}
  {draftMembers : List (String × Draft)}

/-! ## Drafts -/

/-- What holds of the items and members of each container and of all other drafts holds of every
draft. -/
@[elab_as_elim]
theorem induction {P : Draft → Prop} (null : P .null) (bool : ∀ b, P (.bool b))
    (number : ∀ x, P (.number x)) (text : ∀ s, P (.text s))
    (array : ∀ items ending, (∀ item ∈ items, P item) → P (.array items ending))
    (object : ∀ members ending, (∀ member ∈ members, P member.2) → P (.object members ending))
    (unreadable : ∀ f, P (.unreadable f)) (broken : ∀ f, P (.broken f)) (d : Draft) : P d :=
  @Draft.rec P (fun items => ∀ item ∈ items, P item)
    (fun members => ∀ member ∈ members, P member.2) (fun member => P member.2)
    null bool number text array object unreadable broken
    nofun (fun _ _ hitem hrest => List.forall_mem_cons.2 ⟨hitem, hrest⟩)
    nofun (fun _ _ hmember hrest => List.forall_mem_cons.2 ⟨hmember, hrest⟩)
    (fun _ _ hvalue => hvalue) d

theorem ofItems_eq_map (items : List Json) : ofItems items = items.map ofJson := by
  induction items with
  | nil => rfl
  | cons item rest ih => rw [ofItems, ih, List.map_cons]

theorem ofMembers_eq_map (members : List (String × Json)) :
    ofMembers members = members.map fun member => (member.1, ofJson member.2) := by
  induction members with
  | nil => rfl
  | cons member rest ih => rw [ofMembers, ih, List.map_cons]

theorem valueItems_eq_ok :
    valueItems drafts = .ok values ↔ List.Forall₂ (fun d v => d.value = .ok v) drafts values := by
  induction drafts generalizing values with
  | nil => cases values <;> simp [valueItems]
  | cons d rest ih =>
    unfold valueItems
    cases hd : d.value with
    | error f => cases values <;> simp [hd]
    | ok v =>
      cases hrest : valueItems rest with
      | error f =>
        cases values with
        | nil => simp
        | cons w values => simp [hd, ← ih, hrest]
      | ok vs => cases values with
        | nil => simp
        | cons w values => simp [hd, ← ih, hrest]

theorem valueMembers_eq_ok :
    valueMembers draftMembers = .ok members ↔
      List.Forall₂ (fun d v => d.1 = v.1 ∧ d.2.value = .ok v.2) draftMembers members := by
  induction draftMembers generalizing members with
  | nil => cases members <;> simp [valueMembers]
  | cons d rest ih =>
    obtain ⟨key, d⟩ := d
    unfold valueMembers
    cases hd : d.value with
    | error f => cases members <;> simp [hd]
    | ok v =>
      cases hrest : valueMembers rest with
      | error f =>
        cases members with
        | nil => simp
        | cons w members => simp [hd, ← ih, hrest]
      | ok vs =>
        cases members with
        | nil => simp
        | cons w members =>
          obtain ⟨key', w⟩ := w
          simp [hd, ← ih, hrest, and_assoc]

theorem map_value_of_forall₂
    (h : List.Forall₂ (fun d v => d.1 = v.1 ∧ d.2.value = .ok v.2) draftMembers members) :
    draftMembers.map (fun member => (member.1, member.2.value)) =
      members.map fun member => (member.1, Except.ok member.2) := by
  rw [← List.forall₂_eq_eq_eq, List.forall₂_map_left_iff, List.forall₂_map_right_iff]
  exact h.imp fun _ _ hmember => Prod.ext hmember.1 hmember.2

/-- A draft made of a value has the value, sorted. -/
theorem value_ofJson (v : Json) : (ofJson v).value = .ok v.sorted := by
  induction v using Json.induction with
  | null => rfl
  | bool => rfl
  | number => rfl
  | string => rfl
  | array items ih =>
    have hitems : valueItems (ofItems items) = .ok (sortedItems items) := by
      rw [valueItems_eq_ok, ofItems_eq_map, sortedItems_eq_map, List.forall₂_map_left_iff,
        List.forall₂_map_right_iff, List.forall₂_same]
      exact ih
    rw [ofJson, value, hitems]
    rfl
  | object members ih =>
    have hmembers : valueMembers (ofMembers members) = .ok (sortedMembers members) := by
      rw [valueMembers_eq_ok, ofMembers_eq_map, sortedMembers_eq_map, List.forall₂_map_left_iff,
        List.forall₂_map_right_iff, List.forall₂_same]
      exact fun member hmem => ⟨rfl, ih member hmem⟩
    rw [ofJson, value, hmembers]
    rfl

theorem value_array_iff {ending : Ending} : (array drafts ending).value = .ok v ↔
    ending.fault = none ∧ ∃ values, valueItems drafts = .ok values ∧ v = .array values := by
  rw [value]
  cases valueItems drafts with
  | error f => simp
  | ok values => cases ending.fault <;> simp [eq_comm]

theorem value_object_iff {ending : Ending} : (object draftMembers ending).value = .ok v ↔
    ending.fault = none ∧ ∃ values, valueMembers draftMembers = .ok values ∧
      v = .ofMembers values := by
  rw [value]
  cases valueMembers draftMembers with
  | error f => simp
  | ok values => cases ending.fault <;> simp [eq_comm]

theorem value_array_eq_ok {ending : Ending} (h : (array drafts ending).value = .ok v) :
    ending.fault = none ∧ ∃ values,
      List.Forall₂ (fun d v => d.value = .ok v) drafts values ∧ v = .array values := by
  obtain ⟨hending, values, hvalues, hv⟩ := value_array_iff.1 h
  exact ⟨hending, values, valueItems_eq_ok.1 hvalues, hv⟩

theorem value_object_eq_ok {ending : Ending} (h : (object draftMembers ending).value = .ok v) :
    ending.fault = none ∧ ∃ members,
      List.Forall₂ (fun d v => d.1 = v.1 ∧ d.2.value = .ok v.2) draftMembers members ∧
        v = .ofMembers members := by
  obtain ⟨hending, values, hvalues, hv⟩ := value_object_iff.1 h
  exact ⟨hending, values, valueMembers_eq_ok.1 hvalues, hv⟩

/-- A draft whose containers nest at most `n` deep and whose numbers are all `ok`, as far as it can
be taken. -/
inductive Fits (ok : Number → Prop) : Nat → Draft → Prop where
  | null {n : Nat} : Fits ok n .null
  | bool {n : Nat} (b : Bool) : Fits ok n (.bool b)
  | number {n : Nat} {x : Number} (h : ok x) : Fits ok n (.number x)
  | text {n : Nat} (s : String) : Fits ok n (.text s)
  | array {n : Nat} {items : List Draft} {ending : Ending} (h : ∀ item ∈ items, Fits ok n item) :
    Fits ok (n + 1) (.array items ending)
  | object {n : Nat} {members : List (String × Draft)} {ending : Ending}
    (h : ∀ member ∈ members, Fits ok n member.2) : Fits ok (n + 1) (.object members ending)
  | unreadable {n : Nat} (f : Option Fault) : Fits ok n (.unreadable f)
  | broken {n : Nat} (f : Fault) : Fits ok n (.broken f)

theorem Fits.of_array {ending : Ending} (h : (Draft.array drafts ending).Fits ok (n + 1)) :
    ∀ d ∈ drafts, d.Fits ok n := by
  cases h
  assumption

theorem Fits.of_object {ending : Ending} (h : (Draft.object draftMembers ending).Fits ok (n + 1)) :
    ∀ member ∈ draftMembers, member.2.Fits ok n := by
  cases h
  assumption

theorem fits_ofJson (h : v.Fits ok n) : (ofJson v).Fits ok n := by
  induction h with
  | null => exact .null
  | bool b => exact .bool b
  | number h => exact .number h
  | string s => exact .text s
  | array _ ih =>
    rw [ofJson, ofItems_eq_map]
    exact .array (List.forall_mem_map.2 ih)
  | object _ ih =>
    rw [ofJson, ofMembers_eq_map]
    exact .object (List.forall_mem_map.2 ih)

/-- The value of a draft is sorted and nests no deeper. -/
theorem Fits.value (hfits : d.Fits ok n) (h : d.value = .ok v) : v.IsSorted ∧ v.Fits ok n := by
  induction hfits generalizing v with
  | null =>
    obtain rfl := Except.ok.inj h
    exact ⟨rfl, .null⟩
  | bool b =>
    obtain rfl := Except.ok.inj h
    exact ⟨rfl, .bool b⟩
  | number hx =>
    obtain rfl := Except.ok.inj h
    exact ⟨rfl, .number hx⟩
  | text s =>
    obtain rfl := Except.ok.inj h
    exact ⟨rfl, .string s⟩
  | array _ ih =>
    obtain ⟨-, values, hvalues, rfl⟩ := value_array_eq_ok h
    have hall : ∀ v ∈ values, v.IsSorted ∧ v.Fits ok _ := fun v hv => by
      obtain ⟨d, hd, hvalue⟩ := exists_mem_of_forall₂ hvalues hv
      exact ih d hd hvalue
    exact ⟨isSorted_array.2 fun v hv => (hall v hv).1, .array fun v hv => (hall v hv).2⟩
  | object _ ih =>
    obtain ⟨-, members, hmembers, rfl⟩ := value_object_eq_ok h
    have hall : ∀ v ∈ members, v.2.IsSorted ∧ v.2.Fits ok _ := fun v hv => by
      obtain ⟨d, hd, -, hvalue⟩ := exists_mem_of_forall₂ hmembers hv
      exact ih d hd hvalue
    exact ⟨isSorted_ofMembers fun v hv => (hall v hv).1, fits_ofMembers fun v hv => (hall v hv).2⟩
  | unreadable f => exact nomatch h
  | broken f => exact nomatch h

end Draft

end EntityPipeline.Json
