-- Trees whose members change places. Where each key stands once in its object, the value of a tree
-- stays the same, and so does whether it has one.
import EntityPipeline.Proofs.Json.OneValue
import Mathlib.Data.List.Perm.Basic
import Mathlib.Logic.Relation

namespace EntityPipeline.Json.Tree

variable {t t' : Tree} {items : List Tree} {members : List (Option String × Tree)} {depth : Nat}
  {v : Json}

/-! ## Values of trees -/

theorem value_within {d : Draft} :
    (Draft.within depth d).value = .ok v ↔ depth < Draft.depthLimit ∧ d.value = .ok v := by
  unfold Draft.within
  split
  · rename_i h
    simp [h]
  · rename_i h
    simp [h, Draft.tooDeep, Draft.value]

theorem valueMembers_draftMembers {values : List (String × Json)} :
    ((draftMembers depth members).2.fault = none ∧
      Draft.valueMembers (draftMembers depth members).1 = .ok values) ↔
      List.Forall₂ (fun m v => m.1 = some v.1 ∧ (m.2.draft depth).value = .ok v.2)
        members values := by
  rw [Draft.valueMembers_eq_ok]
  induction members generalizing values with
  | nil => cases values <;> simp [draftMembers, Ending.fault]
  | cons member members ih =>
    obtain ⟨key, value⟩ := member
    cases key with
    | none => cases values <;> simp [draftMembers, Ending.fault]
    | some key =>
      cases values with
      | nil => simp [draftMembers]
      | cons first values =>
        rw [draftMembers, List.forall₂_cons, List.forall₂_cons, ← ih, Option.some.injEq]
        exact and_left_comm

/-- A tree has a value if its keys are texts, its items and members have values, and it does not
nest too deep. -/
theorem value_array : ((array items).draft depth).value = .ok v ↔
    depth < Draft.depthLimit ∧ ∃ values,
      List.Forall₂ (fun item v => (item.draft (depth + 1)).value = .ok v) items values ∧
      v = .array values := by
  rw [draft, value_within, Draft.value_array_iff, draftItems_eq_map]
  simp only [Draft.valueItems_eq_ok, List.forall₂_map_left_iff, Ending.fault, true_and]

theorem value_object : ((object members).draft depth).value = .ok v ↔
    depth < Draft.depthLimit ∧ ∃ values,
      List.Forall₂ (fun m v => m.1 = some v.1 ∧ (m.2.draft (depth + 1)).value = .ok v.2)
        members values ∧ v = .ofMembers values := by
  rw [draft, value_within, Draft.value_object_iff]
  simp only [← valueMembers_draftMembers, and_assoc, exists_and_left]

/-! ## Keys -/

/-- A tree whose objects have one member for each key that is a text. -/
inductive HasDistinctKeys : Tree → Prop where
  | null : HasDistinctKeys .null
  | bool (b : Bool) : HasDistinctKeys (.bool b)
  | number (x : Option Number) : HasDistinctKeys (.number x)
  | text (s : Option String) : HasDistinctKeys (.text s)
  | array {items : List Tree} (h : ∀ item ∈ items, HasDistinctKeys item) :
    HasDistinctKeys (.array items)
  | object {members : List (Option String × Tree)} (hkeys : (members.filterMap Prod.fst).Nodup)
    (h : ∀ member ∈ members, HasDistinctKeys member.2) : HasDistinctKeys (.object members)

theorem hasDistinctKeys_within {d : Draft} (h : d.HasDistinctKeys) :
    (Draft.within depth d).HasDistinctKeys := by
  unfold Draft.within
  split
  · exact h
  · exact .unreadable _

theorem keys_draftMembers_sublist :
    (keys (draftMembers depth members).1).Sublist (members.filterMap Prod.fst) := by
  induction members with
  | nil => exact List.Sublist.refl _
  | cons member members ih =>
    obtain ⟨key, value⟩ := member
    cases key with
    | none => exact List.nil_sublist _
    | some key => exact ih.cons_cons key

theorem mem_draftMembers {m : String × Draft} (h : m ∈ (draftMembers depth members).1) :
    ∃ member ∈ members, member.2.draft depth = m.2 := by
  induction members with
  | nil => cases h
  | cons member members ih =>
    obtain ⟨key, value⟩ := member
    cases key with
    | none => cases h
    | some key =>
      rcases List.mem_cons.1 h with rfl | h
      · exact ⟨_, List.mem_cons_self, rfl⟩
      · obtain ⟨member, hin, hdraft⟩ := ih h
        exact ⟨member, List.mem_cons_of_mem _ hin, hdraft⟩

theorem HasDistinctKeys.draft (h : t.HasDistinctKeys) (depth : Nat) :
    (t.draft depth).HasDistinctKeys := by
  induction h generalizing depth with
  | null => exact .null
  | bool b => exact .bool b
  | number x =>
    cases x with
    | none => exact .unreadable none
    | some x => exact .number x
  | text s =>
    cases s with
    | none => exact .unreadable none
    | some s => exact .text s
  | array _ ih =>
    rw [Tree.draft, draftItems_eq_map]
    exact hasDistinctKeys_within (.array (List.forall_mem_map.2 fun t ht => ih t ht _))
  | object hkeys _ ih =>
    rw [Tree.draft]
    refine hasDistinctKeys_within (.object (keys_draftMembers_sublist.nodup hkeys) fun m hm => ?_)
    obtain ⟨member, hin, hdraft⟩ := mem_draftMembers hm
    exact hdraft ▸ ih member hin _

/-! ## Members in another order -/

/-- The members of one object of a tree, at any depth, are put in another order. -/
inductive Moved : Tree → Tree → Prop where
  | members {members members' : List (Option String × Tree)} :
    members.Perm members' → Moved (.object members) (.object members')
  | item {before after : List Tree} {item item' : Tree} : Moved item item' →
    Moved (.array (before ++ item :: after)) (.array (before ++ item' :: after))
  | member {before after : List (Option String × Tree)} {key : Option String}
      {value value' : Tree} : Moved value value' →
    Moved (.object (before ++ (key, value) :: after)) (.object (before ++ (key, value') :: after))

theorem Moved.symm (h : Moved t t') : Moved t' t := by
  induction h with
  | members hperm => exact .members hperm.symm
  | item _ ih => exact .item ih
  | member _ ih => exact .member ih

instance : Std.Symm Moved := ⟨fun _ _ => Moved.symm⟩

theorem forall_mem_replace {α : Type} {P : α → Prop} {before after : List α} {a a' : α}
    (h : ∀ b ∈ before ++ a :: after, P b) (ha : P a → P a') : ∀ b ∈ before ++ a' :: after, P b := by
  rw [List.forall_mem_append, List.forall_mem_cons] at h ⊢
  exact ⟨h.1, ha h.2.1, h.2.2⟩

theorem Moved.hasDistinctKeys (h : Moved t t') (hdistinct : t.HasDistinctKeys) :
    t'.HasDistinctKeys := by
  induction h with
  | members hperm =>
    cases hdistinct with
    | object hkeys hmembers =>
      exact .object ((hperm.filterMap Prod.fst).nodup_iff.1 hkeys)
        fun m hm => hmembers m (hperm.mem_iff.2 hm)
  | item _ ih =>
    cases hdistinct with
    | array hitems => exact .array (forall_mem_replace hitems ih)
  | member _ ih =>
    cases hdistinct with
    | object hkeys hmembers =>
      refine .object ?_ (forall_mem_replace hmembers ih)
      simpa [List.filterMap_cons] using hkeys

theorem forall₂_replace {α β : Type} {r : α → β → Prop} {before after : List α} {a a' : α}
    {l : List β} (h : List.Forall₂ r (before ++ a :: after) l) (ha : ∀ b, r a b → r a' b) :
    List.Forall₂ r (before ++ a' :: after) l := by
  induction before generalizing l with
  | nil =>
    cases h with
    | cons hfirst hrest => exact .cons (ha _ hfirst) hrest
  | cons first before ih =>
    cases h with
    | cons hfirst hrest => exact .cons hfirst (ih hrest)

theorem keys_of_forall₂ {values : List (String × Json)}
    (h : List.Forall₂ (fun m v => m.1 = some v.1) members values) :
    members.filterMap Prod.fst = keys values := by
  induction h with
  | nil => rfl
  | cons hkey _ ih =>
    rw [List.filterMap_cons, hkey, ih]
    rfl

/-- Members with different keys come to the same object in any order. -/
theorem ofMembers_eq_of_perm {values values' : List (String × Json)} (h : (keys values).Nodup)
    (hperm : values.Perm values') : Json.ofMembers values = .ofMembers values' := by
  have hnodup : (keys values').Nodup := (hperm.map Prod.fst).nodup_iff.1 h
  rw [Json.ofMembers, Json.ofMembers, sortMembers_eq_of_perm (increasing_sortMembers values')
    (hperm.trans (perm_sortMembers hnodup).symm)]

/-- Moving members leaves the value as it is. -/
theorem Moved.value (h : Moved t t') (hdistinct : t.HasDistinctKeys)
    (hv : (t.draft depth).value = .ok v) : (t'.draft depth).value = .ok v := by
  induction h generalizing depth v with
  | members hperm =>
    obtain ⟨hdepth, values, hvalues, rfl⟩ := value_object.1 hv
    obtain ⟨values', hvalues', hsame⟩ := List.perm_comp_forall₂ hperm.symm hvalues
    cases hdistinct with
    | object hkeys hmembers =>
      rw [keys_of_forall₂ (hvalues.imp fun _ _ => And.left)] at hkeys
      exact value_object.2 ⟨hdepth, values', hvalues', ofMembers_eq_of_perm hkeys hsame.symm⟩
  | item _ ih =>
    obtain ⟨hdepth, values, hvalues, hv⟩ := value_array.1 hv
    cases hdistinct with
    | array hitems =>
      have hitem := hitems _ (List.mem_append_right _ List.mem_cons_self)
      exact value_array.2 ⟨hdepth, values, forall₂_replace hvalues fun _ => ih hitem, hv⟩
  | member _ ih =>
    obtain ⟨hdepth, values, hvalues, hv⟩ := value_object.1 hv
    cases hdistinct with
    | object hkeys hmembers =>
      have hvalue := hmembers _ (List.mem_append_right _ List.mem_cons_self)
      exact value_object.2 ⟨hdepth, values,
        forall₂_replace hvalues fun _ => And.imp_right (ih hvalue), hv⟩

end EntityPipeline.Json.Tree
