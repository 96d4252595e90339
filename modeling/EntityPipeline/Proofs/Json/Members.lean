-- Members in the order of their keys. Sorting puts members of different keys into increasing order
-- and changes nothing else; members in increasing order are told by what they contain.
import EntityPipeline.Json.Value
import Mathlib.Data.List.Nodup
import Mathlib.Data.List.Sort
import Mathlib.Data.String.Basic

namespace EntityPipeline.Json

variable {α β : Type} {key : String} {value : α} {members members' : List (String × α)}

/-- The keys of members. -/
def keys (members : List (String × α)) : List String := members.map Prod.fst

/-- Members whose keys increase strictly. -/
def Increasing (members : List (String × α)) : Prop :=
  members.Pairwise fun first second => first.1 < second.1

theorem increasing_iff_keys : Increasing members ↔ (keys members).Pairwise (· < ·) :=
  List.pairwise_map.symm

theorem Increasing.nodup (h : Increasing members) : (keys members).Nodup :=
  (increasing_iff_keys.1 h).imp fun hlt => hlt.ne

theorem keys_map (f : α → β) :
    keys (members.map fun member => (member.1, f member.2)) = keys members := by
  rw [keys, keys, List.map_map]
  rfl

theorem keys_append : keys (members ++ members') = keys members ++ keys members' :=
  List.map_append

theorem increasing_map_iff (f : α → β) :
    Increasing (members.map fun member => (member.1, f member.2)) ↔ Increasing members := by
  rw [increasing_iff_keys, keys_map, increasing_iff_keys]

/-! ## Sorting -/

theorem mem_of_mem_insertMember {member : String × α}
    (h : member ∈ insertMember key value members) : member = (key, value) ∨ member ∈ members := by
  induction members with
  | nil => exact Or.inl (List.mem_singleton.1 h)
  | cons first rest ih =>
    unfold insertMember at h
    split at h
    · exact List.mem_cons.1 h
    · split at h
      · rcases List.mem_cons.1 h with h | h
        · exact Or.inl h
        · exact Or.inr (List.mem_cons_of_mem _ h)
      · rcases List.mem_cons.1 h with h | h
        · exact Or.inr (List.mem_cons.2 (Or.inl h))
        · exact (ih h).imp_right (List.mem_cons_of_mem _)

theorem Increasing.insertMember (h : Increasing members) :
    Increasing (insertMember key value members) := by
  induction members with
  | nil => exact List.pairwise_singleton _ _
  | cons first rest ih =>
    obtain ⟨hfirst, hrest⟩ := List.pairwise_cons.1 h
    unfold Json.insertMember
    split
    · rename_i hlt
      refine List.pairwise_cons.2 ⟨fun member hmem => ?_, h⟩
      rcases List.mem_cons.1 hmem with rfl | hmem
      · exact hlt
      · exact hlt.trans (hfirst member hmem)
    · rename_i hlt
      split
      · rename_i heq
        obtain rfl := beq_iff_eq.1 heq
        exact List.pairwise_cons.2 ⟨hfirst, hrest⟩
      · rename_i hne
        refine List.pairwise_cons.2 ⟨fun member hmem => ?_, ih hrest⟩
        rcases mem_of_mem_insertMember hmem with rfl | hmem
        · exact lt_of_le_of_ne (not_lt.1 hlt) (Ne.symm (by simpa using hne))
        · exact hfirst member hmem

theorem perm_insertMember (h : key ∉ keys members) :
    (insertMember key value members).Perm ((key, value) :: members) := by
  induction members with
  | nil => exact List.Perm.refl _
  | cons first rest ih =>
    obtain ⟨hne, hrest⟩ := not_or.1 (mt List.mem_cons.2 h)
    unfold insertMember
    split
    · exact List.Perm.refl _
    · rw [if_neg (by simpa using hne)]
      exact ((ih hrest).cons first).trans (List.Perm.swap _ _ _)

theorem mem_of_mem_overlay {member : String × α} (h : member ∈ overlay members members') :
    member ∈ members ∨ member ∈ members' := by
  induction members' generalizing members with
  | nil => exact Or.inl h
  | cons first rest ih =>
    rcases ih h with h | h
    · rcases mem_of_mem_insertMember h with rfl | h
      · exact Or.inr (List.mem_cons_self ..)
      · exact Or.inl h
    · exact Or.inr (List.mem_cons_of_mem _ h)

theorem overlay_nil (members : List (String × α)) : overlay members [] = members := rfl

theorem Increasing.overlay (h : Increasing members) (layer : List (String × α)) :
    Increasing (overlay members layer) := by
  induction layer generalizing members with
  | nil => exact h
  | cons first rest ih => exact ih h.insertMember

theorem mem_of_mem_sortMembers {member : String × α} (h : member ∈ sortMembers members) :
    member ∈ members := by
  have hover : member ∈ [] ∨ member ∈ members := mem_of_mem_overlay h
  exact hover.resolve_left List.not_mem_nil

theorem increasing_sortMembers (members : List (String × α)) : Increasing (sortMembers members) :=
  have hnil : Increasing ([] : List (String × α)) := List.Pairwise.nil
  hnil.overlay members

/-- Members of different keys are only rearranged. -/
theorem perm_sortMembers (h : (keys members).Nodup) : (sortMembers members).Perm members := by
  have hfold (sorted : List (String × α)) (h : (keys (members ++ sorted)).Nodup) :
      (members.foldl (fun sorted m => insertMember m.1 m.2 sorted) sorted).Perm
        (members ++ sorted) := by
    clear * - h
    induction members generalizing sorted with
    | nil => exact List.Perm.refl _
    | cons first rest ih =>
      obtain ⟨hfirst, hrest⟩ := List.nodup_cons.1 h
      have hkey : first.1 ∉ keys sorted := by
        intro hmem
        obtain ⟨member, hmember, heq⟩ := List.mem_map.1 hmem
        exact hfirst (heq ▸ List.mem_map_of_mem (List.mem_append_right rest hmember))
      have hperm : (rest ++ insertMember first.1 first.2 sorted).Perm
          (first :: (rest ++ sorted)) :=
        ((perm_insertMember hkey).append_left rest).trans List.perm_middle
      have hnodup : (keys (rest ++ insertMember first.1 first.2 sorted)).Nodup :=
        (hperm.map Prod.fst).nodup_iff.2 h
      exact (ih _ hnodup).trans hperm
  have hperm := hfold [] (by rwa [List.append_nil])
  rwa [List.append_nil] at hperm

/-- Two increasing lists with the same members are the same list. -/
theorem Increasing.eq_of_perm (h : Increasing members) (h' : Increasing members')
    (hperm : members.Perm members') : members = members' :=
  hperm.eq_of_pairwise (fun _ _ _ _ hlt hlt' => absurd hlt' hlt.asymm) h h'

theorem sortMembers_eq_of_perm (h : Increasing members) (hperm : members'.Perm members) :
    sortMembers members' = members := by
  have hnodup : (keys members').Nodup := (hperm.map Prod.fst).nodup_iff.2 h.nodup
  exact (increasing_sortMembers members').eq_of_perm h ((perm_sortMembers hnodup).trans hperm)

theorem sortMembers_eq_self (h : Increasing members) : sortMembers members = members :=
  sortMembers_eq_of_perm h (List.Perm.refl _)

theorem filter_sortMembers (p : String → Bool) (h : (keys members).Nodup) :
    (sortMembers members).filter (fun member => p member.1) =
      sortMembers (members.filter fun member => p member.1) :=
  (sortMembers_eq_of_perm ((increasing_sortMembers members).filter _)
    ((perm_sortMembers h).symm.filter _)).symm

/-! ## Looking up -/

theorem mem_of_lookup (h : members.lookup key = some value) : (key, value) ∈ members := by
  obtain ⟨before, after, rfl, -⟩ := List.lookup_eq_some_iff.1 h
  simp

theorem lookup_eq_some (hnodup : (keys members).Nodup) (h : (key, value) ∈ members) :
    members.lookup key = some value := by
  obtain ⟨before, after, rfl⟩ := List.append_of_mem h
  refine List.lookup_eq_some_iff.2 ⟨before, after, rfl, fun member hmem => ?_⟩
  rw [keys_append, List.nodup_append] at hnodup
  simpa using (hnodup.2.2 member.1 (List.mem_map_of_mem hmem) key (List.mem_cons_self ..)).symm

theorem lookup_eq_of_perm (hnodup : (keys members).Nodup) (hperm : members'.Perm members) :
    members'.lookup key = members.lookup key := by
  have hnodup' : (keys members').Nodup := (hperm.map Prod.fst).nodup_iff.2 hnodup
  exact Option.ext fun value =>
    ⟨fun h => lookup_eq_some hnodup (hperm.subset (mem_of_lookup h)),
      fun h => lookup_eq_some hnodup' (hperm.symm.subset (mem_of_lookup h))⟩

theorem lookup_sortMembers (h : (keys members).Nodup) :
    (sortMembers members).lookup key = members.lookup key :=
  lookup_eq_of_perm h (perm_sortMembers h)

theorem lookup_map_value (f : α → β) :
    (members.map fun member => (member.1, f member.2)).lookup key =
      (members.lookup key).map f := by
  induction members with
  | nil => rfl
  | cons first rest ih =>
    rw [List.map_cons, List.lookup_cons, List.lookup_cons]
    cases key == first.1 with
    | true => rfl
    | false => exact ih

theorem lookup_isSome : (members.lookup key).isSome = true ↔ key ∈ keys members := by
  rw [List.lookup_isSome_iff, keys, List.mem_map]
  exact exists_congr fun _ => and_congr_right fun _ => beq_iff_eq.trans eq_comm

theorem lookup_eq_none_iff : members.lookup key = none ↔ key ∉ keys members := by
  rw [← lookup_isSome, Option.isSome_iff_ne_none, not_not]

theorem lookup_cons_of_ne {member : String × α} (h : key ≠ member.1) :
    (member :: members).lookup key = members.lookup key := by
  rw [List.lookup_cons, beq_eq_false_iff_ne.2 h]

theorem lookup_insertMember (other : String) :
    (insertMember key value members).lookup other =
      if other = key then some value else members.lookup other := by
  by_cases h : other = key
  · subst h
    rw [if_pos rfl]
    induction members with
    | nil => exact List.lookup_cons_self
    | cons first rest ih =>
      unfold insertMember
      split
      · exact List.lookup_cons_self
      · split
        · exact List.lookup_cons_self
        · rename_i hne
          rwa [lookup_cons_of_ne (by simpa using hne)]
  · rw [if_neg h]
    induction members with
    | nil => exact lookup_cons_of_ne h
    | cons first rest ih =>
      unfold insertMember
      split
      · exact lookup_cons_of_ne h
      · split
        · rename_i heq
          rw [lookup_cons_of_ne h, lookup_cons_of_ne (beq_iff_eq.1 heq ▸ h)]
        · rw [List.lookup_cons, List.lookup_cons, ih]

/-- Of members laid over others, a key finds its value in the upper ones first. -/
theorem lookup_overlay (h : (keys members').Nodup) :
    (overlay members members').lookup key = (members'.lookup key).or (members.lookup key) := by
  induction members' generalizing members with
  | nil => rfl
  | cons first rest ih =>
    obtain ⟨hfirst, hrest⟩ := List.nodup_cons.1 h
    have hstep : overlay members (first :: rest) =
        overlay (insertMember first.1 first.2 members) rest := rfl
    rw [hstep, ih hrest, lookup_insertMember, List.lookup_cons]
    by_cases hkey : key = first.1
    · subst hkey
      have hnone : rest.lookup first.1 = none := lookup_eq_none_iff.2 hfirst
      simp [hnone]
    · rw [if_neg hkey, beq_eq_false_iff_ne.2 hkey]

/-- Increasing members are told by what their keys find. -/
theorem Increasing.ext (h : Increasing members) (h' : Increasing members')
    (hlookup : ∀ key, members.lookup key = members'.lookup key) : members = members' := by
  refine h.eq_of_perm h' ?_
  refine (List.perm_ext_iff_of_nodup h.nodup.of_map h'.nodup.of_map).2 fun member => ?_
  constructor
  · exact fun hmem => mem_of_lookup (hlookup _ ▸ lookup_eq_some h.nodup hmem)
  · exact fun hmem => mem_of_lookup (hlookup _ ▸ lookup_eq_some h'.nodup hmem)

end EntityPipeline.Json
