-- A sorted value agrees with itself. So the snapshot that was written for a definition passes for
-- it, however its fields and relationships are compared.
import EntityPipeline.Definition.Difference
import EntityPipeline.Proofs.Json.Values

namespace EntityPipeline

theorem Number.same_refl (n : Number) : n.same n = true := by
  cases n with
  | int value => exact beq_self_eq_true value
  | real value => simp [Number.same, Binary64.same]

namespace Json

/-! ## Values -/

theorem same_refl (v : Json) : v.same v = true := by
  induction v using induction with
  | null => simp [same]
  | bool b => simp [same]
  | number n => simpa [same] using n.same_refl
  | string s => simp [same]
  | array items ih =>
    unfold same
    induction items with
    | nil => simp [sameItems]
    | cons item rest ih' =>
      obtain ⟨hitem, hrest⟩ := List.forall_mem_cons.1 ih
      simp [sameItems, hitem, ih' hrest]
  | object members ih =>
    unfold same
    induction members with
    | nil => simp [sameMembers]
    | cons member rest ih' =>
      obtain ⟨hmember, hrest⟩ := List.forall_mem_cons.1 ih
      simp [sameMembers, hmember, ih' hrest]

theorem sameOption_refl (v : Option Json) : sameOption v v = true := by
  cases v with
  | none => rfl
  | some v => exact v.same_refl

/-! ## Items and rules -/

/-- In a sorted object, every key finds the one member that it has. -/
theorem sameItem_refl {v : Json} (h : v.IsSorted) : sameItem v v = true := by
  cases v with
  | object members =>
    have hincreasing : Increasing members := (isSorted_object.1 h).1
    simp only [sameItem, beq_self_eq_true, Bool.true_and, List.all_eq_true]
    intro member hmem
    rw [lookup_eq_some hincreasing.nodup hmem]
    exact member.2.same_refl
  | _ => exact same_refl _

theorem all_zip_self {items : List Json} {p : Json × Json → Bool}
    (h : ∀ item ∈ items, p (item, item) = true) : (items.zip items).all p = true := by
  rw [List.zip_eq_zipWith, List.zipWith_self, List.all_map, List.all_eq_true]
  exact h

theorem samePairwise_refl {items : List Json} (h : ∀ item ∈ items, item.IsSorted) :
    samePairwise items items = true :=
  all_zip_self fun item hmem => sameItem_refl (h item hmem)

theorem sameRules_refl (name list : String) (v : Option Json) : sameRules name list v v = true := by
  unfold sameRules
  split
  · rw [beq_self_eq_true, Bool.true_and]
    exact all_zip_self fun item _ => by simp [sameOption_refl]
  · rfl

theorem sameSecurity_refl (v : Option Json) : sameSecurity v v = true := by
  cases v with
  | none => rfl
  | some v =>
    unfold sameSecurity
    dsimp only
    rw [sameOption_refl, Bool.true_and]
    split <;> exact sameRules_refl _ _ _

/-! ## Entities -/

theorem isSorted_arrayUnder {key : String} {members : List (String × Json)}
    (h : ∀ member ∈ members, member.2.IsSorted) :
    ∀ item ∈ arrayUnder key members, item.IsSorted := by
  unfold arrayUnder
  split
  · rename_i items hlookup
    exact isSorted_array.1 (h _ (mem_of_lookup hlookup))
  · exact List.forall_mem_nil _

/-- A sorted value agrees with itself. -/
theorem sameEntity_refl {v : Json} (h : v.IsSorted) : v.sameEntity v = true := by
  cases v with
  | object members =>
    have hpresent : ∀ member ∈ presentMembers members, member.2.IsSorted :=
      fun member hmem => (isSorted_object.1 h).2 member (List.mem_of_mem_filter hmem)
    simp [sameEntity, sameUnder, sameOptions, sameOption_refl, sameSecurity_refl,
      samePairwise_refl (isSorted_arrayUnder hpresent)]
  | _ => exact same_refl _

end Json

end EntityPipeline
