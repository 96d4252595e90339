-- Values that are the same. Two values are the same exactly if they are equal once every zero has
-- lost its sign. So sameness is an equivalence, lists, members and optional values are compared by
-- comparing what is left of them, and what is sorted or nests to some depth still does without signs.
import EntityPipeline.Proofs.Json.Values
import Mathlib.Data.List.Induction

namespace EntityPipeline

/-- The number, a zero without its sign. -/
def Number.unsigned : Number → Number
  | .int n => .int n
  | .real x => .real (if x.isZero then .zero false else x)

theorem Number.same_iff {a b : Number} : a.same b = true ↔ a.unsigned = b.unsigned := by
  cases a with
  | int a => cases b <;> simp [same, unsigned]
  | real x =>
    cases b with
    | int b => simp [same, unsigned]
    | real y =>
      have hzero : (Binary64.zero false).isZero = true := rfl
      simp only [same, unsigned, Binary64.same, Bool.or_eq_true, Bool.and_eq_true, beq_iff_eq,
        Number.real.injEq]
      by_cases hx : x.isZero = true <;> by_cases hy : y.isZero = true
      · simp [hx, hy]
      · rw [if_pos hx, if_neg hy]
        refine ⟨?_, fun h => absurd (h ▸ hzero) hy⟩
        rintro (rfl | ⟨-, h⟩)
        · exact absurd hx hy
        · exact absurd h hy
      · rw [if_neg hx, if_pos hy]
        refine ⟨?_, fun h => absurd (h ▸ hzero) hx⟩
        rintro (rfl | ⟨h, -⟩)
        · exact absurd hy hx
        · exact absurd h hx
      · rw [if_neg hx, if_neg hy]
        exact or_iff_left fun h => hx h.1

namespace Json

variable {u v w : Json} {items items' : List Json} {members members' : List (String × Json)}

mutual

/-- The value, every zero without its sign. -/
def unsigned : Json → Json
  | .number n => .number n.unsigned
  | .array items => .array (unsignedItems items)
  | .object members => .object (unsignedMembers members)
  | other => other

/-- The items of an array, zeros without their signs. -/
def unsignedItems : List Json → List Json
  | [] => []
  | item :: rest => unsigned item :: unsignedItems rest

/-- The members of an object, zeros without their signs. -/
def unsignedMembers : List (String × Json) → List (String × Json)
  | [] => []
  | (key, value) :: rest => (key, unsigned value) :: unsignedMembers rest

end

theorem unsignedItems_eq_map (items : List Json) : unsignedItems items = items.map unsigned := by
  induction items with
  | nil => rfl
  | cons item rest ih => rw [unsignedItems, ih, List.map_cons]

theorem unsignedMembers_eq_map (members : List (String × Json)) :
    unsignedMembers members = members.map fun member => (member.1, unsigned member.2) := by
  induction members with
  | nil => rfl
  | cons member rest ih => rw [unsignedMembers, ih, List.map_cons]

theorem unsigned_array : (array items).unsigned = .array (items.map unsigned) := by
  rw [unsigned, unsignedItems_eq_map]

theorem unsigned_object :
    (object members).unsigned =
      .object (members.map fun member => (member.1, unsigned member.2)) := by
  rw [unsigned, unsignedMembers_eq_map]

/-! ## Comparing -/

theorem sameItems_iff_of_forall (h : ∀ item ∈ items, ∀ w : Json,
    item.same w = true ↔ item.unsigned = w.unsigned) :
    sameItems items items' = true ↔ items.map unsigned = items'.map unsigned := by
  induction items generalizing items' with
  | nil => cases items' <;> simp [sameItems]
  | cons item rest ih =>
    obtain ⟨hitem, hrest⟩ := List.forall_mem_cons.1 h
    cases items' with
    | nil => simp [sameItems]
    | cons item' rest' => simp [sameItems, hitem, ih hrest]

theorem sameMembers_iff_of_forall (h : ∀ member ∈ members, ∀ w : Json,
    member.2.same w = true ↔ member.2.unsigned = w.unsigned) :
    sameMembers members members' = true ↔
      (members.map fun member => (member.1, unsigned member.2)) =
        members'.map fun member => (member.1, unsigned member.2) := by
  induction members generalizing members' with
  | nil => cases members' <;> simp [sameMembers]
  | cons member rest ih =>
    obtain ⟨hmember, hrest⟩ := List.forall_mem_cons.1 h
    cases members' with
    | nil => simp [sameMembers]
    | cons member' rest' => simp [sameMembers, hmember, ih hrest]

/-- Values are the same if nothing but the signs of zeros tells them apart. -/
theorem same_iff : v.same w = true ↔ v.unsigned = w.unsigned := by
  induction v using induction generalizing w with
  | null => cases w <;> simp [same, unsigned]
  | bool b => cases w <;> simp [same, unsigned]
  | number n => cases w <;> simp [same, unsigned, Number.same_iff]
  | string s => cases w <;> simp [same, unsigned]
  | array items ih =>
    cases w with
    | array items' =>
      rw [same, unsigned_array, unsigned_array, Json.array.injEq]
      exact sameItems_iff_of_forall fun item hmem w => ih item hmem
    | _ => simp [same, unsigned]
  | object members ih =>
    cases w with
    | object members' =>
      rw [same, unsigned_object, unsigned_object, Json.object.injEq]
      exact sameMembers_iff_of_forall fun member hmem w => ih member hmem
    | _ => simp [same, unsigned]

theorem sameOption_iff {a b : Option Json} :
    sameOption a b = true ↔ a.map unsigned = b.map unsigned := by
  cases a <;> cases b <;> simp [sameOption, same_iff]

/-! ## What is left without the signs -/

theorem unsigned_unsigned (v : Json) : v.unsigned.unsigned = v.unsigned := by
  induction v using induction with
  | number n =>
    cases n with
    | int n => rfl
    | real x =>
      simp only [unsigned, Number.unsigned]
      split <;> rfl
  | array items ih =>
    rw [unsigned_array, unsigned_array, List.map_map]
    exact congrArg _ (List.map_congr_left ih)
  | object members ih =>
    rw [unsigned_object, unsigned_object, List.map_map]
    exact congrArg _ (List.map_congr_left fun member hmem => Prod.ext rfl (ih member hmem))
  | _ => rfl

theorem unsigned_eq_null : v.unsigned = .null ↔ v = .null := by
  cases v <;> simp [unsigned]

theorem isNull_unsigned (v : Json) : v.unsigned.isNull = v.isNull := by cases v <;> rfl

theorem text?_unsigned (v : Json) : v.unsigned.text? = v.text? := by cases v <;> rfl

theorem get?_unsigned (key : String) (v : Json) : v.unsigned.get? key = (v.get? key).map unsigned := by
  cases v with
  | object members =>
    rw [unsigned_object]
    exact lookup_map_value unsigned
  | _ => rfl

theorem isSorted_unsigned : v.unsigned.IsSorted ↔ v.IsSorted := by
  induction v using induction with
  | array items ih =>
    rw [unsigned_array, isSorted_array, isSorted_array, List.forall_mem_map]
    exact forall₂_congr ih
  | object members ih =>
    rw [unsigned_object, isSorted_object, isSorted_object, increasing_map_iff, List.forall_mem_map]
    exact and_congr_right fun _ => forall₂_congr ih
  | _ => exact iff_of_true rfl rfl

theorem Fits.unsigned {ok : Number → Prop} {n : Nat} (h : v.Fits ok n) :
    v.unsigned.Fits (fun _ => True) n := by
  induction h with
  | null => exact .null
  | bool b => exact .bool b
  | number _ => exact .number trivial
  | string s => exact .string s
  | array _ ih =>
    rw [unsigned_array]
    exact .array (List.forall_mem_map.2 ih)
  | object _ ih =>
    rw [unsigned_object]
    exact .object (List.forall_mem_map.2 ih)

theorem insertMember_map {α β : Type} (f : α → β) (key : String) (value : α)
    (members : List (String × α)) :
    insertMember key (f value) (members.map fun member => (member.1, f member.2)) =
      (insertMember key value members).map fun member => (member.1, f member.2) := by
  induction members with
  | nil => rfl
  | cons first rest ih =>
    simp only [List.map_cons, insertMember, ih]
    split
    · rfl
    · split <;> rfl

/-- Members are sorted by their keys, whatever their values are. -/
theorem sortMembers_map {α β : Type} (f : α → β) (members : List (String × α)) :
    sortMembers (members.map fun member => (member.1, f member.2)) =
      (sortMembers members).map fun member => (member.1, f member.2) := by
  induction members using List.reverseRecOn with
  | nil => rfl
  | append_singleton members member ih =>
    simp only [sortMembers, List.map_append, List.map_cons, List.map_nil, List.foldl_append,
      List.foldl_cons, List.foldl_nil] at ih ⊢
    rw [ih, insertMember_map]

theorem unsigned_ofMembers (members : List (String × Json)) :
    (ofMembers members).unsigned = ofMembers (unsignedMembers members) := by
  rw [ofMembers, ofMembers, unsigned_object, unsignedMembers_eq_map, sortMembers_map]

end Json

end EntityPipeline
