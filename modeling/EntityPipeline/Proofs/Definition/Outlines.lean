-- What the comparison of entities looks at. Documents agree exactly if their outlines are equal and
-- their lists of access rules are, where both are written. So agreement is reflexive and symmetric,
-- and of two documents that agree with a third one it can miss a difference in these lists only.
import EntityPipeline.Proofs.Definition.AccessRules
import EntityPipeline.Proofs.Json.Sameness

namespace EntityPipeline.Json

variable {u v w : Json} {key name list : String} {first second : List Json}
  {members members' : List (String × Json)} {a b : Option Json}

/-! ## Items -/

/-- Of increasing members, as many others hold them all only if they are the same. -/
theorem Increasing.eq_of_subset {α : Type} {members members' : List (String × α)}
    (h : Increasing members) (h' : Increasing members') (hlength : members.length = members'.length)
    (hsubset : members ⊆ members') : members = members' :=
  h.eq_of_perm h' ((h.nodup.of_map.subperm hsubset).perm_of_length_le hlength.ge)

/-- Sorted items agree if they are the same. -/
theorem sameItem_iff (h : v.IsSorted) (h' : w.IsSorted) :
    sameItem v w = true ↔ v.unsigned = w.unsigned := by
  cases v with
  | object members =>
    cases w with
    | object members' =>
      have hmembers := (increasing_map_iff unsigned).2 (isSorted_object.1 h).1
      have hmembers' := (increasing_map_iff unsigned).2 (isSorted_object.1 h').1
      rw [unsigned_object, unsigned_object, Json.object.injEq]
      simp only [sameItem, Bool.and_eq_true, beq_iff_eq, List.all_eq_true, sameOption_iff]
      constructor
      · rintro ⟨hlength, hall⟩
        refine hmembers.eq_of_subset hmembers' (by simpa using hlength) ?_
        rintro _ hmem
        obtain ⟨member, hmember, rfl⟩ := List.mem_map.1 hmem
        exact mem_of_lookup ((lookup_map_value unsigned).trans (hall member hmember))
      · intro heq
        refine ⟨by simpa using congrArg List.length heq, fun member hmember => ?_⟩
        rw [← lookup_map_value, ← heq]
        exact lookup_eq_some hmembers.nodup (List.mem_map_of_mem hmember)
    | _ => exact same_iff
  | _ => exact same_iff

/-- Lists of one length agree pairwise if all their items are the same. -/
theorem samePairwise_iff (h : ∀ item ∈ first, item.IsSorted) (h' : ∀ item ∈ second, item.IsSorted) :
    first.length = second.length ∧ samePairwise first second = true ↔
      first.map unsigned = second.map unsigned := by
  induction first generalizing second with
  | nil => cases second <;> simp [samePairwise]
  | cons item rest ih =>
    cases second with
    | nil => simp
    | cons item' rest' =>
      obtain ⟨hitem, hrest⟩ := List.forall_mem_cons.1 h
      obtain ⟨hitem', hrest'⟩ := List.forall_mem_cons.1 h'
      have hcons : samePairwise (item :: rest) (item' :: rest') =
          (sameItem item item' && samePairwise rest rest') := rfl
      simp only [hcons, List.length_cons, Nat.add_right_cancel_iff, Bool.and_eq_true,
        sameItem_iff hitem hitem', List.map_cons, List.cons.injEq, ← ih hrest hrest']
      exact and_left_comm

/-! ## Access rules -/

/-- The name and the list of every rule of a list, zeros without their signs. -/
def rulesOf (name list : String) : Option Json → Option (List (Option Json × Option Json))
  | some (.array rules) =>
    some (rules.map fun rule => ((rule.get? name).map unsigned, (rule.get? list).map unsigned))
  | _ => none

/-- The rules of the list that the kind of access rules uses, if it is written. -/
def rulesInUse (security : Json) : Option (List (Option Json × Option Json)) :=
  if (security.get? "securityType").bind text? = some "roles" then
    rulesOf "role" "actionList" (security.get? "roles")
  else rulesOf "action" "privList" (security.get? "customSecurity")

/-- Rules are equal, or one side has none written. -/
def RulesMeet (rules rules' : Option (List (Option Json × Option Json))) : Prop :=
  rules = none ∨ rules' = none ∨ rules = rules'

theorem sameRules_iff_rulesMeet :
    sameRules name list a b = true ↔ RulesMeet (rulesOf name list a) (rulesOf name list b) := by
  unfold RulesMeet rulesOf sameRules
  split
  · rename_i first second
    simp only [reduceCtorEq, Option.some.injEq, false_or, Bool.and_eq_true, beq_iff_eq]
    induction first generalizing second with
    | nil => cases second <;> simp
    | cons rule rest ih =>
      cases second with
      | nil => simp
      | cons rule' rest' =>
        simp only [List.length_cons, Nat.add_right_cancel_iff, List.zip_cons_cons, List.all_cons,
          Bool.and_eq_true, sameOption_iff, List.map_cons, List.cons.injEq, Prod.mk.injEq, ← ih]
        exact and_left_comm
  · rename_i hneither
    refine iff_of_true rfl ?_
    split
    · refine Or.inr (Or.inl ?_)
      split
      · exact absurd rfl (hneither _ _ rfl)
      · rfl
    · exact Or.inl rfl

/-- The kind of access rules, which are compared only with others of that kind. -/
def kindOf (security : Json) : Option Json := (security.get? "securityType").map unsigned

theorem sameSecurity_iff_kindOf :
    sameSecurity a b = true ↔
      a.map kindOf = b.map kindOf ∧ RulesMeet (a.bind rulesInUse) (b.bind rulesInUse) := by
  cases a with
  | none => cases b <;> simp [sameSecurity, RulesMeet]
  | some s =>
    cases b with
    | none => simp [sameSecurity]
    | some s' =>
      have hroles (s : Json) : (s.get? "securityType").bind text? = (kindOf s).bind text? := by
        rw [kindOf, Option.bind_map]
        exact congrArg _ (funext fun v => (text?_unsigned v).symm)
      simp only [sameSecurity, Bool.and_eq_true, sameOption_iff, Option.map_some,
        Option.some.injEq, Option.bind_some, rulesInUse, hroles, beq_iff_eq]
      refine and_congr_right fun hkind => ?_
      rw [show kindOf s = kindOf s' from hkind]
      split <;> exact sameRules_iff_rulesMeet

/-! ## Entities -/

/-- What is compared of two entities but for their lists of access rules, zeros without their
signs. -/
structure Outline where
  fields : List Json
  relationships : List Json
  settings : List (Option Json)
  filtering : Option Json
  kind : Option (Option Json)
  size : Nat

/-- The members that are compared as they are. -/
def settingKeys : List String :=
  ["javadoc", "entityTableName", "dto", "pagination", "service", "searchEngine"]

def outlineOf (members : List (String × Json)) : Outline where
  fields := (arrayUnder "fields" members).map unsigned
  relationships := (arrayUnder "relationships" members).map unsigned
  settings := settingKeys.map fun key => (members.lookup key).map unsigned
  filtering := (filtering members).map unsigned
  kind := (members.lookup "secure").map kindOf
  size := members.length

/-- The access rules of a document, if it has any. -/
def secured : Json → Option Json
  | .object members => (presentMembers members).lookup "secure"
  | _ => none

/-- The rules that a document lists for its kind of access, if it lists any. -/
def listedRules (v : Json) : Option (List (Option Json × Option Json)) := v.secured.bind rulesInUse

/-- The outline of an object; of anything else the value, zeros without their signs. -/
def outline : Json → Outline ⊕ Json
  | .object members => .inl (outlineOf (presentMembers members))
  | other => .inr other.unsigned

theorem isSorted_presentMembers (h : (object members).IsSorted) :
    ∀ member ∈ presentMembers members, member.2.IsSorted :=
  fun member hmem => (isSorted_object.1 h).2 member (List.mem_of_mem_filter hmem)

/-- Documents agree if their outlines are equal and what both list of access rules is. -/
theorem sameEntity_iff (h : v.IsSorted) (h' : w.IsSorted) :
    v.sameEntity w = true ↔ v.outline = w.outline ∧ RulesMeet v.listedRules w.listedRules := by
  cases v with
  | object members =>
    cases w with
    | object members' =>
      have hsorted (key : String) : ∀ item ∈ arrayUnder key (presentMembers members),
          item.IsSorted := isSorted_arrayUnder (isSorted_presentMembers h)
      have hsorted' (key : String) : ∀ item ∈ arrayUnder key (presentMembers members'),
          item.IsSorted := isSorted_arrayUnder (isSorted_presentMembers h')
      have hitems (key : String) := samePairwise_iff (hsorted key) (hsorted' key)
      have hsecured {a b : Option Json} (h : a.map kindOf = b.map kindOf) :
          a.isSome = b.isSome := by
        simpa using congrArg Option.isSome h
      simp only [sameEntity, sameUnder, sameOptions, Bool.and_eq_true, beq_iff_eq, sameOption_iff,
        sameSecurity_iff_kindOf, List.all_cons, List.all_nil, outline, Sum.inl.injEq, outlineOf,
        Outline.mk.injEq, ← hitems, settingKeys, List.map_cons, List.map_nil, List.cons.injEq,
        listedRules, secured]
      -- both sides have the same parts, in the order of the comparison and in that of the outline
      constructor
      · rintro ⟨⟨⟨⟨⟨⟨⟨⟨⟨hfields, hrelationships⟩, hdoc⟩, htable⟩, hsize⟩, -⟩, hfields'⟩,
          hrelationships'⟩, hkeys, hfiltering⟩, hkind, hrules⟩
        exact ⟨⟨⟨hfields, hfields'⟩, ⟨hrelationships, hrelationships'⟩, ⟨hdoc, htable, hkeys⟩,
          hfiltering, hkind, hsize⟩, hrules⟩
      · rintro ⟨⟨⟨hfields, hfields'⟩, ⟨hrelationships, hrelationships'⟩, ⟨hdoc, htable, hkeys⟩,
          hfiltering, hkind, hsize⟩, hrules⟩
        exact ⟨⟨⟨⟨⟨⟨⟨⟨⟨hfields, hrelationships⟩, hdoc⟩, htable⟩, hsize⟩, hsecured hkind⟩, hfields'⟩,
          hrelationships'⟩, hkeys, hfiltering⟩, hkind, hrules⟩
    | _ => exact same_iff.trans (by simp [outline, listedRules, secured, RulesMeet, unsigned])
  | _ =>
    exact same_iff.trans (by cases w <;> simp [outline, listedRules, secured, RulesMeet, unsigned])

/-! ## Zeros and their signs -/

theorem presentMembers_unsignedMembers (members : List (String × Json)) :
    presentMembers (unsignedMembers members) = unsignedMembers (presentMembers members) := by
  rw [unsignedMembers_eq_map, unsignedMembers_eq_map, presentMembers, List.filter_map]
  simp only [presentMembers, Function.comp_def, isNull_unsigned]

theorem lookup_unsignedMembers (key : String) (members : List (String × Json)) :
    (unsignedMembers members).lookup key = (members.lookup key).map unsigned := by
  rw [unsignedMembers_eq_map]
  exact lookup_map_value unsigned

theorem map_unsigned_map_unsigned (v : Option Json) :
    (v.map unsigned).map unsigned = v.map unsigned := by
  rw [Option.map_map]
  exact congrArg (Option.map · v) (funext unsigned_unsigned)

theorem arrayUnder_unsignedMembers (key : String) (members : List (String × Json)) :
    (arrayUnder key (unsignedMembers members)).map unsigned =
      (arrayUnder key members).map unsigned := by
  unfold arrayUnder
  rw [lookup_unsignedMembers]
  cases members.lookup key with
  | none => rfl
  | some v =>
    cases v with
    | array items =>
      rw [Option.map_some, unsigned_array, List.map_map]
      exact congrArg (List.map · items) (funext unsigned_unsigned)
    | _ => rfl

theorem filtering_unsignedMembers (members : List (String × Json)) :
    (filtering (unsignedMembers members)).map unsigned = (filtering members).map unsigned := by
  unfold filtering
  rw [lookup_unsignedMembers]
  cases members.lookup "jpaMetamodelFiltering" with
  | none => rfl
  | some v =>
    cases v with
    | string s => rfl
    | _ => exact map_unsigned_map_unsigned (some _)

theorem kindOf_unsigned (v : Json) : kindOf v.unsigned = kindOf v := by
  rw [kindOf, get?_unsigned, map_unsigned_map_unsigned, kindOf]

theorem rulesOf_map_unsigned (name list : String) (v : Option Json) :
    rulesOf name list (v.map unsigned) = rulesOf name list v := by
  cases v with
  | none => rfl
  | some v =>
    cases v with
    | array rules =>
      simp only [Option.map_some, unsigned_array, rulesOf, List.map_map, Function.comp_def,
        get?_unsigned, map_unsigned_map_unsigned]
    | _ => rfl

theorem rulesInUse_unsigned (v : Json) : rulesInUse v.unsigned = rulesInUse v := by
  simp only [rulesInUse, get?_unsigned, rulesOf_map_unsigned, Option.bind_map, Function.comp_def,
    text?_unsigned]

theorem secured_unsigned (v : Json) : v.unsigned.secured = v.secured.map unsigned := by
  cases v with
  | object members =>
    show (presentMembers (unsignedMembers members)).lookup "secure" = _
    rw [presentMembers_unsignedMembers, lookup_unsignedMembers]
    rfl
  | _ => rfl

theorem listedRules_unsigned (v : Json) : v.unsigned.listedRules = v.listedRules := by
  rw [listedRules, secured_unsigned, Option.bind_map]
  exact congrArg _ (funext rulesInUse_unsigned)

/-- The outline of a value does not depend on the signs of zeros. -/
theorem outline_unsigned (v : Json) : v.unsigned.outline = v.outline := by
  cases v with
  | object members =>
    show Sum.inl (outlineOf (presentMembers (unsignedMembers members))) = _
    rw [presentMembers_unsignedMembers]
    have hlength : (unsignedMembers (presentMembers members)).length =
        (presentMembers members).length := by
      rw [unsignedMembers_eq_map, List.length_map]
    simp only [outline, outlineOf, arrayUnder_unsignedMembers, filtering_unsignedMembers,
      lookup_unsignedMembers, Option.map_map, Function.comp_def, unsigned_unsigned,
      kindOf_unsigned, hlength]
  | _ => exact congrArg Sum.inr (unsigned_unsigned _)

/-- Values that are the same agree with the same documents. -/
theorem sameEntity_congr (h : u.IsSorted) (h' : v.IsSorted) (hw : w.IsSorted)
    (hsame : u.unsigned = v.unsigned) : u.sameEntity w = v.sameEntity w := by
  rw [Bool.eq_iff_iff, sameEntity_iff h hw, sameEntity_iff h' hw, ← outline_unsigned u,
    ← listedRules_unsigned u, hsame, outline_unsigned, listedRules_unsigned]

/-! ## Agreement with a third document -/

theorem RulesMeet.symm {rules rules' : Option (List (Option Json × Option Json))}
    (h : RulesMeet rules rules') : RulesMeet rules' rules := by
  rcases h with h | h | h
  · exact Or.inr (Or.inl h)
  · exact Or.inl h
  · exact Or.inr (Or.inr h.symm)

theorem sameEntity_comm (h : v.IsSorted) (h' : w.IsSorted) : v.sameEntity w = w.sameEntity v := by
  rw [Bool.eq_iff_iff, sameEntity_iff h h', sameEntity_iff h' h]
  exact and_congr eq_comm ⟨RulesMeet.symm, RulesMeet.symm⟩

/-- A document that is secured and lists no rules for its kind of access. -/
def LeavesRulesOut (v : Json) : Prop := v.secured.isSome = true ∧ v.listedRules = none

theorem isSome_secured_of_outline (h : v.outline = w.outline) :
    v.secured.isSome = w.secured.isSome := by
  cases v with
  | object members =>
    cases w with
    | object members' =>
      have hkind := congrArg Outline.kind (Sum.inl.inj h)
      simpa [outlineOf, secured] using congrArg Option.isSome hkind
    | _ => exact nomatch h
  | _ => cases w <;> first | rfl | exact nomatch h

/-- Rules that both meet those of a document in between meet, unless that one leaves them out. -/
theorem RulesMeet.trans_of_listed (hleft : RulesMeet u.listedRules v.listedRules)
    (hright : RulesMeet v.listedRules w.listedRules) (hsecured : u.secured.isSome = v.secured.isSome)
    (h : ¬ v.LeavesRulesOut) : RulesMeet u.listedRules w.listedRules := by
  by_cases hlisted : v.listedRules = none
  · have hnone : u.secured = none := by
      rw [← Option.not_isSome_iff_eq_none, hsecured]
      exact fun hsome => h ⟨hsome, hlisted⟩
    exact Or.inl (by rw [listedRules, hnone, Option.bind_none])
  · rcases hleft with hu | hv | huv
    · exact Or.inl hu
    · exact absurd hv hlisted
    · exact huv ▸ hright

/-- Agreement of sorted values, whose objects have one member under a key, is reflexive and
symmetric. Two documents that agree with a third one agree unless both list rules and these differ;
so they do agree whenever the third one is not secured or lists rules itself. -/
theorem agreement_is_an_equivalence_where_rules_are_listed (hu : u.IsSorted) (hv : v.IsSorted)
    (hw : w.IsSorted) :
    u.sameEntity u = true ∧ u.sameEntity v = v.sameEntity u ∧
    (u.sameEntity v = true → v.sameEntity w = true →
      (u.sameEntity w = true ↔
        u.listedRules = none ∨ w.listedRules = none ∨ u.listedRules = w.listedRules) ∧
      (¬ v.LeavesRulesOut → u.sameEntity w = true)) := by
  refine ⟨sameEntity_refl hu, sameEntity_comm hu hv, fun huv hvw => ?_⟩
  obtain ⟨houtline, hmeet⟩ := (sameEntity_iff hu hv).1 huv
  obtain ⟨houtline', hmeet'⟩ := (sameEntity_iff hv hw).1 hvw
  have hiff : u.sameEntity w = true ↔ RulesMeet u.listedRules w.listedRules :=
    (sameEntity_iff hu hw).trans (and_iff_right (houtline.trans houtline'))
  exact ⟨hiff, fun hlisted =>
    hiff.2 (hmeet.trans_of_listed hmeet' (isSome_secured_of_outline houtline) hlisted)⟩

/-- A document of a book in a folder of the client with access by role, the other members of its
access rules given. -/
def securedBook (folder : String) (rules : List (String × Json)) : Json :=
  .object [("clientRootFolder", .string folder), ("name", .string "Book"),
    ("secure", .object (rules ++ [("securityType", .string "roles")]))]

/-- Access rules that list one role, which has no list of its own. -/
def onlyRole (role : String) : List (String × Json) :=
  [("roles", .array [.object [("role", .string role)]])]

theorem books_agree_through_a_listed_role :
    (securedBook "shop" []).sameEntity (securedBook "library" (onlyRole "READER")) = true ∧
    (securedBook "library" (onlyRole "READER")).sameEntity
      (securedBook "archive" (onlyRole "READER")) = true ∧
    (securedBook "shop" []).sameEntity (securedBook "archive" (onlyRole "READER")) = true := by
  have hshop : (securedBook "shop" []).IsSorted := rfl
  have hlibrary : (securedBook "library" (onlyRole "READER")).IsSorted := rfl
  have harchive : (securedBook "archive" (onlyRole "READER")).IsSorted := rfl
  have hlisted : ¬ (securedBook "library" (onlyRole "READER")).LeavesRulesOut :=
    fun h => nomatch h.2
  have hleft : (securedBook "shop" []).sameEntity (securedBook "library" (onlyRole "READER")) =
      true := by decide +kernel
  have hright : (securedBook "library" (onlyRole "READER")).sameEntity
      (securedBook "archive" (onlyRole "READER")) = true := by decide +kernel
  obtain ⟨-, -, htrans⟩ :=
    agreement_is_an_equivalence_where_rules_are_listed hshop hlibrary harchive
  exact ⟨hleft, hright, (htrans hleft hright).2 hlisted⟩

/-- Two books that list different roles agree with one that lists none, and not with each other. -/
theorem books_of_two_roles_agree_with_a_third_book :
    (securedBook "shop" (onlyRole "READER")).IsSorted ∧ (securedBook "shop" []).IsSorted ∧
    (securedBook "shop" (onlyRole "WRITER")).IsSorted ∧
    (securedBook "shop" (onlyRole "READER")).sameEntity (securedBook "shop" []) = true ∧
    (securedBook "shop" []).sameEntity (securedBook "shop" (onlyRole "WRITER")) = true ∧
    (securedBook "shop" (onlyRole "READER")).sameEntity
      (securedBook "shop" (onlyRole "WRITER")) = false :=
  ⟨rfl, rfl, rfl, by decide +kernel, by decide +kernel, by decide +kernel⟩

end EntityPipeline.Json
