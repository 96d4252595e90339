-- What agreement tells about access rules. Of two secured entities it tells the kind apart and, of
-- the list that the kind uses, every rule with its place and its own list, as long as both lists
-- are written. A list without rules is left out, and what is left out agrees with everything.
import EntityPipeline.Proofs.Definition.Agreement
import EntityPipeline.Proofs.Definition.UnknownMembers

namespace EntityPipeline

namespace Json

variable {α : Type} {key name list : String} {write : α → Json}

/-! ## Written values -/

theorem same_string {a b : String} : (string a).same (string b) = true ↔ a = b := by
  simp only [same, beq_iff_eq]

theorem sameOption_strings {a b : Option String} :
    sameOption (a.map string) (b.map string) = true ↔ a = b := by
  cases a <;> cases b <;> simp [sameOption, same_string]

theorem same_stringsToJson {as bs : List String} :
    (stringsToJson as).same (stringsToJson bs) = true ↔ as = bs := by
  unfold stringsToJson same
  induction as generalizing bs with
  | nil => cases bs <;> simp [sameItems]
  | cons a as ih =>
    cases bs with
    | nil => simp [sameItems]
    | cons b bs => simp [sameItems, same_string, ih]

/-! ## Rules -/

/-- Whether two rules agree in their name and their list. -/
def sameRule (name list : String) (a b : Json) : Bool :=
  sameOption (a.get? name) (b.get? name) && sameOption (a.get? list) (b.get? list)

/-- Written rules agree if they are the same. -/
theorem sameRule_rule (h : name ≠ list) {a b : String} {as bs : List String} :
    sameRule name list (.ofMembers [(name, .string a), (list, stringsToJson as)])
      (.ofMembers [(name, .string b), (list, stringsToJson bs)]) = true ↔ a = b ∧ as = bs := by
  have hname (v w : Json) : (ofMembers [(name, v), (list, w)]).get? name = some v :=
    (lookup_sortMembers (by simp [keys, h])).trans List.lookup_cons_self
  have hlist (v w : Json) : (ofMembers [(name, v), (list, w)]).get? list = some w :=
    (lookup_sortMembers (by simp [keys, h])).trans
      ((lookup_cons_of_ne h.symm).trans List.lookup_cons_self)
  unfold sameRule
  simp only [hname, hlist, sameOption, Bool.and_eq_true, same_string, same_stringsToJson]

/-- Lists of rules agree if they are the same, and also if one of them is left out. -/
theorem sameRules_iff (hwrite : ∀ a b, sameRule name list (write a) (write b) = true ↔ a = b)
    (as bs : List α) :
    sameRules name list (listValue write as) (listValue write bs) = true ↔
      as = bs ∨ as = [] ∨ bs = [] := by
  cases as with
  | nil => simp [listValue, sameRules]
  | cons a as =>
    cases bs with
    | nil => simp [listValue, sameRules]
    | cons b bs =>
      -- both lists are written, so they are compared rule by rule
      have hrules : sameRules name list (listValue write (a :: as)) (listValue write (b :: bs)) =
          ((((a :: as).map write).length == ((b :: bs).map write).length) &&
            (((a :: as).map write).zip ((b :: bs).map write)).all fun rules =>
              sameRule name list rules.1 rules.2) := rfl
      have heq : (a :: as = b :: bs) ↔ List.Forall₂ (· = ·) (a :: as) (b :: bs) := by
        rw [List.forall₂_eq_eq_eq]
      rw [hrules, heq, List.forall₂_iff_zip, List.zip_map, List.all_map]
      simp only [Bool.and_eq_true, beq_iff_eq, List.length_map, List.all_eq_true,
        Function.comp_apply, Prod.map, hwrite, reduceCtorEq, or_false]
      exact and_congr_right fun _ => ⟨fun h {_ _} hmem => h _ hmem, fun h _ hmem => h hmem⟩

end Json

open Json

variable {ok ok' : Number → Prop} {n n' : Nat}

/-! ## Access rules -/

namespace Security

/-- What agreement tells of two access rules: their kind, and of the list that the kind uses that
both are the same or one of them is empty. -/
structure AgreesWith (first second : Security) : Prop where
  kind : first.kind = second.kind
  roles : first.kind = some "roles" →
    first.roles = second.roles ∨ first.roles = [] ∨ second.roles = []
  privileges : first.kind ≠ some "roles" →
    first.privileges = second.privileges ∨ first.privileges = [] ∨ second.privileges = []

theorem sameRule_role (a b : RoleRule) :
    sameRule "role" "actionList" a.toJson b.toJson = true ↔ a = b := by
  cases a
  cases b
  exact (sameRule_rule (by decide)).trans (by simp)

theorem sameRule_privilege (a b : PrivilegeRule) :
    sameRule "action" "privList" a.toJson b.toJson = true ↔ a = b := by
  cases a
  cases b
  exact (sameRule_rule (by decide)).trans (by simp)

/-- Under the key of a field is written what its slot holds. -/
theorem get?_of_slot {security : Security} (h : security.IsProper ok n) (slot : Slot)
    (hslot : slot ∈ security.slots) : security.toJson.get? slot.key = slot.value :=
  toJson_eq security ▸ get?_written_slot (areBeside_extra h) nodup_keys_schema slot hslot

/-- Access rules that are written agree exactly as far as their lists are written. -/
theorem sameSecurity_iff {first second : Security} (h : first.IsProper ok n)
    (h' : second.IsProper ok' n') :
    sameSecurity (some first.toJson) (some second.toJson) = true ↔ first.AgreesWith second := by
  have hkind {ok n} {security : Security} (h : security.IsProper ok n) :
      security.toJson.get? "securityType" = security.kind.map .string :=
    get?_of_slot h (.optional "securityType" .text .string security.kind) (by simp [slots])
  have hroles {ok n} {security : Security} (h : security.IsProper ok n) :
      security.toJson.get? "roles" = listValue RoleRule.toJson security.roles :=
    get?_of_slot h (.list "roles" RoleRule.read RoleRule.toJson security.roles) (by simp [slots])
  have hprivileges {ok n} {security : Security} (h : security.IsProper ok n) :
      security.toJson.get? "customSecurity" = listValue PrivilegeRule.toJson security.privileges :=
    get?_of_slot h (.list "customSecurity" PrivilegeRule.read PrivilegeRule.toJson
      security.privileges) (by simp [slots])
  have htext : (first.kind.map string).bind text? = first.kind := by
    cases first.kind <;> rfl
  unfold sameSecurity
  simp only [hkind h, hkind h', hroles h, hroles h', hprivileges h, hprivileges h', htext,
    Bool.and_eq_true, sameOption_strings]
  by_cases hused : first.kind = some "roles"
  · rw [if_pos (beq_iff_eq.2 hused), sameRules_iff sameRule_role]
    refine ⟨?_, fun hagrees => ⟨hagrees.kind, hagrees.roles hused⟩⟩
    rintro ⟨hkind, hrules⟩
    exact ⟨hkind, fun _ => hrules, fun hother => absurd hused hother⟩
  · rw [if_neg (mt beq_iff_eq.1 hused), sameRules_iff sameRule_privilege]
    refine ⟨?_, fun hagrees => ⟨hagrees.kind, hagrees.privileges hused⟩⟩
    rintro ⟨hkind, hrules⟩
    exact ⟨hkind, fun hroles => absurd hroles hused, fun _ => hrules⟩

end Security

/-! ## Entities -/

namespace Json

variable {members first second : List (String × Json)} {key : String}

/-- Among the members that are not null, a key finds its value unless that is null. -/
theorem lookup_presentMembers (h : Increasing members) (key : String) :
    (presentMembers members).lookup key = (members.lookup key).filter fun v => !v.isNull := by
  have hpresent : Increasing (presentMembers members) := h.filter _
  refine Option.ext fun v => ?_
  rw [Option.filter_eq_some_iff]
  constructor
  · intro hv
    obtain ⟨hmem, hnull⟩ := List.mem_filter.1 (mem_of_lookup hv)
    exact ⟨lookup_eq_some h.nodup hmem, hnull⟩
  · rintro ⟨hv, hnull⟩
    exact lookup_eq_some hpresent.nodup (List.mem_filter.2 ⟨mem_of_lookup hv, hnull⟩)

/-- Members that stand under the same keys are as many. -/
theorem Increasing.length_eq (h : Increasing first) (h' : Increasing second)
    (hlookup : ∀ key, (first.lookup key).isSome = (second.lookup key).isSome) :
    first.length = second.length := by
  have hkeys : (keys first).Perm (keys second) :=
    (List.perm_ext_iff_of_nodup h.nodup h'.nodup).2 fun key => by
      rw [← lookup_isSome, ← lookup_isSome, hlookup]
  simpa only [keys, List.length_map] using hkeys.length_eq

theorem isSome_of_sameSecurity {a b : Option Json} (h : sameSecurity a b = true) :
    a.isSome = b.isSome := by
  cases a <;> cases b <;> simp_all [sameSecurity]

theorem sameSecurity_of_sameEntity (h : sameEntity (object first) (object second) = true) :
    sameSecurity ((presentMembers first).lookup "secure")
      ((presentMembers second).lookup "secure") = true := by
  simp only [sameEntity, Bool.and_eq_true] at h
  exact h.2

/-- Entities that are written alike but for their access rules agree if these do. -/
theorem sameEntity_of_sameSecurity (hfirst : (object first).IsSorted) (hsecond : Increasing second)
    (hlookup : ∀ key ≠ "secure",
      (presentMembers first).lookup key = (presentMembers second).lookup key)
    (hsame : sameSecurity ((presentMembers first).lookup "secure")
      ((presentMembers second).lookup "secure") = true) :
    sameEntity (object first) (object second) = true := by
  have hincreasing : Increasing first := (isSorted_object.1 hfirst).1
  have hsorted : ∀ member ∈ presentMembers first, member.2.IsSorted := fun member hmem =>
    (isSorted_object.1 hfirst).2 member (List.mem_of_mem_filter hmem)
  have hsome : ((presentMembers first).lookup "secure").isSome =
      ((presentMembers second).lookup "secure").isSome := isSome_of_sameSecurity hsame
  have hlength : (presentMembers first).length = (presentMembers second).length := by
    refine Increasing.length_eq (hincreasing.filter _) (hsecond.filter _) fun key => ?_
    by_cases hkey : key = "secure"
    · exact hkey ▸ hsome
    · rw [hlookup key hkey]
  have harray : ∀ key ≠ "secure",
      arrayUnder key (presentMembers second) = arrayUnder key (presentMembers first) := by
    intro key hkey
    unfold arrayUnder
    rw [hlookup key hkey]
  simp only [sameEntity, sameUnder, sameOptions, filtering, harray "fields" (by decide),
    harray "relationships" (by decide), hlength, hsome, hsame, hlookup "javadoc" (by decide),
    hlookup "entityTableName" (by decide), hlookup "jpaMetamodelFiltering" (by decide)]
  simp [sameOption_refl, hlookup, samePairwise_refl (isSorted_arrayUnder hsorted)]

end Json

namespace EntityDefinition

variable {first second definition : EntityDefinition} {document document' : Json}

/-- The definition with other access rules. -/
def securedBy (definition : EntityDefinition) (secure : Option Security) : EntityDefinition :=
  { definition with options := { definition.options with secure } }

theorem IsReadFrom.exists_isProper (h : definition.IsReadFrom document) :
    ∃ n, definition.IsProper (fun _ => True) (n + 2) := by
  cases h with
  | value hread => exact exists_isProper_of_ofJson hread
  | text _ hread => exact ⟨122, isProper_of_snapshot hread⟩

theorem lookup_secure (h : definition.IsProper ok (n + 2)) :
    (presentMembers definition.written).lookup "secure" =
      definition.options.secure.map Security.toJson := by
  have hwritten : definition.toJson.get? "secure" = definition.options.secure.map Security.toJson :=
    get?_of_slot h (.optional "secure" Security.read Security.toJson definition.options.secure)
      (by simp [EntityOptions.slots])
  rw [toJson_eq_object] at hwritten
  rw [lookup_presentMembers definition.increasing_written,
    show definition.written.lookup "secure" = _ from hwritten]
  cases definition.options.secure <;> rfl

/-- With other access rules, a definition is written as before but for these. -/
theorem lookup_written_securedBy {secure : Option Security} (h : definition.IsProper ok (n + 2))
    (h' : (definition.securedBy secure).IsProper ok' (n' + 2)) {key : String}
    (hkey : key ≠ "secure") :
    (definition.securedBy secure).written.lookup key = definition.written.lookup key := by
  have hne : ("secure" == key) = false := beq_eq_false_iff_ne.2 hkey.symm
  rw [lookup_written h', lookup_written h]
  simp only [slots, EntityOptions.slots, securedBy, Slot.single, Slot.optional, List.cons_append,
    List.nil_append, List.find?_cons, hne]

/-- Access rules agree, as they are written, exactly as far as their lists are written. -/
theorem sameSecurity_lookup_iff (h : first.IsProper ok (n + 2))
    (h' : second.IsProper ok' (n' + 2)) :
    sameSecurity ((presentMembers first.written).lookup "secure")
        ((presentMembers second.written).lookup "secure") = true ↔
      Option.Rel Security.AgreesWith first.options.secure second.options.secure := by
  rw [lookup_secure h, lookup_secure h']
  have hfirst := h.options.secure
  have hsecond := h'.options.secure
  cases hsecure : first.options.secure with
  | none => cases second.options.secure <;> simp [sameSecurity]
  | some a =>
    cases hsecure' : second.options.secure with
    | none => simp [sameSecurity]
    | some b => simp [Security.sameSecurity_iff (hfirst a hsecure) (hsecond b hsecure')]

end EntityDefinition

open EntityDefinition

/-- Definitions that agree have access rules of one kind, or none both; the lists that the kind uses
are the same, or one of them is empty. Where definitions differ in nothing else, that much is also
enough for them to agree. -/
theorem agreement_tells_rules_unless_one_side_has_none {first second : EntityDefinition}
    {document document' : Json} (h : first.IsReadFrom document)
    (h' : second.IsReadFrom document') :
    (first.agrees second = true →
      Option.Rel Security.AgreesWith first.options.secure second.options.secure) ∧
    (second = first.securedBy second.options.secure →
      Option.Rel Security.AgreesWith first.options.secure second.options.secure →
        first.agrees second = true) := by
  obtain ⟨n, hproper⟩ := h.exists_isProper
  obtain ⟨n', hproper'⟩ := h'.exists_isProper
  have hagrees : first.agrees second =
      sameEntity (.object first.written) (.object second.written) := by
    rw [agrees, toJson_eq_object, toJson_eq_object]
  rw [hagrees, ← sameSecurity_lookup_iff hproper hproper']
  refine ⟨sameSecurity_of_sameEntity, fun heq hsame => ?_⟩
  have hsecured : (first.securedBy second.options.secure).IsProper (fun _ => True) (n' + 2) :=
    heq ▸ hproper'
  have hback : IsReadBack (fun _ => True) (n + 5) (read .value) first.toJson first :=
    isReadBack hproper
  refine sameEntity_of_sameSecurity (toJson_eq_object first ▸ hback.sorted)
    second.increasing_written (fun key hkey => ?_) hsame
  rw [lookup_presentMembers first.increasing_written,
    lookup_presentMembers second.increasing_written, heq,
    lookup_written_securedBy hproper hsecured hkey]

/-- A book that readers may get, in a folder of the client. -/
def openedBook (folder : String) : EntityDefinition where
  name := "Book"
  options.clientRootFolder := some folder
  options.secure := some ⟨some "roles", [⟨"READER", ["get"]⟩], [], []⟩

/-- The same book, with access by role that no role has. -/
def closedBook (folder : String) : EntityDefinition :=
  (openedBook folder).securedBy (some ⟨some "roles", [], [], []⟩)

theorem agreeing_books_are_open_to_the_same :
    Option.Rel Security.AgreesWith (openedBook "shop").options.secure
      (openedBook "library").options.secure ∧
    (openedBook "shop").agrees (closedBook "shop") = true := by
  have hshop : (openedBook "shop").IsReadFrom (openedBook "shop").toJson.sorted := .value rfl
  have hlibrary : (openedBook "library").IsReadFrom (openedBook "library").toJson.sorted :=
    .value rfl
  have hclosed : (closedBook "shop").IsReadFrom (closedBook "shop").toJson.sorted := .value rfl
  refine ⟨(agreement_tells_rules_unless_one_side_has_none hshop hlibrary).1 (by decide +kernel),
    (agreement_tells_rules_unless_one_side_has_none hshop hclosed).2 rfl ?_⟩
  exact .some ⟨rfl, fun _ => Or.inr (Or.inr rfl), fun hkind => absurd rfl hkind⟩

/-- A book that is opened to its first role still passes for the closed one. -/
theorem opening_a_closed_book_goes_unnoticed :
    (closedBook "shop").IsReadFrom (closedBook "shop").toJson.sorted ∧
    (openedBook "shop").IsReadFrom (openedBook "shop").toJson.sorted ∧
    (closedBook "shop").agrees (openedBook "shop") = true ∧
    ∃ closed opened, (closedBook "shop").options.secure = some closed ∧
      (openedBook "shop").options.secure = some opened ∧ closed.kind = some "roles" ∧
      opened.kind = some "roles" ∧ closed.roles ≠ opened.roles :=
  ⟨.value rfl, .value rfl, by decide +kernel, _, _, rfl, rfl, rfl, rfl, by decide⟩

end EntityPipeline
