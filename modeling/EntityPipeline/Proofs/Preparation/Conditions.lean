-- What definitions have to satisfy so that they can be prepared. The conditions are stated over the
-- definitions alone, and none of them depends on the order in which those are given.
import EntityPipeline.Preparation.Inverses
import EntityPipeline.Proofs.Preparation.FieldTypes
import Mathlib.Algebra.GroupWithZero.Nat
import Mathlib.Logic.Relation

namespace EntityPipeline

variable {config : ApplicationConfig} {definitions : List EntityDefinition} {name other : String}

/-! ## Fields and relationships -/

/-- A field of a definition is kept. Of a managed user, those with new names are: no built-in
field has the name, and no earlier one of the definition. -/
def Keeps (config : ApplicationConfig) (definition : EntityDefinition) (field : FieldDefinition) :
    Prop :=
  if isManagedUser config definition then
    ∃ before after, definition.fields = before ++ field :: after ∧
      field.name ∉ (userFields config ++ before).map FieldDefinition.name
  else field ∈ definition.fields

/-- A definition of a name declares a relationship. -/
def DeclaredBy (definitions : List EntityDefinition) (name : String)
    (relationship : RelationshipDefinition) : Prop :=
  ∃ definition ∈ definitions, definition.name = name ∧ relationship ∈ definition.relationships

/-- An entity of a name is registered: a given one or the managed user. -/
def Registers (config : ApplicationConfig) (definitions : List EntityDefinition) (name : String) :
    Prop :=
  name ∈ definitions.map EntityDefinition.name ∨ managesUsers config = true ∧ name = userEntity

/-- A relationship can identify its entity: it is many-to-one or the owner side of a one-to-one. -/
def RelationshipDefinition.CanIdentify (relationship : RelationshipDefinition) : Prop :=
  relationship.cardinality = .manyToOne ∨
    relationship.cardinality = .oneToOne ∧ relationship.ownerSide ≠ some false

/-- An entity is identified by another one. -/
def IdentifiedBy (definitions : List EntityDefinition) (name other : String) : Prop :=
  ∃ relationship, DeclaredBy definitions name relationship ∧ relationship.isId = true ∧
    relationship.otherEntity = other

/-- A many-to-many relationship leads from one entity to another: it is declared, or it is the
missing other side of a declared one. -/
inductive ManyToMany (definitions : List EntityDefinition) : String → String → Prop
  | declared {name : String} {relationship : RelationshipDefinition} :
      DeclaredBy definitions name relationship → relationship.cardinality = .manyToMany →
      ManyToMany definitions name relationship.otherEntity
  | added {name inverse : String} {relationship : RelationshipDefinition} :
      DeclaredBy definitions name relationship → relationship.cardinality = .manyToMany →
      relationship.inverseName = some inverse →
      (∀ side, DeclaredBy definitions relationship.otherEntity side →
        side.effectiveName ≠ inverse) →
      ManyToMany definitions relationship.otherEntity name

/-! ## Composite keys -/

/-- The number of identifiers borrowed over relationships, given that of each entity. -/
def borrowedCount (definition : EntityDefinition) (counts : String → Nat) : Nat :=
  ((definition.relationships.filter RelationshipDefinition.isId).map fun relationship =>
    counts relationship.otherEntity).sum

/-- The number of identifiers of an entity: its own ones, and for each identifying relationship
those of the other entity. -/
inductive CountsIds (definitions : List EntityDefinition) : String → Nat → Prop
  | intro {definition : EntityDefinition} (counts : String → Nat) :
      definition ∈ definitions →
      (∀ relationship ∈ definition.relationships, relationship.isId = true →
        CountsIds definitions relationship.otherEntity (counts relationship.otherEntity)) →
      CountsIds definitions definition.name
        (ownIdCount definition + borrowedCount definition counts)

/-- An entity has several identifiers. -/
def Composite (definitions : List EntityDefinition) (name : String) : Prop :=
  ∃ count, 2 ≤ count ∧ CountsIds definitions name count

theorem CountsIds.elim {count : Nat} (h : CountsIds definitions name count) :
    ∃ definition ∈ definitions, definition.name = name ∧
      ∃ counts : String → Nat, count = ownIdCount definition + borrowedCount definition counts ∧
        ∀ relationship ∈ definition.relationships, relationship.isId = true →
          CountsIds definitions relationship.otherEntity (counts relationship.otherEntity) := by
  cases h with
  | intro counts hin hcounts => exact ⟨_, hin, rfl, counts, rfl, hcounts⟩

theorem borrowedCount_congr {definition : EntityDefinition} {counts counts' : String → Nat}
    (h : ∀ relationship ∈ definition.relationships, relationship.isId = true →
      counts relationship.otherEntity = counts' relationship.otherEntity) :
    borrowedCount definition counts = borrowedCount definition counts' := by
  unfold borrowedCount
  congr 1
  refine List.map_congr_left fun relationship hin => ?_
  obtain ⟨hin, hid⟩ := List.mem_filter.1 hin
  exact h relationship hin hid

theorem CountsIds.unique (hn : (definitions.map EntityDefinition.name).Nodup) {count count' : Nat}
    (h : CountsIds definitions name count) (h' : CountsIds definitions name count') :
    count = count' := by
  induction h generalizing count' with
  | intro counts hin _ ih =>
    obtain ⟨definition', hin', hname, counts', rfl, hcounts'⟩ := h'.elim
    obtain rfl := List.inj_on_of_nodup_map hn hin' hin hname
    congr 1
    exact borrowedCount_congr fun r hr hid => ih r hr hid (hcounts' r hr hid)

/-! ## The conditions -/

/-- What definitions have to satisfy. -/
inductive Condition where
  | named
  | typed
  | resolved
  | supported
  | acyclic
  | simple
deriving DecidableEq, Repr

namespace Condition

/-- The conditions in the order in which they are looked at. -/
def all : List Condition := [.named, .typed, .resolved, .supported, .acyclic, .simple]

/-- What a condition demands: every definition has a name, every field that is kept a known type,
every relationship another entity; identifying relationships are of a kind that can identify, and
lead in no circle; no many-to-many relationship has a composite key on either side. -/
def Holds (config : ApplicationConfig) (definitions : List EntityDefinition) : Condition → Prop
  | .named => ∀ definition ∈ definitions, definition.name ≠ ""
  | .typed => ∀ definition ∈ definitions, ∀ field, Keeps config definition field →
      (FieldType.parse field.type field.blobContent field.values.isSome).isSome = true
  | .resolved => ∀ name relationship, DeclaredBy definitions name relationship →
      Registers config definitions relationship.otherEntity
  | .supported => ∀ name relationship, DeclaredBy definitions name relationship →
      relationship.isId = true → relationship.CanIdentify
  | .acyclic => ∀ name, ¬Relation.TransGen (IdentifiedBy definitions) name name
  | .simple => ∀ name other, ManyToMany definitions name other →
      ¬Composite (registered config definitions) name ∧
        ¬Composite (registered config definitions) other

/-- The failures that tell of a condition: each names something that violates it. -/
def Reports (config : ApplicationConfig) (definitions : List EntityDefinition) :
    Condition → Failure → Prop
  | .named, failure => failure = .configuration "an entity definition has no name"
  | .typed, failure => ∃ definition ∈ definitions, ∃ field, Keeps config definition field ∧
      FieldType.parse field.type field.blobContent field.values.isSome = none ∧
      failure = .unknownFieldType definition.name field.name field.type
  | .resolved, failure => ∃ name relationship, DeclaredBy definitions name relationship ∧
      ¬Registers config definitions relationship.otherEntity ∧
      failure = .unresolvedReference name relationship.effectiveName relationship.otherEntity
  | .supported, failure => ∃ name relationship, DeclaredBy definitions name relationship ∧
      relationship.isId = true ∧ ¬relationship.CanIdentify ∧
      failure = .invalidRelationship name relationship.effectiveName
        "an id relationship must be many-to-one or the owner side of a one-to-one"
  | .acyclic, failure => ∃ name relationship, failure = .invalidRelationship name relationship
      "id relationships form a cycle, no primary key can be derived"
  | .simple, failure => ∃ name relationship, failure = .invalidRelationship name relationship
      "many-to-many relationships are not supported with composite primary keys"

/-- The diagnostic code of the failures that tell of a condition. -/
def code : Condition → String
  | .named => "entigen::config::invalid"
  | .typed => "entigen::entity::unknown_field_type"
  | .resolved => "entigen::entity::unresolved_reference"
  | .supported | .acyclic | .simple => "entigen::entity::invalid_relationship"

/-- A condition is the first one that is violated. -/
def IsFirst (config : ApplicationConfig) (definitions : List EntityDefinition)
    (condition : Condition) : Prop :=
  ∃ before after, all = before ++ condition :: after ∧
    (∀ earlier ∈ before, earlier.Holds config definitions) ∧ ¬condition.Holds config definitions

/-- At most one condition is the first one that is violated. -/
theorem IsFirst.unique {first second : Condition} (h1 : first.IsFirst config definitions)
    (h2 : second.IsFirst config definitions) : first = second := by
  obtain ⟨before1, after1, heq1, hholds1, hnot1⟩ := h1
  obtain ⟨before2, after2, heq2, hholds2, hnot2⟩ := h2
  rw [heq1] at heq2
  rcases List.append_eq_append_iff.1 heq2 with ⟨rest, rfl, hrest⟩ | ⟨rest, rfl, hrest⟩
  · cases rest with
    | nil => exact (List.cons.inj hrest).1
    | cons head rest =>
      obtain ⟨rfl, _⟩ := List.cons.inj hrest
      exact absurd (hholds2 first (by simp)) hnot1
  · cases rest with
    | nil => exact (List.cons.inj hrest).1.symm
    | cons head rest =>
      obtain ⟨rfl, _⟩ := List.cons.inj hrest
      exact absurd (hholds1 second (by simp)) hnot2

theorem code_of_reports {condition : Condition} {failure : Failure}
    (h : condition.Reports config definitions failure) : failure.code = condition.code := by
  cases condition with
  | named => rw [h]; rfl
  | typed =>
    obtain ⟨_, _, _, _, _, rfl⟩ := h
    rfl
  | resolved =>
    obtain ⟨_, _, _, _, rfl⟩ := h
    rfl
  | supported =>
    obtain ⟨_, _, _, _, _, rfl⟩ := h
    rfl
  | acyclic =>
    obtain ⟨_, _, rfl⟩ := h
    rfl
  | simple =>
    obtain ⟨_, _, rfl⟩ := h
    rfl

end Condition

/-! ## Registered definitions -/

theorem mem_registered {definition : EntityDefinition} :
    definition ∈ registered config definitions ↔
      managesUsers config = true ∧ definition = mergedUser config definitions ∨
      definition ∈ definitions ∧ isManagedUser config definition = false := by
  unfold registered
  rw [List.mem_append, List.mem_filter]
  split <;> simp_all

/-- Under distinct names, the definition found by a name is the one that has it. -/
theorem find?_name_eq_some {definition : EntityDefinition}
    (hn : (definitions.map EntityDefinition.name).Nodup) :
    definitions.find? (·.name == name) = some definition ↔
      definition ∈ definitions ∧ definition.name = name := by
  constructor
  · intro h
    exact ⟨List.mem_of_find?_eq_some h, by simpa using List.find?_some h⟩
  · rintro ⟨hin, rfl⟩
    cases hfind : definitions.find? (·.name == definition.name) with
    | none =>
      have hnone := List.find?_eq_none.1 hfind definition hin
      simp at hnone
    | some found =>
      have hname : found.name = definition.name := by simpa using List.find?_some hfind
      rw [List.inj_on_of_nodup_map hn (List.mem_of_find?_eq_some hfind) hin hname]

theorem mergedUser_eq {user : EntityDefinition}
    (hn : (definitions.map EntityDefinition.name).Nodup) (hin : user ∈ definitions)
    (hm : isManagedUser config user = true) :
    mergedUser config definitions = mergeUser (builtInUser config) user := by
  unfold mergedUser
  rw [(find?_name_eq_some hn).2 ⟨hin, (isManagedUser_iff.1 hm).2⟩]

/-- Without a definition of its name, the managed user is the built-in one. -/
theorem mergedUser_eq_builtIn (h : userEntity ∉ definitions.map EntityDefinition.name) :
    mergedUser config definitions = builtInUser config := by
  unfold mergedUser
  rw [List.find?_eq_none.2]
  intro definition hin
  simp only [beq_iff_eq]
  exact fun hname => h (hname ▸ List.mem_map_of_mem hin)

/-- The managed user comes from a given definition, or no definition has its name. -/
theorem mergedUser_cases (hn : (definitions.map EntityDefinition.name).Nodup)
    (hm : managesUsers config = true) :
    (∃ user ∈ definitions, isManagedUser config user = true ∧
      mergedUser config definitions = mergeUser (builtInUser config) user) ∨
    mergedUser config definitions = builtInUser config ∧
      ∀ definition ∈ definitions, isManagedUser config definition = false := by
  by_cases h : userEntity ∈ definitions.map EntityDefinition.name
  · obtain ⟨user, hin, hname⟩ := List.mem_map.1 h
    have hmanaged : isManagedUser config user = true := isManagedUser_iff.2 ⟨hm, hname⟩
    exact Or.inl ⟨user, hin, hmanaged, mergedUser_eq hn hin hmanaged⟩
  · refine Or.inr ⟨mergedUser_eq_builtIn h, fun definition hin => ?_⟩
    rw [isManagedUser, hm, Bool.true_and, beq_eq_false_iff_ne]
    exact fun hname => h (hname ▸ List.mem_map_of_mem hin)

theorem mem_names_registered :
    name ∈ (registered config definitions).map EntityDefinition.name ↔
      Registers config definitions name := by
  rw [List.mem_map]
  constructor
  · rintro ⟨definition, hin, rfl⟩
    rcases mem_registered.1 hin with ⟨hm, rfl⟩ | ⟨hin, _⟩
    · exact Or.inr ⟨hm, name_mergedUser _ _⟩
    · exact Or.inl (List.mem_map_of_mem hin)
  · rintro (hname | ⟨hm, rfl⟩)
    · obtain ⟨definition, hin, rfl⟩ := List.mem_map.1 hname
      cases hmanaged : isManagedUser config definition with
      | false => exact ⟨definition, mem_registered.2 (Or.inr ⟨hin, hmanaged⟩), rfl⟩
      | true =>
        obtain ⟨hm, hname⟩ := isManagedUser_iff.1 hmanaged
        exact ⟨_, mem_registered.2 (Or.inl ⟨hm, rfl⟩), (name_mergedUser _ _).trans hname.symm⟩
    · exact ⟨_, mem_registered.2 (Or.inl ⟨hm, rfl⟩), name_mergedUser _ _⟩

theorem declaredBy_registered (hn : (definitions.map EntityDefinition.name).Nodup) :
    DeclaredBy (registered config definitions) = DeclaredBy definitions := by
  funext name relationship
  apply propext
  constructor
  · rintro ⟨definition, hin, rfl, hr⟩
    rcases mem_registered.1 hin with ⟨hm, rfl⟩ | ⟨hin, _⟩
    · rcases mergedUser_cases hn hm with ⟨user, huser, hmanaged, heq⟩ | ⟨heq, _⟩
      · rw [heq] at hr
        refine ⟨user, huser, ?_, by simpa [mergeUser, builtInUser] using hr⟩
        rw [name_mergedUser, (isManagedUser_iff.1 hmanaged).2]
      · rw [heq] at hr
        cases hr
    · exact ⟨definition, hin, rfl, hr⟩
  · rintro ⟨definition, hin, rfl, hr⟩
    cases hmanaged : isManagedUser config definition with
    | false => exact ⟨definition, mem_registered.2 (Or.inr ⟨hin, hmanaged⟩), rfl, hr⟩
    | true =>
      obtain ⟨hm, hname⟩ := isManagedUser_iff.1 hmanaged
      refine ⟨_, mem_registered.2 (Or.inl ⟨hm, rfl⟩), ?_, ?_⟩
      · rw [name_mergedUser, hname]
      · rw [mergedUser_eq hn hin hmanaged]
        simpa [mergeUser, builtInUser] using hr

/-- A field that is new among those to come is the first of them, or is new behind the first. -/
theorem exists_new_cons {fields rest : List FieldDefinition} {first field : FieldDefinition} :
    (∃ before after, first :: rest = before ++ field :: after ∧
        field.name ∉ (fields ++ before).map FieldDefinition.name) ↔
      first = field ∧ field.name ∉ fields.map FieldDefinition.name ∨
      ∃ before after, rest = before ++ field :: after ∧
        field.name ∉ (fields ++ first :: before).map FieldDefinition.name := by
  constructor
  · rintro ⟨before, after, heq, hnew⟩
    cases before with
    | nil =>
      cases heq
      exact Or.inl ⟨rfl, by simpa using hnew⟩
    | cons head before =>
      cases heq
      exact Or.inr ⟨before, after, rfl, hnew⟩
  · rintro (⟨rfl, hnew⟩ | ⟨before, after, rfl, hnew⟩)
    · exact ⟨[], rest, rfl, by simpa using hnew⟩
    · exact ⟨first :: before, after, rfl, hnew⟩

/-- The fields that are added are those whose names are new, the first of each. -/
theorem mem_addNewFields {fields more : List FieldDefinition} {field : FieldDefinition} :
    field ∈ addNewFields fields more ↔ field ∈ fields ∨ ∃ before after,
      more = before ++ field :: after ∧
      field.name ∉ (fields ++ before).map FieldDefinition.name := by
  induction more generalizing fields with
  | nil => simp [addNewFields]
  | cons first rest ih =>
    unfold addNewFields
    rw [exists_new_cons]
    split
    · rename_i hknown
      -- a field whose name is there already is dropped, so its name adds none
      have hin : first.name ∈ fields.map FieldDefinition.name := by
        simpa [List.any_eq_true] using hknown
      rw [ih]
      refine or_congr_right ⟨?_, ?_⟩
      · rintro ⟨before, after, rfl, hnew⟩
        refine Or.inr ⟨before, after, rfl, ?_⟩
        simp only [List.map_append, List.map_cons, List.mem_append, List.mem_cons, not_or] at hnew ⊢
        exact ⟨hnew.1, fun hname => hnew.1 (hname ▸ hin), hnew.2⟩
      · rintro (⟨rfl, hnew⟩ | ⟨before, after, rfl, hnew⟩)
        · exact absurd hin hnew
        · refine ⟨before, after, rfl, fun hold => hnew ?_⟩
          simp only [List.map_append, List.map_cons, List.mem_append, List.mem_cons] at hold ⊢
          tauto
    · rename_i hnew
      have hout : first.name ∉ fields.map FieldDefinition.name := by
        simpa [List.any_eq_true] using hnew
      rw [ih, List.mem_append, List.mem_singleton, or_assoc]
      refine or_congr_right (or_congr ?_ ?_)
      · constructor
        · rintro rfl
          exact ⟨rfl, hout⟩
        · rintro ⟨rfl, _⟩
          rfl
      · simp

/-- Fields whose names are new are added, the first of each name. -/
theorem addNewFields_eq (fields more : List FieldDefinition) : addNewFields fields more = fields ++
    (more.filter fun field => !(fields.map FieldDefinition.name).contains field.name).eraseDupsBy
      fun field other => field.name == other.name := by
  induction more generalizing fields with
  | nil => simp [addNewFields]
  | cons field rest ih =>
    unfold addNewFields
    split
    · rename_i hknown
      rw [ih, List.filter_cons_of_neg]
      simpa [List.any_eq_true] using hknown
    · rename_i hnew
      rw [ih, List.filter_cons_of_pos (by simpa [List.any_eq_true] using hnew),
        List.eraseDupsBy_cons, List.filter_filter, List.append_assoc, List.singleton_append]
      congr 3
      refine List.filter_congr fun other _ => ?_
      simp [Bool.and_comm, Bool.beq_eq_decide_eq]

/-- What is added stands behind what was there. -/
theorem exists_new_addNewFields (fields more : List FieldDefinition) :
    ∃ new, addNewFields fields more = fields ++ new ∧ ∀ field ∈ new, field ∈ more := by
  induction more generalizing fields with
  | nil => exact ⟨[], (List.append_nil fields).symm, List.forall_mem_nil _⟩
  | cons field rest ih =>
    unfold addNewFields
    split
    · obtain ⟨new, heq, hnew⟩ := ih fields
      exact ⟨new, heq, fun other hin => List.mem_cons_of_mem _ (hnew other hin)⟩
    · obtain ⟨new, heq, hnew⟩ := ih (fields ++ [field])
      refine ⟨field :: new, by rw [heq, List.append_assoc, List.singleton_append], ?_⟩
      exact List.forall_mem_cons.2 ⟨List.mem_cons_self, fun other hin =>
        List.mem_cons_of_mem _ (hnew other hin)⟩

theorem nodup_addNewFields {fields more : List FieldDefinition}
    (h : (fields.map FieldDefinition.name).Nodup) :
    ((addNewFields fields more).map FieldDefinition.name).Nodup := by
  induction more generalizing fields with
  | nil => exact h
  | cons field rest ih =>
    unfold addNewFields
    split
    · exact ih h
    · rename_i hnew
      refine ih ?_
      rw [List.map_append]
      refine h.append (List.nodup_singleton _) (List.disjoint_singleton.2 ?_)
      simpa [List.any_eq_true] using hnew

theorem names_userFields (config : ApplicationConfig) :
    (userFields config).map FieldDefinition.name =
      ["id", "login", "firstName", "lastName", "email", "imageUrl", "activated", "langKey"] := rfl

/-- The fields of registered definitions are those that are kept, but for built-in ones. -/
theorem field_registered (hn : (definitions.map EntityDefinition.name).Nodup)
    {definition : EntityDefinition} (hin : definition ∈ registered config definitions)
    {field : FieldDefinition} (hfield : field ∈ definition.fields) :
    field.fieldType.isSome = true ∨
      ∃ given ∈ definitions, given.name = definition.name ∧ Keeps config given field := by
  rcases mem_registered.1 hin with ⟨hm, rfl⟩ | ⟨hin, hother⟩
  · rcases mergedUser_cases hn hm with ⟨user, huser, hmanaged, heq⟩ | ⟨heq, _⟩
    · rw [heq] at hfield
      rcases mem_addNewFields.1 hfield with hbuiltIn | hkept
      · exact Or.inl (fieldType_userFields hbuiltIn)
      · refine Or.inr ⟨user, huser, ?_, by rwa [Keeps, if_pos hmanaged]⟩
        rw [name_mergedUser, (isManagedUser_iff.1 hmanaged).2]
    · rw [heq] at hfield
      exact Or.inl (fieldType_userFields hfield)
  · refine Or.inr ⟨definition, hin, rfl, ?_⟩
    rwa [Keeps, hother, if_neg (by simp)]

/-- A field that is kept is one of a registered definition. -/
theorem field_of_keeps (hn : (definitions.map EntityDefinition.name).Nodup)
    {definition : EntityDefinition} (hin : definition ∈ definitions) {field : FieldDefinition}
    (hkept : Keeps config definition field) :
    ∃ given ∈ registered config definitions, field ∈ given.fields := by
  unfold Keeps at hkept
  split at hkept
  · rename_i hmanaged
    refine ⟨_, mem_registered.2 (Or.inl ⟨(isManagedUser_iff.1 hmanaged).1, rfl⟩), ?_⟩
    rw [mergedUser_eq hn hin hmanaged]
    exact mem_addNewFields.2 (Or.inr hkept)
  · rename_i hother
    exact ⟨definition, mem_registered.2 (Or.inr ⟨hin, by simpa using hother⟩), hkept⟩

/-! ## The order of the definitions -/

theorem mergedUser_of_perm {others : List EntityDefinition} (h : others.Perm definitions)
    (hn : (definitions.map EntityDefinition.name).Nodup) :
    mergedUser config others = mergedUser config definitions := by
  have hn' : (others.map EntityDefinition.name).Nodup := (h.map _).nodup_iff.2 hn
  by_cases hin : userEntity ∈ definitions.map EntityDefinition.name
  · obtain ⟨user, huser, hname⟩ := List.mem_map.1 hin
    unfold mergedUser
    rw [(find?_name_eq_some hn).2 ⟨huser, hname⟩,
      (find?_name_eq_some hn').2 ⟨h.mem_iff.2 huser, hname⟩]
  · rw [mergedUser_eq_builtIn hin, mergedUser_eq_builtIn fun hother =>
      hin ((h.map _).mem_iff.1 hother)]

theorem mem_registered_of_perm {others : List EntityDefinition} (h : others.Perm definitions)
    (hn : (definitions.map EntityDefinition.name).Nodup) {definition : EntityDefinition} :
    definition ∈ registered config others ↔ definition ∈ registered config definitions := by
  rw [mem_registered, mem_registered, mergedUser_of_perm h hn, h.mem_iff]

theorem CountsIds.mono {others : List EntityDefinition} (h : others ⊆ definitions) {count : Nat}
    (hcount : CountsIds others name count) : CountsIds definitions name count := by
  induction hcount with
  | intro counts hin _ ih => exact .intro counts (h hin) ih

theorem declaredBy_of_perm {others : List EntityDefinition} (h : others.Perm definitions) :
    DeclaredBy others = DeclaredBy definitions := by
  funext name relationship
  simp only [DeclaredBy, h.mem_iff]

theorem ManyToMany.of_declaredBy {others : List EntityDefinition}
    (h : DeclaredBy others = DeclaredBy definitions) (hm : ManyToMany others name other) :
    ManyToMany definitions name other := by
  cases hm with
  | declared hd hc => exact .declared (h ▸ hd) hc
  | added hd hc hi hmissing => exact .added (h ▸ hd) hc hi (h ▸ hmissing)

/-- No condition depends on the order of the definitions. -/
theorem Condition.holds_of_perm {others : List EntityDefinition} (h : others.Perm definitions)
    (hn : (definitions.map EntityDefinition.name).Nodup) {condition : Condition}
    (hc : condition.Holds config definitions) : condition.Holds config others := by
  cases condition with
  | named => exact fun definition hin => hc definition (h.mem_iff.1 hin)
  | typed => exact fun definition hin => hc definition (h.mem_iff.1 hin)
  | resolved =>
    intro name relationship hd
    rw [declaredBy_of_perm h] at hd
    exact (hc name relationship hd).imp_left fun hin => (h.map _).mem_iff.2 hin
  | supported =>
    intro name relationship hd
    rw [declaredBy_of_perm h] at hd
    exact hc name relationship hd
  | acyclic =>
    have heq : IdentifiedBy others = IdentifiedBy definitions := by
      funext name other
      simp only [IdentifiedBy, declaredBy_of_perm h]
    intro name
    rw [heq]
    exact hc name
  | simple =>
    have hcomposite : ∀ name, Composite (registered config others) name →
        Composite (registered config definitions) name := by
      rintro name ⟨count, hle, hcount⟩
      exact ⟨count, hle, hcount.mono fun _ => (mem_registered_of_perm h hn).1⟩
    intro name other hm
    have hor := hc name other (hm.of_declaredBy (declaredBy_of_perm h))
    exact hor.imp (mt (hcomposite name)) (mt (hcomposite other))

end EntityPipeline
