-- How relating fails. The targets of all relationships are looked up before anything is written, so
-- a reference that leads nowhere leaves everything as it was, and the first one is told. Failures
-- of another kind come later, when relationships and keys may have been written, and nothing else.
import EntityPipeline.Proofs.Preparation.Views

namespace EntityPipeline

variable {α : Type} {registry : Registry}

/-! ## References -/

/-- A relationship as the entity of a name declares it. -/
structure Reference where
  owner : String
  relationship : RelationshipDefinition

namespace Reference

/-- Whether no entity of a registry has the name that a reference leads to. -/
def isUnresolved (registry : Registry) (reference : Reference) : Bool :=
  !registry.names.contains reference.relationship.otherEntity

/-- What is told of a reference that leads nowhere. -/
def failure (reference : Reference) : Failure :=
  .unresolvedReference reference.owner reference.relationship.effectiveName
    reference.relationship.otherEntity

end Reference

/-- The references of an entity in the order of their declaration. -/
def Slot.references (slot : Slot) : List Reference :=
  slot.entity.definition.relationships.map (Reference.mk slot.entity.name)

/-- The references of all entities in the order of their registration. -/
def Registry.references (registry : Registry) : List Reference :=
  registry.slots.flatMap Slot.references

/-- The first reference that leads nowhere. -/
def Registry.firstUnresolved? (registry : Registry) : Option Reference :=
  registry.references.find? (Reference.isUnresolved registry)

/-- The failure of a result, if it is one. -/
def failureOf : Except Failure α → Option Failure
  | .ok _ => none
  | .error failure => some failure

theorem isUnresolved_eq (registry : Registry) (reference : Reference) :
    reference.isUnresolved registry =
      (registry.placeOf? reference.relationship.otherEntity).isNone := by
  unfold Reference.isUnresolved Registry.names Registry.placeOf?
  rw [List.findIdx?_isNone, List.contains_eq_any_beq, List.any_map, List.not_any_eq_all_not]
  congr 1
  funext slot
  rw [Function.comp_apply, Bool.beq_comm, decide_not, Bool.decide_eq_true]

theorem failureOf_resolveEach (registry : Registry) (owner : String)
    (definitions : List RelationshipDefinition) :
    failureOf (resolveEach registry owner definitions) =
      ((definitions.map (Reference.mk owner)).find? (Reference.isUnresolved registry)).map
        Reference.failure := by
  induction definitions with
  | nil => rfl
  | cons definition rest ih =>
    have hfirst := isUnresolved_eq registry ⟨owner, definition⟩
    rw [List.map_cons, List.find?_cons, hfirst, resolveEach]
    cases registry.placeOf? definition.otherEntity with
    | none => rfl
    | some target =>
      dsimp only [Option.isNone_some]
      rw [← ih]
      cases resolveEach registry owner rest <;> rfl

/-- Looking up all targets fails with the first reference that leads nowhere. -/
theorem failureOf_resolveAll (registry : Registry) (slots : List Slot) :
    failureOf (resolveAll registry slots) =
      ((slots.flatMap Slot.references).find? (Reference.isUnresolved registry)).map
        Reference.failure := by
  induction slots with
  | nil => rfl
  | cons slot rest ih =>
    have hfirst := failureOf_resolveEach registry slot.entity.name
      slot.entity.definition.relationships
    rw [List.flatMap_cons, List.find?_append, Option.map_or, ← ih]
    unfold Slot.references
    rw [← hfirst, resolveAll]
    cases resolveEach registry slot.entity.name slot.entity.definition.relationships with
    | error e => rfl
    | ok relationships => cases resolveAll registry rest <;> rfl

theorem relate_of_unresolved {reference : Reference}
    (h : registry.firstUnresolved? = some reference) :
    relate registry = (registry, .error reference.failure) := by
  have hfailure : failureOf (resolveAll registry registry.slots) = some reference.failure := by
    rw [failureOf_resolveAll]
    exact congrArg _ h
  unfold relate
  cases hresolve : resolveAll registry registry.slots with
  | ok relationships =>
    rw [hresolve] at hfailure
    cases hfailure
  | error e =>
    rw [hresolve] at hfailure
    cases hfailure
    rfl

/-! ## Later failures -/

/-- What stops relating once the targets of all relationships are found. -/
inductive Failure.StopsRelating : Failure → Prop
  | frozen (name : String) : (Failure.entityFrozen name).StopsRelating
  | missing (name : String) : (Failure.entityNotFound name).StopsRelating
  | invalid (owner name reason : String) :
      (Failure.invalidRelationship owner name reason).StopsRelating

/-- A result whose failure, if it is one, stops relating. -/
def Stops (result : Except Failure α) : Prop := ∀ e, result = .error e → e.StopsRelating

theorem stops_ok (a : α) : Stops (.ok a : Except Failure α) := by
  rintro e ⟨⟩

theorem stops_error {e : Failure} (h : e.StopsRelating) : Stops (.error e : Except Failure α) := by
  rintro _ ⟨⟩
  exact h

theorem stops_update (slot : Slot) (change : Entity → Entity) : Stops (slot.update change) := by
  unfold Slot.update
  split
  · exact stops_error (.frozen _)
  · exact stops_ok _

theorem stops_updatePlace (registry : Registry) (place : Nat) (change : Entity → Entity) :
    Stops (registry.updatePlace place change) := by
  unfold Registry.updatePlace Registry.updateAt
  split
  · exact stops_error (.missing _)
  · rename_i slot _
    have hslot := stops_update slot change
    split
    · rename_i he
      exact stops_error (hslot _ he)
    · exact stops_ok _

theorem stops_setRelationships (slots : List Slot) (relationships : List (List Relationship)) :
    Stops (setRelationships slots relationships).2 := by
  fun_induction setRelationships slots relationships with
  | case1 slot slots relationships others e he => exact stops_error (stops_update _ _ _ he)
  | case2 slot slots relationships others changed he rest result hrest ih => rwa [hrest] at ih
  | case3 => exact stops_ok ()

theorem stops_appendAll (registry : Registry) (additions : List Addition) :
    Stops (appendAll registry additions).2 := by
  induction additions generalizing registry with
  | nil => exact stops_ok ()
  | cons addition rest ih =>
    unfold appendAll
    dsimp only
    split
    · rename_i he
      exact stops_error (stops_updatePlace _ _ _ _ he)
    · exact ih _

theorem stops_checkIdRelationships (slots : List Slot) : Stops (checkIdRelationships slots) := by
  induction slots with
  | nil => exact stops_ok ()
  | cons slot rest ih =>
    unfold checkIdRelationships
    split
    · exact stops_error (.invalid _ _ _)
    · exact ih

theorem stops_ownKeys (registry : Registry) (places : List Nat) :
    Stops (ownKeys registry places).2.2 := by
  fun_induction ownKeys registry places with
  | case1 => exact stops_ok ()
  | case2 registry place rest hnone ih => exact ih
  | case3 registry place rest entity hsome hempty e he =>
    exact stops_error (stops_updatePlace _ _ _ _ he)
  | case4 registry place rest entity hsome hempty changed he ih => exact ih
  | case5 registry place rest entity hsome hnonempty changed waiting result hrest ih =>
    rwa [hrest] at ih

theorem stops_borrowPass (registry : Registry) (places : List Nat) :
    Stops (borrowPass registry places).2.2 := by
  fun_induction borrowPass registry places with
  | case1 => exact stops_ok ()
  | case2 registry place rest hnone ih => exact ih
  | case3 registry place rest entity hsome borrowed hborrowed e he =>
    exact stops_error (stops_updatePlace _ _ _ _ he)
  | case4 registry place rest entity hsome borrowed hborrowed changed he ih => exact ih
  | case5 registry place rest entity hsome hnone changed waiting result hrest ih =>
    rwa [hrest] at ih

theorem stops_borrowKeys (passes : Nat) (registry : Registry) (waiting : List Nat) :
    Stops (borrowKeys passes registry waiting).2 := by
  fun_induction borrowKeys passes registry waiting with
  | case1 => exact stops_ok ()
  | case2 => exact stops_error (.invalid _ _ _)
  | case3 passes registry waiting _ changed still e hpass =>
    have hstops := stops_borrowPass registry waiting
    rw [hpass] at hstops
    exact hstops
  | case4 passes registry waiting _ changed still hpass hless ih => exact ih
  | case5 => exact stops_error (.invalid _ _ _)

theorem stops_deriveKeys (registry : Registry) : Stops (deriveKeys registry).2 := by
  unfold deriveKeys
  have hown := stops_ownKeys registry registry.places
  generalize ownKeys registry registry.places = own at hown ⊢
  obtain ⟨changed, waiting, result⟩ := own
  dsimp only
  split
  · exact hown
  · exact stops_borrowKeys _ _ _

theorem stops_checkManyToMany (registry : Registry) (places : List Nat) :
    Stops (checkManyToMany registry places) := by
  induction places with
  | nil => exact stops_ok ()
  | cons place rest ih =>
    unfold checkManyToMany
    split
    · exact ih
    · dsimp only
      split
      · exact stops_error (.invalid _ _ _)
      · exact ih

/-- Where every reference is resolved, relating fails by what stops it later. -/
theorem stops_relate (h : registry.firstUnresolved? = none) : Stops (relate registry).2 := by
  have hfailure : failureOf (resolveAll registry registry.slots) = none := by
    rw [failureOf_resolveAll]
    exact congrArg _ h
  unfold relate
  split
  · rename_i he
    rw [he] at hfailure
    cases hfailure
  have hset := stops_setRelationships registry.slots ‹_›
  generalize setRelationships registry.slots _ = set at hset ⊢
  obtain ⟨slots, result⟩ := set
  dsimp only
  split
  · exact hset
  have happend := stops_appendAll ⟨slots⟩ (missingInverses ⟨slots⟩)
  generalize appendAll ⟨slots⟩ _ = appended at happend ⊢
  obtain ⟨grown, result⟩ := appended
  dsimp only
  split
  · exact happend
  split
  · rename_i he
    exact stops_error (stops_checkIdRelationships _ _ he)
  have hkeys := stops_deriveKeys grown
  generalize deriveKeys grown = derived at hkeys ⊢
  obtain ⟨keyed, result⟩ := derived
  dsimp only
  split
  · exact hkeys
  · exact stops_checkManyToMany _ _

/-! ## What is left -/

/-- A slot but for what relating writes: its entity without relationships and without a key. -/
def Slot.unrelated (slot : Slot) : Slot :=
  { slot with entity := { slot.entity with relationships := [], primaryKey := none } }

/-- What a relating leaves that may fail. -/
structure FailsCleanly (context : Context) (outcome : Outcome Context Unit) : Prop where
  first : ∀ reference, context.entities.firstUnresolved? = some reference →
    outcome.result = .error reference.failure
  unresolved : ∀ owner name other,
    outcome.result = .error (.unresolvedReference owner name other) →
      outcome.state = context ∧ ∃ reference,
        context.entities.firstUnresolved? = some reference ∧
        reference.owner = owner ∧ reference.relationship.effectiveName = name ∧
        reference.relationship.otherEntity = other
  elsewhere : outcome.state = { context with entities := outcome.state.entities }
  entities : outcome.state.entities.slots.map Slot.unrelated =
    context.entities.slots.map Slot.unrelated

/-- Whatever it is done to, relating that fails with a reference has changed nothing, and the
reference is the first one that leads nowhere; if it fails otherwise, nothing but relationships and
keys has changed. -/
theorem failed_relating_is_clean (context : Context) :
    FailsCleanly context (prepareRelationships context) := by
  have hunresolved {reference : Reference}
      (h : context.entities.firstUnresolved? = some reference) :
      prepareRelationships context = ⟨.error reference.failure, context, []⟩ := by
    unfold prepareRelationships
    rw [relate_of_unresolved h]
  refine ⟨fun reference h => by rw [hunresolved h], fun owner name other herror => ?_, rfl,
    seen_relate (fun _ _ => rfl) fun _ _ => rfl⟩
  cases hfirst : context.entities.firstUnresolved? with
  | none => cases stops_relate hfirst _ herror
  | some reference =>
    rw [hunresolved hfirst] at herror ⊢
    cases herror
    exact ⟨rfl, reference, rfl, rfl, rfl, rfl⟩

/-- Entities with their fields, of an application without users. -/
def filledContext (definitions : List EntityDefinition) : Context :=
  (Action.forEach Phase.run [.load, .names, .fields]
    (.ofDefinitions { skipUserManagement := true } definitions)).state

/-- Books on shelves, of which neither these nor their printer are registered. -/
def shelvedBooks : Context := filledContext [
  { name := "Author"
    relationships := [{ cardinality := .oneToMany, otherEntity := "Book" }] },
  { name := "Book"
    relationships := [{ cardinality := .manyToOne, otherEntity := "Author" },
      { cardinality := .manyToOne, name := some "printer", otherEntity := "Company" },
      { cardinality := .manyToOne, otherEntity := "Shelf" }] }]

/-- A lock and a key, each of which is identified by the other. -/
def lockAndKey : Context := filledContext [
  { name := "Door" },
  { name := "Lock"
    relationships := [{ cardinality := .manyToOne, otherEntity := "Key", id := some true }] },
  { name := "Key"
    relationships := [{ cardinality := .manyToOne, otherEntity := "Lock", id := some true }] }]

theorem books_fail_with_their_printer_and_locks_with_a_circle :
    (prepareRelationships shelvedBooks).result =
      .error (.unresolvedReference "Book" "printer" "Company") ∧
    (prepareRelationships shelvedBooks).state = shelvedBooks ∧
    (prepareRelationships lockAndKey).result = .error (.invalidRelationship "Lock" "key"
      "id relationships form a cycle, no primary key can be derived") ∧
    (prepareRelationships lockAndKey).state.entities.entities.map
      (fun entity => (entity.relationships.length, entity.primaryKey.isSome)) =
        [(0, true), (1, false), (1, false)] ∧
    (prepareRelationships lockAndKey).state.entities.slots.map Slot.unrelated =
      lockAndKey.entities.slots.map Slot.unrelated :=
  have hbooks : (prepareRelationships shelvedBooks).result =
    .error (.unresolvedReference "Book" "printer" "Company") := rfl
  ⟨hbooks, ((failed_relating_is_clean shelvedBooks).unresolved _ _ _ hbooks).1, rfl, rfl,
    (failed_relating_is_clean lockAndKey).entities⟩

end EntityPipeline
