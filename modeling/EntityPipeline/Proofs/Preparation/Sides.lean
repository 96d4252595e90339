-- The relationships that entities come to have: the declared ones with their targets found, then
-- the other sides that were missing. An added side never identifies its entity, and it stands
-- between the same two entities as the relationship it belongs to.
import EntityPipeline.Preparation.Inverses
import EntityPipeline.Proofs.Preparation.Loading

namespace EntityPipeline

variable {entities : List Entity} {e : Failure}

/-! ## Declared relationships -/

/-- The place of a name among entities. -/
def placeIn (entities : List Entity) (name : String) : Nat :=
  entities.findIdx (·.name == name)

/-- An entity with its declared relationships. -/
def withDeclared (entities : List Entity) (entity : Entity) : Entity :=
  { entity with relationships := entity.definition.relationships.map fun definition =>
      declaredRelationship definition (placeIn entities definition.otherEntity) }

theorem placeOf?_unfrozen_eq {name : String} (h : name ∈ entities.map Entity.name) :
    (Registry.unfrozen entities).placeOf? name = some (placeIn entities name) := by
  obtain ⟨entity, hin, rfl⟩ := List.mem_map.1 h
  rw [Registry.placeOf?_unfrozen]
  exact List.findIdx?_eq_some_of_exists ⟨entity, hin, beq_self_eq_true _⟩

theorem placeOf?_unfrozen_eq_none {name : String} (h : name ∉ entities.map Entity.name) :
    (Registry.unfrozen entities).placeOf? name = none := by
  rw [Registry.placeOf?_unfrozen, List.findIdx?_eq_none_iff]
  intro entity hin
  rw [beq_eq_false_iff_ne]
  rintro rfl
  exact h (List.mem_map_of_mem hin)

/-- The declared relationships of one entity are resolved when all their other entities are
registered. -/
theorem resolveEach_outcome (entities : List Entity) (entity : String)
    (definitions : List RelationshipDefinition) :
    ((∀ r ∈ definitions, r.otherEntity ∈ entities.map Entity.name) ∧
      resolveEach (.unfrozen entities) entity definitions = .ok (definitions.map fun definition =>
        declaredRelationship definition (placeIn entities definition.otherEntity))) ∨
    ∃ r ∈ definitions, r.otherEntity ∉ entities.map Entity.name ∧
      resolveEach (.unfrozen entities) entity definitions =
        .error (.unresolvedReference entity r.effectiveName r.otherEntity) := by
  induction definitions with
  | nil => exact Or.inl ⟨by simp, rfl⟩
  | cons r rest ih =>
    unfold resolveEach
    by_cases hr : r.otherEntity ∈ entities.map Entity.name
    · rw [placeOf?_unfrozen_eq hr]
      rcases ih with ⟨hall, heq⟩ | ⟨other, hother, hmissing, heq⟩
      · exact Or.inl ⟨List.forall_mem_cons.2 ⟨hr, hall⟩, by simp [heq]⟩
      · exact Or.inr ⟨other, List.mem_cons_of_mem _ hother, hmissing, by simp [heq]⟩
    · rw [placeOf?_unfrozen_eq_none hr]
      exact Or.inr ⟨r, List.mem_cons_self, hr, rfl⟩

/-- The declared relationships of all entities are resolved when all their other entities are
registered. -/
theorem resolveAll_outcome (entities part : List Entity) :
    ((∀ entity ∈ part, ∀ r ∈ entity.definition.relationships,
        r.otherEntity ∈ entities.map Entity.name) ∧
      resolveAll (.unfrozen entities) (Registry.unfrozen part).slots =
        .ok (part.map fun entity => (withDeclared entities entity).relationships)) ∨
    ∃ entity ∈ part, ∃ r ∈ entity.definition.relationships,
      r.otherEntity ∉ entities.map Entity.name ∧
      resolveAll (.unfrozen entities) (Registry.unfrozen part).slots =
        .error (.unresolvedReference entity.name r.effectiveName r.otherEntity) := by
  induction part with
  | nil => exact Or.inl ⟨by simp, rfl⟩
  | cons entity rest ih =>
    rw [Registry.slots_unfrozen_cons, resolveAll]
    rcases resolveEach_outcome entities entity.name entity.definition.relationships with
      ⟨hfound, heq⟩ | ⟨r, hr, hmissing, heq⟩
    · simp only [heq]
      rcases ih with ⟨hall, hrest⟩ | ⟨other, hother, r, hr, hmissing, hrest⟩
      · refine Or.inl ⟨List.forall_mem_cons.2 ⟨hfound, hall⟩, ?_⟩
        simp [hrest, withDeclared]
      · exact Or.inr ⟨other, List.mem_cons_of_mem _ hother, r, hr, hmissing, by simp [hrest]⟩
    · exact Or.inr ⟨entity, List.mem_cons_self, r, hr, hmissing, by simp [heq]⟩

/-- Open slots get the relationships that are meant for them. -/
theorem setRelationships_eq (entities part : List Entity) :
    setRelationships (Registry.unfrozen part).slots
      (part.map fun entity => (withDeclared entities entity).relationships) =
        ((Registry.unfrozen (part.map (withDeclared entities))).slots, .ok ()) := by
  induction part with
  | nil => rfl
  | cons entity rest ih =>
    rw [Registry.slots_unfrozen_cons, List.map_cons, setRelationships, ih]
    rfl

/-! ## Added sides -/

/-- Where an added side comes from: a relationship that names it and leads to where it is added. -/
structure Addition.Mirrors (addition : Addition) (entities : List Entity) (place : Nat)
    (source : Entity) (relationship : Relationship) (name : String) : Prop where
  at_place : entities[place]? = some source
  of_source : relationship ∈ source.relationships
  names_it : relationship.inverseName = some name
  leads_there : relationship.target = some addition.place
  is_inverse : addition.relationship = inverseRelationship source.name place relationship name
  inside : addition.place < entities.length

/-- An addition that some relationship of the entities calls for. -/
def Addition.IsMirror (entities : List Entity) (addition : Addition) : Prop :=
  ∃ place source relationship name,
    addition.Mirrors entities place source relationship name

theorem isMirror_of_mem_addInverse {place : Nat} {source : Entity} {additions : List Addition}
    {relationship : Relationship} (hsource : entities[place]? = some source)
    (hdeclared : relationship ∈ source.relationships)
    (h : ∀ addition ∈ additions, addition.IsMirror entities) :
    ∀ addition ∈ addInverse (.unfrozen entities) source place additions relationship,
      addition.IsMirror entities := by
  unfold addInverse
  split
  · rename_i name target hname htarget
    split
    · exact h
    · rename_i hnew
      intro addition hin
      rcases List.mem_append.1 hin with hin | hin
      · exact h addition hin
      · rw [List.mem_singleton] at hin
        subst hin
        refine ⟨place, source, relationship, name, hsource, hdeclared, hname, htarget, rfl, ?_⟩
        simp only [Bool.or_eq_true, not_or, Registry.resolve?_unfrozen] at hnew
        by_contra hle
        exact hnew.1 (by simp [List.getElem?_eq_none (Nat.le_of_not_lt hle)])
  · exact h

/-- Every side that is missing is called for. -/
theorem isMirror_of_mem_missingInverses (entities : List Entity) :
    ∀ addition ∈ missingInverses (.unfrozen entities), addition.IsMirror entities := by
  unfold missingInverses
  refine List.foldlRecOn (motive := fun additions : List Addition =>
    ∀ addition ∈ additions, addition.IsMirror entities) _ _ (by simp) ?_
  intro additions h place _
  split
  · exact h
  · rename_i source hsource
    rw [Registry.resolve?_unfrozen] at hsource
    exact List.foldlRecOn (motive := fun additions : List Addition =>
      ∀ addition ∈ additions, addition.IsMirror entities) _ _ h
      fun additions h relationship hr => isMirror_of_mem_addInverse hsource hr h

/-- An entity with the relationship of an addition after its own. -/
def Addition.extend (addition : Addition) (entity : Entity) : Entity :=
  { entity with relationships := entity.relationships ++ [addition.relationship] }

/-- Entities with relationships added at their places. -/
def withAdded (entities : List Entity) (additions : List Addition) : List Entity :=
  additions.foldl (fun entities addition => entities.modify addition.place addition.extend) entities

theorem appendAll_eq {additions : List Addition}
    (h : ∀ addition ∈ additions, addition.place < entities.length) :
    appendAll (.unfrozen entities) additions =
      (.unfrozen (withAdded entities additions), .ok ()) := by
  induction additions generalizing entities with
  | nil => rfl
  | cons addition rest ih =>
    obtain ⟨hfirst, hrest⟩ := List.forall_mem_cons.1 h
    have hupdate : (Registry.unfrozen entities).updatePlace addition.place addition.extend =
        .ok (.unfrozen (entities.modify addition.place addition.extend)) :=
      Registry.updatePlace_unfrozen hfirst fun _ => rfl
    unfold appendAll
    unfold Addition.extend at hupdate
    simp only [hupdate]
    exact ih (by simpa using hrest)

@[simp] theorem length_withAdded (entities : List Entity) (additions : List Addition) :
    (withAdded entities additions).length = entities.length := by
  induction additions generalizing entities with
  | nil => rfl
  | cons addition rest ih =>
    have hrest := ih (entities.modify addition.place addition.extend)
    rwa [List.length_modify] at hrest

/-- An entity gets the relationships that are added at its place, after its own. -/
theorem getElem?_withAdded (entities : List Entity) (additions : List Addition) (place : Nat) :
    (withAdded entities additions)[place]? = entities[place]?.map fun entity =>
      { entity with relationships := entity.relationships ++
          (additions.filter (·.place == place)).map Addition.relationship } := by
  induction additions generalizing entities with
  | nil => simp [withAdded]
  | cons addition rest ih =>
    have hstep : withAdded entities (addition :: rest) =
        withAdded (entities.modify addition.place addition.extend) rest := rfl
    rw [hstep, ih, List.getElem?_modify]
    by_cases hplace : addition.place = place
    · simp [hplace, Function.comp_def, Addition.extend]
    · simp [hplace]

end EntityPipeline
