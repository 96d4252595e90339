-- Which other sides relating adds. The loop goes over all relationships in order and adds the side
-- that one calls for, unless its target has a relationship of that name or is about to get one. So
-- every added side belongs to the first relationship that calls for it, no name is added twice, and
-- no call is left without a relationship of its name.
import EntityPipeline.Proofs.Preparation.PrimaryKeys
import EntityPipeline.Proofs.Preparation.Views

namespace EntityPipeline

/-! ## Relationships in order -/

/-- A relationship with the place and the name of the entity that has it. -/
structure Link where
  place : Nat
  owner : String
  relationship : Relationship
deriving DecidableEq, Repr

namespace Link

/-- Whether a relationship leads to a target and names there another side. -/
def calls (target : Nat) (name : String) (link : Link) : Bool :=
  link.relationship.target == some target && link.relationship.inverseName == some name

theorem calls_iff {link : Link} {target : Nat} {name : String} : link.calls target name = true ↔
    link.relationship.target = some target ∧ link.relationship.inverseName = some name := by
  simp [calls]

/-- The other side of a relationship, under a name. -/
def otherSide (link : Link) (name : String) : Relationship :=
  inverseRelationship link.owner link.place link.relationship name

end Link

/-- The relationships of the entity at a place. -/
def Entity.links (place : Nat) (entity : Entity) : List Link :=
  entity.relationships.map (⟨place, entity.name, ·⟩)

/-- All relationships, in the order of registration and within an entity in its own. -/
def Registry.links (registry : Registry) : List Link :=
  registry.places.flatMap fun place => (registry.resolve? place).elim [] (Entity.links place)

/-- The declared relationships among them. -/
def Registry.declaredLinks (registry : Registry) : List Link :=
  registry.links.filter (!·.relationship.synthesized)

/-! ## One relationship after the other -/

variable {registry changed : Registry} {additions : List Addition} {done : List Link} {link : Link}
  {place target : Nat} {name : String}

/-- The additions with the other side that one relationship calls for, if that is missing. -/
def addCalled (registry : Registry) (additions : List Addition) (link : Link) : List Addition :=
  match link.relationship.inverseName, link.relationship.target with
  | some name, some target =>
    if (registry.resolve? target).isNone || hasSide registry additions target name then additions
    else additions ++ [⟨target, link.otherSide name⟩]
  | _, _ => additions

/-- The missing sides are those that the relationships call for one after the other. -/
theorem missingInverses_eq (registry : Registry) :
    missingInverses registry = registry.links.foldl (addCalled registry) [] := by
  unfold missingInverses Registry.links
  rw [List.foldl_flatMap]
  congr 1
  funext additions place
  cases registry.resolve? place with
  | none => rfl
  | some entity =>
    show entity.relationships.foldl (addInverse registry entity place) additions =
      (entity.relationships.map _).foldl (addCalled registry) additions
    rw [List.foldl_map]
    rfl

theorem hasSide_iff : hasSide registry additions target name = true ↔
    (∃ entity, registry.resolve? target = some entity ∧
      name ∈ entity.relationships.map Relationship.name) ∨
    ∃ addition ∈ additions, addition.place = target ∧ addition.relationship.name = name := by
  simp [hasSide, Option.any_eq_true]

/-- What the additions are once some relationships have been gone through. -/
structure Served (registry : Registry) (done : List Link) (additions : List Addition) : Prop where
  first : ∀ addition ∈ additions, ∃ link,
    done.find? (Link.calls addition.place addition.relationship.name) = some link ∧
      addition.relationship = link.otherSide addition.relationship.name
  new : ∀ addition ∈ additions, ∃ entity, registry.resolve? addition.place = some entity ∧
    addition.relationship.name ∉ entity.relationships.map Relationship.name
  distinct : additions.Pairwise fun a b =>
    a.place = b.place → a.relationship.name ≠ b.relationship.name
  answered : ∀ link ∈ done, ∀ target name, link.calls target name = true →
    (registry.resolve? target).isSome = true → hasSide registry additions target name = true

theorem served_nil (registry : Registry) : Served registry [] [] where
  first := List.forall_mem_nil _
  new := List.forall_mem_nil _
  distinct := List.Pairwise.nil
  answered := List.forall_mem_nil _

/-- A relationship whose call needs no answer leaves the additions as they are. -/
theorem Served.unchanged (h : Served registry done additions)
    (hlink : ∀ target name, link.calls target name = true →
      (registry.resolve? target).isSome = true → hasSide registry additions target name = true) :
    Served registry (done ++ [link]) additions where
  first addition hin := by
    obtain ⟨first, hfirst, heq⟩ := h.first addition hin
    exact ⟨first, by rw [List.find?_append, hfirst, Option.some_or], heq⟩
  new := h.new
  distinct := h.distinct
  answered := List.forall_mem_append.2 ⟨h.answered, List.forall_mem_singleton.2 hlink⟩

/-- A call that nothing answers yet is the first one for its side. -/
theorem Served.find?_eq_none (h : Served registry done additions)
    (hsome : (registry.resolve? target).isSome = true)
    (hside : hasSide registry additions target name = false) :
    done.find? (Link.calls target name) = none := by
  refine List.find?_eq_none.2 fun link hin hcalls => ?_
  rw [h.answered link hin target name hcalls hsome] at hside
  cases hside

/-- A relationship that calls for a side nothing answers gets it. -/
theorem Served.added (h : Served registry done additions) (hcalls : link.calls target name = true)
    (hsome : (registry.resolve? target).isSome = true)
    (hside : hasSide registry additions target name = false) :
    Served registry (done ++ [link]) (additions ++ [⟨target, link.otherSide name⟩]) := by
  have hfree := mt hasSide_iff.2 (Bool.not_eq_true _ ▸ hside)
  rw [not_or] at hfree
  obtain ⟨entity, hentity⟩ := Option.isSome_iff_exists.1 hsome
  refine ⟨List.forall_mem_append.2 ⟨fun addition hin => ?_, List.forall_mem_singleton.2 ?_⟩,
    List.forall_mem_append.2 ⟨h.new, List.forall_mem_singleton.2 ⟨entity, hentity, ?_⟩⟩,
    List.pairwise_append.2 ⟨h.distinct, List.pairwise_singleton _ _, ?_⟩,
    List.forall_mem_append.2 ⟨fun former hin other inverse hformer hother => ?_,
      List.forall_mem_singleton.2 fun other inverse hlink _ => ?_⟩⟩
  · obtain ⟨first, hfirst, heq⟩ := h.first addition hin
    exact ⟨first, by rw [List.find?_append, hfirst, Option.some_or], heq⟩
  · refine ⟨link, ?_, rfl⟩
    show (done ++ [link]).find? (Link.calls target name) = some link
    rw [List.find?_append, h.find?_eq_none hsome hside, Option.none_or, List.find?_cons, hcalls]
  · exact fun hin => hfree.1 ⟨entity, hentity, hin⟩
  · intro addition hin fresh hfresh hplace hname
    obtain rfl := List.mem_singleton.1 hfresh
    exact hfree.2 ⟨addition, hin, hplace, hname⟩
  · -- what was answered before still is
    rcases hasSide_iff.1 (h.answered former hin other inverse hformer hother) with
      hown | ⟨addition, hin, hplace⟩
    · exact hasSide_iff.2 (Or.inl hown)
    · exact hasSide_iff.2 (Or.inr ⟨addition, List.mem_append_left _ hin, hplace⟩)
  · obtain ⟨htarget, hname⟩ := Link.calls_iff.1 hcalls
    obtain ⟨hother, hinverse⟩ := Link.calls_iff.1 hlink
    obtain rfl := Option.some.inj (htarget.symm.trans hother)
    obtain rfl := Option.some.inj (hname.symm.trans hinverse)
    exact hasSide_iff.2 (Or.inr ⟨_, List.mem_append_right _ (List.mem_singleton_self _), rfl, rfl⟩)

theorem Served.step (h : Served registry done additions) (link : Link) :
    Served registry (done ++ [link]) (addCalled registry additions link) := by
  unfold addCalled
  split
  · rename_i name target hname htarget
    have hcalls : link.calls target name = true := Link.calls_iff.2 ⟨htarget, hname⟩
    split
    · rename_i hskip
      refine h.unchanged fun other inverse hlink hsome => ?_
      obtain ⟨hother, hinverse⟩ := Link.calls_iff.1 hlink
      obtain rfl := Option.some.inj (htarget.symm.trans hother)
      obtain rfl := Option.some.inj (hname.symm.trans hinverse)
      simpa [Option.isSome_iff_ne_none.1 hsome] using hskip
    · rename_i hmissing
      simp only [Bool.or_eq_true, not_or, Bool.not_eq_true, Option.isNone_eq_false_iff] at hmissing
      exact h.added hcalls hmissing.1 hmissing.2
  · rename_i hnone
    refine h.unchanged fun other inverse hlink _ => ?_
    obtain ⟨hother, hinverse⟩ := Link.calls_iff.1 hlink
    exact absurd hother (hnone _ _ hinverse)

theorem Served.run (h : Served registry done additions) (rest : List Link) :
    Served registry (done ++ rest) (rest.foldl (addCalled registry) additions) := by
  induction rest generalizing done additions with
  | nil => simpa using h
  | cons link rest ih => simpa using ih (h.step link)

/-- The missing sides answer all relationships of the registry. -/
theorem served_missingInverses (registry : Registry) :
    Served registry registry.links (missingInverses registry) := by
  rw [missingInverses_eq]
  exact (served_nil registry).run registry.links

/-! ## Step by step -/

theorem getElem?_of_seen {γ : Type} {view : Slot → γ} {before after : Registry}
    (h : after.seen view = before.seen view) (place : Nat) :
    after.slots[place]?.map view = before.slots[place]?.map view := by
  rw [← List.getElem?_map, ← List.getElem?_map]
  exact congrArg (·[place]?) h

theorem resolve?_updatePlace {change : Entity → Entity}
    (h : registry.updatePlace place change = .ok changed) (other : Nat) :
    changed.resolve? other =
      if place = other then (registry.resolve? other).map change else registry.resolve? other := by
  unfold Registry.updatePlace Registry.updateAt at h
  split at h
  · cases h
  · rename_i slot hslot
    split at h
    · cases h
    · rename_i new hnew
      obtain rfl := Except.ok.inj h
      have hentity : new.entity = change slot.entity := by
        unfold Slot.update at hnew
        split at hnew
        · cases hnew
        · obtain rfl := Except.ok.inj hnew
          rfl
      obtain ⟨hlt, rfl⟩ := List.getElem?_eq_some_iff.1 hslot
      unfold Registry.resolve?
      rw [List.getElem?_set]
      split
      · rename_i hplace
        subst hplace
        simp [hlt, hentity]
      · rfl

/-- The relationships that additions bring to a place. -/
def addedTo (additions : List Addition) (place : Nat) : List Relationship :=
  (additions.filter (·.place == place)).map Addition.relationship

/-- Every entity gets the relationships that are added at its place, after its own. -/
theorem resolve?_appendAll (h : (appendAll registry additions).2 = .ok ()) (place : Nat) :
    (appendAll registry additions).1.resolve? place = (registry.resolve? place).map fun entity =>
      { entity with relationships := entity.relationships ++ addedTo additions place } := by
  induction additions generalizing registry with
  | nil => simp [appendAll, addedTo]
  | cons addition rest ih =>
    unfold appendAll at h ⊢
    dsimp only at h ⊢
    split at h
    · cases h
    · rename_i changed hchanged
      rw [ih h, resolve?_updatePlace hchanged]
      by_cases hplace : addition.place = place
      · simp [hplace, addedTo, Function.comp_def]
      · simp [hplace, addedTo]

/-- A declared relationship with the place of its target in a registry. -/
def Registry.declared (registry : Registry) (definition : RelationshipDefinition) : Relationship :=
  declaredRelationship definition ((registry.placeOf? definition.otherEntity).getD 0)

/-- Declared relationships that are all resolved have their targets. -/
theorem resolveEach_ok {entity : String} {definitions : List RelationshipDefinition}
    {relationships : List Relationship}
    (h : resolveEach registry entity definitions = .ok relationships) :
    relationships = definitions.map registry.declared ∧
      ∀ definition ∈ definitions, (registry.placeOf? definition.otherEntity).isSome = true := by
  induction definitions generalizing relationships with
  | nil =>
    obtain rfl := Except.ok.inj h
    exact ⟨rfl, List.forall_mem_nil _⟩
  | cons definition rest ih =>
    unfold resolveEach at h
    split at h
    · cases h
    · rename_i target htarget
      split at h
      · cases h
      · rename_i others hothers
        obtain rfl := Except.ok.inj h
        obtain ⟨rfl, hrest⟩ := ih hothers
        refine ⟨?_, List.forall_mem_cons.2 ⟨by rw [htarget]; rfl, hrest⟩⟩
        rw [List.map_cons, Registry.declared, htarget]
        rfl

theorem resolveAll_ok {slots : List Slot} {relationships : List (List Relationship)}
    (h : resolveAll registry slots = .ok relationships) :
    relationships = slots.map (·.entity.definition.relationships.map registry.declared) ∧
      ∀ slot ∈ slots, ∀ definition ∈ slot.entity.definition.relationships,
        (registry.placeOf? definition.otherEntity).isSome = true := by
  induction slots generalizing relationships with
  | nil =>
    obtain rfl := Except.ok.inj h
    exact ⟨rfl, List.forall_mem_nil _⟩
  | cons slot rest ih =>
    unfold resolveAll at h
    split at h
    · cases h
    · rename_i first hfirst
      split at h
      · cases h
      · rename_i others hothers
        obtain rfl := Except.ok.inj h
        obtain ⟨rfl, hslot⟩ := resolveEach_ok hfirst
        obtain ⟨rfl, hrest⟩ := ih hothers
        exact ⟨rfl, List.forall_mem_cons.2 ⟨hslot, hrest⟩⟩

theorem setRelationships_ok {slots : List Slot} {relationships : Slot → List Relationship}
    (h : (setRelationships slots (slots.map relationships)).2 = .ok ()) :
    (setRelationships slots (slots.map relationships)).1 = slots.map fun slot =>
      { slot with entity := { slot.entity with relationships := relationships slot } } := by
  induction slots with
  | nil => rfl
  | cons slot rest ih =>
    rw [List.map_cons] at h ⊢
    unfold setRelationships at h ⊢
    unfold Slot.update at h ⊢
    dsimp only at h ⊢
    split at h
    · cases h
    · rename_i first hfirst
      split at hfirst
      · cases hfirst
      · obtain rfl := Except.ok.inj hfirst
        rw [ih h]
        rfl

/-- A registry whose entities have their declared relationships. -/
def Registry.withDeclared (registry : Registry) : Registry :=
  ⟨registry.slots.map fun slot => { slot with entity := { slot.entity with
    relationships := slot.entity.definition.relationships.map registry.declared } }⟩

/-- Relating that succeeds has resolved all declared relationships and added what was missing, and
after that derives keys. -/
theorem relate_ok (h : (relate registry).2 = .ok ()) : TargetsResolve registry ∧
    (appendAll registry.withDeclared (missingInverses registry.withDeclared)).2 = .ok () ∧
    (relate registry).1 = (deriveKeys
      (appendAll registry.withDeclared (missingInverses registry.withDeclared)).1).1 := by
  unfold relate at h ⊢
  split at h
  · cases h
  · rename_i relationships hresolve
    obtain ⟨rfl, htargets⟩ := resolveAll_ok hresolve
    have htargets : TargetsResolve registry := List.forall_mem_map.2 htargets
    dsimp only at h ⊢
    split at h
    · cases h
    · rename_i hset
      have hdeclared : (⟨(setRelationships registry.slots (registry.slots.map
          (·.entity.definition.relationships.map registry.declared))).1⟩ : Registry) =
            registry.withDeclared := congrArg Registry.mk (setRelationships_ok hset)
      rw [hdeclared] at h ⊢
      -- what relating does after the sides are added changes keys at most
      generalize appendAll registry.withDeclared (missingInverses registry.withDeclared) =
        outcome at h ⊢
      obtain ⟨ready, result⟩ := outcome
      cases result with
      | error e => cases h
      | ok =>
        refine ⟨htargets, rfl, ?_⟩
        dsimp only at h ⊢
        split at h
        · cases h
        · split at h
          · cases h
          · rfl

end EntityPipeline
