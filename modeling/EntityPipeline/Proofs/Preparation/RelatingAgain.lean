-- Relating twice. A second run starts from the relationships and the keys that the first one left.
-- It gives the declared relationships anew, so the same other sides are missing and come at the
-- same places. Borrowed identifiers it reads from the keys of the first run, and these are what
-- every entity unfolds to, so each key is put where it already is.
import EntityPipeline.Proofs.Preparation.OtherSides

namespace EntityPipeline

variable {entities : List Entity} {entity : Entity} {keys : Nat → Option PrimaryKey} {place : Nat}

/-! ## Relationships -/

/-- Keys do not matter for the sides that are missing. -/
theorem missingInverses_withKeys (entities : List Entity) (keys : Nat → Option PrimaryKey) :
    missingInverses (.unfrozen (withKeys entities keys)) = missingInverses (.unfrozen entities) := by
  have hlinks : (Registry.unfrozen (withKeys entities keys)).links =
      (Registry.unfrozen entities).links := by
    unfold Registry.links
    simp only [Registry.places_unfrozen, length_withKeys, Registry.resolve?_unfrozen,
      getElem?_withKeys]
    congr 1
    funext place
    cases entities[place]? <;> rfl
  have hadd : addCalled (.unfrozen (withKeys entities keys)) = addCalled (.unfrozen entities) := by
    funext additions link
    unfold addCalled hasSide
    simp only [Registry.resolve?_unfrozen, getElem?_withKeys, Option.isNone_map, Option.any_map]
    rfl
  rw [missingInverses_eq, missingInverses_eq, hlinks, hadd]

theorem withAdded_withKeys (entities : List Entity) (keys : Nat → Option PrimaryKey)
    (additions : List Addition) :
    withAdded (withKeys entities keys) additions = withKeys (withAdded entities additions) keys := by
  apply List.ext_getElem?
  intro place
  rw [getElem?_withAdded, getElem?_withKeys, getElem?_withKeys, getElem?_withAdded,
    Option.map_map, Option.map_map]
  rfl

theorem placeIn_withKeys_related (entities : List Entity) (keys : Nat → Option PrimaryKey) :
    placeIn (withKeys (related entities) keys) = placeIn entities := by
  have hplace (entities : List Entity) (name : String) :
      placeIn entities name = (entities.map Entity.name).findIdx (· == name) := by
    rw [List.findIdx_map]
    rfl
  funext name
  rw [hplace, hplace, names_withKeys_related]

/-- The declared relationships of related entities are those that were given to them before. -/
theorem map_withDeclared_related (entities : List Entity) (keys : Nat → Option PrimaryKey) :
    (withKeys (related entities) keys).map (withDeclared (withKeys (related entities) keys)) =
      withKeys (entities.map (withDeclared entities)) keys := by
  apply List.ext_getElem?
  intro place
  rw [List.getElem?_map, getElem?_withKeys, getElem?_related, getElem?_withKeys, List.getElem?_map,
    Option.map_map, Option.map_map, Option.map_map]
  unfold withDeclared
  rw [placeIn_withKeys_related]
  rfl

/-- Related entities stay as they are when they are related. -/
theorem related_withKeys_related (entities : List Entity) (keys : Nat → Option PrimaryKey) :
    related (withKeys (related entities) keys) = withKeys (related entities) keys := by
  show withAdded ((withKeys (related entities) keys).map _) (missingInverses _) = _
  rw [map_withDeclared_related, missingInverses_withKeys, withAdded_withKeys]
  rfl

/-! ## Keys -/

/-- A place unfolds in one way. -/
theorem Unfolds.unique {ids others : List PrimaryKeyId} (h : Unfolds entities place ids)
    (h' : Unfolds entities place others) : ids = others := by
  induction h generalizing others with
  | @intro place entity found hentity hsome _ ih =>
    obtain ⟨found', hentity', -, hfound'⟩ := h'
    obtain rfl := Option.some.inj (hentity.symm.trans hentity')
    unfold Entity.borrowed
    congr 1
    refine List.flatMap_congr fun r hr => ?_
    obtain ⟨target, htarget⟩ := Option.isSome_iff_exists.1 (hsome r hr)
    rw [htarget, Option.elim_some, Option.elim_some, ih r hr target htarget
      (hfound' r hr target htarget)]

section Settled

variable (hk : Keyable entities) (hs : Settled entities keys [])
include hk hs

/-- Where no entity waits, everything that is to be borrowed is there. -/
theorem borrowedIds_of_settled (hentity : entities[place]? = some entity) :
    borrowedIds (.unfrozen (withKeys entities keys)) entity.idRelationships =
      some (entity.borrowed fun target => idsOf (keys target)) := by
  cases hborrowed : borrowedIds (.unfrozen (withKeys entities keys)) entity.idRelationships with
  | none =>
    obtain ⟨_, _, target, _, hlt, hkey⟩ :=
      borrowedIds_of_none hborrowed (hk.targets entity (List.mem_of_getElem? hentity))
    cases (hs.keyless target hlt).1 hkey
  | some ids => rw [(borrowedIds_of_some hborrowed).2, Entity.borrowed]

/-- The key of an entity is over its own identifiers and those that it borrows from other keys. -/
theorem key_of_settled (hentity : entities[place]? = some entity) : keys place =
    entity.keyOf (entity.ownIds ++ entity.borrowed fun target => idsOf (keys target)) := by
  obtain ⟨ids, hunfolds, -, hkey⟩ := hs.unfolded place entity hentity List.not_mem_nil
  have htargets := hk.targets entity (List.mem_of_getElem? hentity)
  -- what the keys of the targets hold unfolds too, and a place unfolds in one way only
  have hborrows : Unfolds entities place
      (entity.ownIds ++ entity.borrowed fun target => idsOf (keys target)) := by
    refine .intro _ hentity (fun r hr => ?_) fun r hr target htarget => ?_
    · obtain ⟨target, htarget, -⟩ := htargets r hr
      rw [htarget]
      rfl
    · obtain ⟨other, hother, hlt⟩ := htargets r hr
      obtain rfl := Option.some.inj (htarget.symm.trans hother)
      obtain ⟨key, hsome⟩ := Option.ne_none_iff_exists'.1 fun hnone =>
        List.not_mem_nil ((hs.keyless target hlt).1 hnone)
      exact (hs.unfolds_idsOf hlt hsome).1
  rw [hkey, hunfolds.unique hborrows]

omit hk hs in
/-- Giving an entity the key that it has changes nothing. -/
theorem updatePlace_withKeys_self {change : Entity → Entity}
    (hentity : entities[place]? = some entity) (hname : ∀ e, (change e).name = e.name)
    (hkey : change (entity.keyed (keys place)) = entity.keyed (keys place)) :
    (Registry.unfrozen (withKeys entities keys)).updatePlace place change =
      .ok (.unfrozen (withKeys entities keys)) := by
  rw [updatePlace_withKeys hentity hname hkey, Function.update_eq_self]

/-- Entities that need not borrow have their keys, and the others wait again. -/
theorem ownKeys_of_settled {todo : List Nat} (hin : ∀ place ∈ todo, place < entities.length) :
    ∃ waiting, ownKeys (.unfrozen (withKeys entities keys)) todo =
        (.unfrozen (withKeys entities keys), waiting, .ok ()) ∧
      waiting.Sublist todo ∧ Borrowers entities waiting := by
  induction todo with
  | nil => exact ⟨[], rfl, .refl _, List.forall_mem_nil _⟩
  | cons place rest ih =>
    obtain ⟨hlt, hrest⟩ := List.forall_mem_cons.1 hin
    obtain ⟨waiting, heq, hsub, hborrowers⟩ := ih hrest
    have hentity : entities[place]? = some entities[place] := List.getElem?_eq_getElem hlt
    unfold ownKeys
    simp only [Registry.resolve?_unfrozen, getElem?_withKeys, hentity, Option.map_some]
    rw [Entity.idRelationships_keyed]
    by_cases hempty : entities[place].idRelationships.isEmpty = true
    · have hkey := key_of_settled hk hs hentity
      have hnone : entities[place].borrowed (fun target => idsOf (keys target)) = [] := by
        rw [Entity.borrowed, List.isEmpty_iff.1 hempty]
        rfl
      rw [hnone, List.append_nil, Entity.keyOf, hempty] at hkey
      have hupdate : (Registry.unfrozen (withKeys entities keys)).updatePlace place
          (fun e => e.withKey e.ownIds false) = .ok (.unfrozen (withKeys entities keys)) := by
        refine updatePlace_withKeys_self hentity (fun _ => rfl) ?_
        rw [hkey]
        rfl
      simp only [hempty, if_true, hupdate]
      exact ⟨waiting, heq, hsub.cons _, hborrowers⟩
    · refine ⟨place :: waiting, by rw [if_neg hempty, heq], hsub.cons_cons _, ?_⟩
      refine List.forall_mem_cons.2 ⟨fun e he => ?_, hborrowers⟩
      rw [hentity] at he
      cases he
      simpa using hempty

/-- In one pass all entities that wait borrow what they have borrowed before. -/
theorem borrowPass_of_settled {waiting : List Nat} (hborrowers : Borrowers entities waiting)
    (hin : ∀ place ∈ waiting, place < entities.length) :
    borrowPass (.unfrozen (withKeys entities keys)) waiting =
      (.unfrozen (withKeys entities keys), [], .ok ()) := by
  induction waiting with
  | nil => rfl
  | cons place rest ih =>
    obtain ⟨hlt, hrest⟩ := List.forall_mem_cons.1 hin
    obtain ⟨hfirst, hothers⟩ := List.forall_mem_cons.1 hborrowers
    have hentity : entities[place]? = some entities[place] := List.getElem?_eq_getElem hlt
    have hborrowed := borrowedIds_of_settled hk hs hentity
    have hkey := key_of_settled hk hs hentity
    have hempty : entities[place].idRelationships.isEmpty = false := by
      simpa using hfirst _ hentity
    rw [Entity.keyOf, hempty] at hkey
    have hupdate : (Registry.unfrozen (withKeys entities keys)).updatePlace place (fun e => e.withKey
        (e.ownIds ++ entities[place].borrowed fun target => idsOf (keys target)) true) =
          .ok (.unfrozen (withKeys entities keys)) := by
      refine updatePlace_withKeys_self hentity (fun _ => rfl) ?_
      rw [hkey]
      rfl
    unfold borrowPass
    simp only [Registry.resolve?_unfrozen, getElem?_withKeys, hentity, Option.map_some,
      Entity.idRelationships_keyed, hborrowed, hupdate]
    exact ih hothers hrest

/-- Deriving the keys of entities that have theirs changes nothing. -/
theorem deriveKeys_of_settled : deriveKeys (.unfrozen (withKeys entities keys)) =
    (.unfrozen (withKeys entities keys), .ok ()) := by
  have hin : ∀ place ∈ List.range entities.length, place < entities.length := by simp
  obtain ⟨waiting, hown, hsub, hborrowers⟩ := ownKeys_of_settled hk hs hin
  unfold deriveKeys
  rw [Registry.places_unfrozen, length_withKeys, hown]
  dsimp only
  cases waiting with
  | nil => rfl
  | cons place rest =>
    have hpass := borrowPass_of_settled hk hs hborrowers fun place hplace =>
      hin place (hsub.subset hplace)
    unfold borrowKeys
    simp only [hpass, List.length_nil, List.length_cons, Nat.zero_lt_succ, if_true]
    cases rest <;> rfl

end Settled

/-! ## The second run -/

/-- Identifying relationships that were supported still are. -/
theorem checkIdRelationships_withKeys (keys : Nat → Option PrimaryKey)
    (h : checkIdRelationships (Registry.unfrozen entities).slots = .ok ()) :
    checkIdRelationships (Registry.unfrozen (withKeys entities keys)).slots = .ok () := by
  rcases checkIdRelationships_outcome entities with ⟨hall, -⟩ | ⟨_, _, _, _, herror⟩
  swap
  · rw [herror] at h
    cases h
  rcases checkIdRelationships_outcome (withKeys entities keys) with
    ⟨-, hok⟩ | ⟨keyed, hin, relationship, hfound, -⟩
  · exact hok
  · obtain ⟨place, hlt, rfl⟩ := List.getElem_of_mem hin
    have hat := List.getElem?_eq_getElem hlt
    rw [getElem?_withKeys] at hat
    obtain ⟨entity, hentity, heq⟩ := Option.map_eq_some_iff.1 hat
    have hnone : (withKeys entities keys)[place].unsupportedId = none :=
      heq ▸ hall entity (List.mem_of_getElem? hentity)
    rw [hnone] at hfound
    cases hfound

/-- Entities that were related can be related again, and stay as they are. -/
theorem Relates.relate_again (h : Relates entities keys)
    (hf : ∀ entity ∈ entities, entity.IsFilled) :
    relate (.unfrozen (withKeys (related entities) keys)) =
      (.unfrozen (withKeys (related entities) keys), .ok ()) := by
  have hresolve : resolveAll (.unfrozen (withKeys (related entities) keys))
      (Registry.unfrozen (withKeys (related entities) keys)).slots =
        .ok ((withKeys (related entities) keys).map fun entity =>
          (withDeclared (withKeys (related entities) keys) entity).relationships) := by
    rcases resolveAll_outcome (withKeys (related entities) keys)
        (withKeys (related entities) keys) with
      ⟨-, hok⟩ | ⟨keyed, hin, relationship, hr, hmissing, -⟩
    · exact hok
    · -- names and definitions are the same, so a missing target would have been missing before
      obtain ⟨place, entity, hentity, rfl⟩ := exists_of_mem_withKeys_related hin
      rw [names_withKeys_related] at hmissing
      exact absurd (h.resolved _ relationship
        ((declaredBy_iff hf).2 ⟨place, entity, hentity, rfl, hr⟩)) hmissing
  rw [relate_eq hresolve, related_withKeys_related,
    checkIdRelationships_withKeys keys h.supported]
  dsimp only
  unfold keyAndCheck
  rw [deriveKeys_of_settled (keyable_related hf h.resolved) h.settled]
  dsimp only
  rw [h.simple]

/-- Where relating succeeds, relating again succeeds and leaves everything as it is: no other side
is added, moved or lost, and every key comes to what it was. -/
theorem relating_again_changes_nothing (context : Context)
    (hfields : FieldsPrepared context.entities)
    (h : (prepareRelationships context).result = .ok ()) :
    prepareRelationships (prepareRelationships context).state =
      ⟨.ok (), (prepareRelationships context).state, []⟩ := by
  obtain ⟨entities, keys, hf, -, hrelates, hfirst⟩ := hfields.relates h
  have hsecond := hrelates.relate_again hf
  rw [hfirst]
  unfold prepareRelationships
  dsimp only
  rw [hsecond]

/-- Parcels that are identified by their shipments, and these by a depot, which is to have them as
its own. -/
def dispatchedParcels : Context :=
  (Action.forEach Phase.run [.load, .names, .fields]
    (.ofDefinitions { skipUserManagement := true } [
      { name := "Parcel"
        fields := [{ name := "number", type := "Integer", id := some true }]
        relationships :=
          [{ cardinality := .manyToOne, otherEntity := "Shipment", id := some true }] },
      { name := "Shipment"
        relationships := [
          { cardinality := .manyToOne, otherEntity := "Depot", inverseName := some "shipments"
            id := some true }] },
      { name := "Depot" }])).state

theorem dispatched_parcels_stay_as_they_are : FieldsPrepared dispatchedParcels.entities ∧
    (prepareRelationships dispatchedParcels).result = .ok () ∧
    ((prepareRelationships dispatchedParcels).state.entities.entities.map fun entity =>
      (entity.relationships.map Relationship.name,
        (idsOf entity.primaryKey).map PrimaryKeyId.nameDotted)) =
      [(["shipment"], ["number", "shipment.depot.id"]), (["depot"], ["depot.id"]),
        (["shipments"], ["id"])] ∧
    prepareRelationships (prepareRelationships dispatchedParcels).state =
      ⟨.ok (), (prepareRelationships dispatchedParcels).state, []⟩ :=
  have hfields : FieldsPrepared dispatchedParcels.entities := .intro _ (Or.inr rfl) rfl
  have hok : (prepareRelationships dispatchedParcels).result = .ok () := rfl
  ⟨hfields, hok, rfl, relating_again_changes_nothing _ hfields hok⟩

end EntityPipeline
