-- The end of the preparation. Summing up and freezing goes through the entities one by one, and as
-- each is registered once under its own name, none of them stands in the way.
import EntityPipeline.Preparation.Aggregates
import EntityPipeline.Proofs.Preparation.Loading

namespace EntityPipeline

/-- The slot of an entity that is finished, with its sums over a registry. -/
def finished (registry : Registry) (entity : Entity) : Slot :=
  ⟨entity.name, { entity with aggregates := aggregates registry entity }, true⟩

/-- A registry in which the first entities are finished. -/
def partlyFinished (registry : Registry) (done rest : List Entity) : Registry :=
  ⟨done.map (finished registry) ++ (Registry.unfrozen rest).slots⟩

variable {registry : Registry} {done rest : List Entity} {entity : Entity}

theorem modify_length {α : Type} (before after : List α) (a : α) (f : α → α) :
    (before ++ a :: after).modify before.length f = before ++ f a :: after := by
  induction before with
  | nil => rfl
  | cons b before ih => simpa using ih

/-- The place of the first entity that is not finished is found by its name. -/
theorem placeOf?_partlyFinished
    (hn : ((done ++ entity :: rest).map Entity.name).Nodup) (other : Entity) :
    Registry.placeOf? ⟨done.map (finished registry) ++
      ⟨entity.name, other, false⟩ :: (Registry.unfrozen rest).slots⟩ entity.name =
        some done.length := by
  rw [List.map_append] at hn
  unfold Registry.placeOf?
  rw [List.findIdx?_append, List.findIdx?_eq_none_iff.2]
  · simp [List.findIdx?_cons]
  · intro slot hslot
    obtain ⟨before, hbefore, rfl⟩ := List.mem_map.1 hslot
    rw [beq_eq_false_iff_ne]
    intro hname
    exact List.disjoint_of_nodup_append hn (List.mem_map_of_mem hbefore)
      (hname ▸ List.mem_cons_self : (finished registry before).name ∈ _)

theorem finishEntity_eq {context : Context}
    (h : context.entities = partlyFinished registry done (entity :: rest))
    (hn : ((done ++ entity :: rest).map Entity.name).Nodup) :
    finishEntity done.length (aggregates registry entity) context =
      ⟨.ok (), { context with entities := partlyFinished registry (done ++ [entity]) rest },
        [.entityPrepared entity.name entity.fields.length entity.relationships.length]⟩ := by
  -- the entity gets its sums first, and its slot is found by name to be frozen
  let summed : Entity := { entity with aggregates := aggregates registry entity }
  let changed : Registry := ⟨done.map (finished registry) ++
    ⟨entity.name, summed, false⟩ :: (Registry.unfrozen rest).slots⟩
  have hupdate : context.entities.updatePlace done.length
      (fun e => { e with aggregates := aggregates registry entity }) = .ok changed := by
    rw [h]
    unfold Registry.updatePlace Registry.updateAt partlyFinished
    simp [Registry.unfrozen, Slot.update, changed, summed]
  have hresolve : changed.resolve? done.length = some summed := by
    simp [Registry.resolve?, changed]
  have hfreeze : changed.freeze entity.name =
      .ok (partlyFinished registry (done ++ [entity]) rest) := by
    have hplace : changed.placeOf? entity.name = some done.length :=
      placeOf?_partlyFinished hn summed
    have hmodify := modify_length (done.map (finished registry)) (Registry.unfrozen rest).slots
      ⟨entity.name, summed, false⟩ fun slot => { slot with frozen := true }
    rw [List.length_map] at hmodify
    unfold Registry.freeze
    rw [hplace]
    simp only [changed, hmodify]
    simp [partlyFinished, finished, summed]
  unfold finishEntity
  simp only [hupdate, hresolve]
  have hname : summed.name = entity.name := rfl
  rw [hname, hfreeze]

/-- Finishing the entities one by one finishes them all. -/
theorem forEach_finishEntity (done rest : List Entity) {context : Context}
    (h : context.entities = partlyFinished registry done rest)
    (hn : ((done ++ rest).map Entity.name).Nodup) :
    (Action.forEach (fun (place, sums) => finishEntity place sums)
      ((List.range' done.length rest.length).zip (rest.map (aggregates registry))) context).result =
        .ok () ∧
    (Action.forEach (fun (place, sums) => finishEntity place sums)
      ((List.range' done.length rest.length).zip (rest.map (aggregates registry))) context).state =
        { context with entities := partlyFinished registry (done ++ rest) [] } := by
  induction rest generalizing done context with
  | nil =>
    refine ⟨rfl, ?_⟩
    rw [List.append_nil, ← h]
    rfl
  | cons entity rest ih =>
    have hstep := finishEntity_eq h hn
    let next : Context :=
      { context with entities := partlyFinished registry (done ++ [entity]) rest }
    have hmore := @ih (done ++ [entity]) next rfl (by simpa using hn)
    rw [List.length_append, List.length_singleton, List.append_assoc] at hmore
    rw [List.length_cons, List.range'_succ, List.map_cons, List.zip_cons_cons]
    unfold Action.forEach Action.andThen
    simp only [hstep]
    exact hmore

/-- Finishing never fails where every entity is registered once under its own name. -/
theorem postPrepareEntities_eq {context : Context} {entities : List Entity}
    (h : context.entities = .unfrozen entities) (hn : (entities.map Entity.name).Nodup) :
    (postPrepareEntities context).result = .ok () ∧
      (postPrepareEntities context).state =
        { context with entities := ⟨entities.map (finished (.unfrozen entities))⟩ } := by
  have hstart : context.entities = partlyFinished (.unfrozen entities) [] entities := h
  have hall := forEach_finishEntity [] entities hstart hn
  unfold postPrepareEntities
  rw [h, Registry.entities_unfrozen, Registry.places_unfrozen, List.range_eq_range']
  simpa [partlyFinished, Registry.unfrozen] using hall

end EntityPipeline
