-- Deriving keys. The identifiers of an entity unfold to its own ones and those of the entities that
-- its identifying relationships lead to. The passes settle every entity to what it unfolds to,
-- unless some entities borrow from each other in a circle.
import EntityPipeline.Preparation.Keys
import EntityPipeline.Proofs.Graph.Circles
import EntityPipeline.Proofs.Preparation.Loading
import Mathlib.Logic.Function.Basic

namespace EntityPipeline

variable {entities : List Entity} {entity : Entity} {place other : Nat}

/-! ## Unfolding -/

/-- The identifiers borrowed over the relationships of an entity, given those of each place. -/
def Entity.borrowed (entity : Entity) (ids : Nat → List PrimaryKeyId) : List PrimaryKeyId :=
  entity.idRelationships.flatMap fun relationship =>
    (relationship.target.elim [] ids).map (PrimaryKeyId.derived relationship.name)

/-- The identifiers of the entity at a place, unfolded: its own ones, then for each identifying
relationship those of its target. -/
inductive Unfolds (entities : List Entity) : Nat → List PrimaryKeyId → Prop
  | intro {place : Nat} {entity : Entity} (ids : Nat → List PrimaryKeyId) :
      entities[place]? = some entity →
      (∀ r ∈ entity.idRelationships, r.target.isSome = true) →
      (∀ r ∈ entity.idRelationships, ∀ target, r.target = some target →
        Unfolds entities target (ids target)) →
      Unfolds entities place (entity.ownIds ++ entity.borrowed ids)

/-- The entity at a place borrows from the one at another place. -/
def BorrowsFrom (entities : List Entity) (place other : Nat) : Prop :=
  ∃ entity, entities[place]? = some entity ∧ ∃ r ∈ entity.idRelationships, r.target = some other

/-- Borrowing comes to an end: no entity borrows from itself, directly or through others. -/
def BorrowingEnds (entities : List Entity) : Prop :=
  ∀ place, ¬Relation.TransGen (BorrowsFrom entities) place place

theorem acc_of_unfolds {ids : List PrimaryKeyId} (h : Unfolds entities place ids) :
    Acc (fun a b => BorrowsFrom entities b a) place := by
  induction h with
  | intro all hentity _ _ ih =>
    refine ⟨_, ?_⟩
    rintro other ⟨entity, hplace, r, hr, htarget⟩
    rw [hentity] at hplace
    cases hplace
    exact ih r hr other htarget

/-- What unfolds is on no circle. -/
theorem not_transGen_of_unfolds {ids : List PrimaryKeyId} (h : Unfolds entities place ids) :
    ¬Relation.TransGen (BorrowsFrom entities) place place := by
  have hacc := acc_of_unfolds h
  clear h
  induction hacc with
  | intro place _ ih =>
    intro hcircle
    obtain ⟨next, hnext, hback⟩ := Relation.TransGen.head'_iff.1 hcircle
    exact ih next hnext (.tail' hback hnext)

/-! ## Keys -/

namespace Entity

/-- An entity with a key, or with none. -/
def keyed (entity : Entity) (key : Option PrimaryKey) : Entity := { entity with primaryKey := key }

@[simp] theorem idRelationships_keyed (key : Option PrimaryKey) :
    (entity.keyed key).idRelationships = entity.idRelationships := rfl

@[simp] theorem primaryKey_keyed (key : Option PrimaryKey) :
    (entity.keyed key).primaryKey = key := rfl

end Entity

/-- Entities with a key, or none, for each place. -/
def withKeys (entities : List Entity) (keys : Nat → Option PrimaryKey) : List Entity :=
  entities.mapIdx fun place entity => entity.keyed (keys place)

/-- The identifiers of a key that may be missing. -/
def idsOf (key : Option PrimaryKey) : List PrimaryKeyId := key.elim [] PrimaryKey.ids

/-- The key of an entity with the given identifiers. -/
def Entity.keyOf (entity : Entity) (ids : List PrimaryKeyId) : Option PrimaryKey :=
  PrimaryKey.ofIds entity.names.className ids !entity.idRelationships.isEmpty

/-- A key is over one identifier, whose type it has, or it is composite. -/
theorem ofIds_cases {entityClass : String} {ids : List PrimaryKeyId} {derived : Bool}
    {key : PrimaryKey} (h : PrimaryKey.ofIds entityClass ids derived = some key) :
    (∃ id, ids = [id] ∧ key = .build id.name id.type.tsType (.single id.type)
      (!derived && id.autoGenerate) derived [id]) ∨
    2 ≤ ids.length ∧ key = .build "id" (entityClass ++ "Id") .composite false derived ids := by
  match ids with
  | [] => cases h
  | [id] => exact Or.inl ⟨id, rfl, (Option.some.inj h).symm⟩
  | _ :: _ :: _ => exact Or.inr ⟨by simp, (Option.some.inj h).symm⟩

theorem ids_of_ofIds {entityClass : String} {ids : List PrimaryKeyId} {derived : Bool}
    {key : PrimaryKey} (h : PrimaryKey.ofIds entityClass ids derived = some key) :
    key.ids = ids ∧ key.composite = decide (2 ≤ ids.length) := by
  rcases ofIds_cases h with ⟨id, rfl, rfl⟩ | ⟨hlength, rfl⟩
  · exact ⟨rfl, rfl⟩
  · exact ⟨rfl, (decide_eq_true hlength).symm⟩

theorem isSome_ofIds {entityClass : String} {ids : List PrimaryKeyId} {derived : Bool}
    (h : ids ≠ []) : (PrimaryKey.ofIds entityClass ids derived).isSome = true := by
  unfold PrimaryKey.ofIds
  split <;> simp_all

@[simp] theorem getElem?_withKeys {keys : Nat → Option PrimaryKey} :
    (withKeys entities keys)[place]? =
      entities[place]?.map fun entity => entity.keyed (keys place) := by
  simp [withKeys]

@[simp] theorem length_withKeys {keys : Nat → Option PrimaryKey} :
    (withKeys entities keys).length = entities.length := by
  simp [withKeys]

theorem updatePlace_withKeys {keys : Nat → Option PrimaryKey} {change : Entity → Entity}
    {key : Option PrimaryKey} (hentity : entities[place]? = some entity)
    (hname : ∀ e, (change e).name = e.name)
    (hkey : change (entity.keyed (keys place)) = entity.keyed key) :
    (Registry.unfrozen (withKeys entities keys)).updatePlace place change =
      .ok (.unfrozen (withKeys entities (Function.update keys place key))) := by
  obtain ⟨hlt, _⟩ := List.getElem?_eq_some_iff.1 hentity
  rw [Registry.updatePlace_unfrozen (by simpa using hlt) hname]
  congr 2
  apply List.ext_getElem?
  intro i
  by_cases hi : place = i
  · subst hi
    simp [hentity, hkey]
  · simp [hi, Function.update_of_ne (Ne.symm hi)]

/-! ## What holds between passes -/

/-- Entities that can get keys: all their identifying relationships have targets, and without such
they have identifiers of their own. -/
structure Keyable (entities : List Entity) : Prop where
  targets : ∀ entity ∈ entities, ∀ r ∈ entity.idRelationships,
    ∃ target, r.target = some target ∧ target < entities.length
  own : ∀ entity ∈ entities, entity.idRelationships = [] → entity.ownIds ≠ []

/-- Every entity has the key it unfolds to, but for those that still wait. -/
structure Settled (entities : List Entity) (keys : Nat → Option PrimaryKey) (waiting : List Nat) :
    Prop where
  nodup : waiting.Nodup
  inside : ∀ place ∈ waiting, place < entities.length
  keyless : ∀ place, place < entities.length → (keys place = none ↔ place ∈ waiting)
  unfolded : ∀ place entity, entities[place]? = some entity → place ∉ waiting →
    ∃ ids, Unfolds entities place ids ∧ ids ≠ [] ∧ keys place = entity.keyOf ids

variable {keys : Nat → Option PrimaryKey} {kept waiting rest : List Nat}

/-- One of those that wait gets the key it unfolds to. -/
theorem Settled.settle (h : Settled entities keys (kept ++ place :: rest))
    (hentity : entities[place]? = some entity) {ids : List PrimaryKeyId}
    (hunfolds : Unfolds entities place ids) (hne : ids ≠ []) :
    Settled entities (Function.update keys place (entity.keyOf ids)) (kept ++ rest) := by
  have hnodup := h.nodup
  have hnew : place ∉ kept ++ rest := (List.nodup_middle.1 hnodup |> List.nodup_cons.1).1
  have hmem : ∀ i, i ≠ place → (i ∈ kept ++ place :: rest ↔ i ∈ kept ++ rest) := by
    intro i hi
    simp [hi]
  refine ⟨(List.nodup_middle.1 hnodup |> List.nodup_cons.1).2, ?_, ?_, ?_⟩
  · intro i hi
    exact h.inside i ((hmem i fun heq => hnew (heq ▸ hi)).2 hi)
  · intro i hi
    by_cases heq : i = place
    · subst heq
      simp only [Function.update_self, hnew, iff_false, Entity.keyOf]
      exact Option.isSome_iff_ne_none.1 (isSome_ofIds hne)
    · rw [Function.update_of_ne heq, ← hmem i heq]
      exact h.keyless i hi
  · intro i e he hi
    by_cases heq : i = place
    · subst heq
      rw [hentity] at he
      cases he
      exact ⟨ids, hunfolds, hne, by simp⟩
    · obtain ⟨found, hfound⟩ := h.unfolded i e he fun hin => hi ((hmem i heq).1 hin)
      exact ⟨found, by rwa [Function.update_of_ne heq]⟩

theorem settled_start (entities : List Entity) :
    Settled entities (fun _ => none) (List.range entities.length) := by
  refine ⟨List.nodup_range, by simp, by simp, ?_⟩
  intro place entity hentity hnot
  obtain ⟨hlt, _⟩ := List.getElem?_eq_some_iff.1 hentity
  simp [hlt] at hnot

/-- A key that is there has the identifiers that its place unfolds to. -/
theorem Settled.unfolds_idsOf (h : Settled entities keys waiting) (hlt : place < entities.length)
    {key : PrimaryKey} (hkey : keys place = some key) :
    Unfolds entities place (idsOf (keys place)) ∧ idsOf (keys place) ≠ [] := by
  have hnot : place ∉ waiting := fun hin => by
    rw [(h.keyless place hlt).2 hin] at hkey
    cases hkey
  obtain ⟨ids, hunfolds, hne, heq⟩ :=
    h.unfolded place entities[place] (List.getElem?_eq_getElem hlt) hnot
  rw [hkey] at heq
  have hids := (ids_of_ofIds heq.symm).1
  rw [hkey]
  simp only [idsOf, Option.elim_some, hids]
  exact ⟨hunfolds, hne⟩

/-- What the relationships of an entity borrow, when every target has a key. -/
theorem borrowedIds_of_some {relationships : List Relationship} {ids : List PrimaryKeyId}
    (h : borrowedIds (.unfrozen (withKeys entities keys)) relationships = some ids) :
    (∀ r ∈ relationships, ∃ target key, r.target = some target ∧ target < entities.length ∧
      keys target = some key) ∧
    ids = relationships.flatMap fun r =>
      (r.target.elim [] fun target => idsOf (keys target)).map (PrimaryKeyId.derived r.name) := by
  induction relationships generalizing ids with
  | nil =>
    cases h
    exact ⟨by simp, rfl⟩
  | cons r rest ih =>
    unfold borrowedIds at h
    simp only [Option.bind_eq_bind, Option.bind_eq_some_iff, Registry.resolve?_unfrozen,
      getElem?_withKeys, Option.map_eq_some_iff, Option.pure_def, Option.some.injEq] at h
    obtain ⟨_, ⟨target, htarget, e, he, rfl⟩, key, hkey, others, hothers, rfl⟩ := h
    obtain ⟨hall, rfl⟩ := ih hothers
    obtain ⟨hlt, _⟩ := List.getElem?_eq_some_iff.1 he
    rw [Entity.primaryKey_keyed] at hkey
    refine ⟨List.forall_mem_cons.2 ⟨⟨target, key, htarget, hlt, hkey⟩, hall⟩, ?_⟩
    simp [htarget, hkey, idsOf]

/-- Nothing is borrowed while some target has no key. -/
theorem borrowedIds_of_none {relationships : List Relationship}
    (h : borrowedIds (.unfrozen (withKeys entities keys)) relationships = none)
    (htargets : ∀ r ∈ relationships, ∃ target, r.target = some target ∧ target < entities.length) :
    ∃ r ∈ relationships, ∃ target, r.target = some target ∧ target < entities.length ∧
      keys target = none := by
  induction relationships with
  | nil => cases h
  | cons r rest ih =>
    obtain ⟨⟨target, htarget, hlt⟩, hrest⟩ := List.forall_mem_cons.1 htargets
    unfold borrowedIds at h
    simp only [htarget, Option.bind_some, Registry.resolve?_unfrozen, getElem?_withKeys,
      List.getElem?_eq_getElem hlt, Option.map_some, Option.bind_eq_bind] at h
    cases hkey : keys target with
    | none => exact ⟨r, List.mem_cons_self, target, htarget, hlt, hkey⟩
    | some key =>
      cases hothers : borrowedIds (.unfrozen (withKeys entities keys)) rest with
      | none =>
        obtain ⟨other, hin, hother⟩ := ih hothers hrest
        exact ⟨other, List.mem_cons_of_mem _ hin, hother⟩
      | some others =>
        rw [hkey, hothers] at h
        cases h

/-- What an entity may borrow completes what it unfolds to. -/
theorem Settled.unfolds_of_borrowed (h : Settled entities keys waiting)
    (hentity : entities[place]? = some entity) (hne : entity.idRelationships ≠ [])
    {ids : List PrimaryKeyId}
    (hids : borrowedIds (.unfrozen (withKeys entities keys)) entity.idRelationships = some ids) :
    Unfolds entities place (entity.ownIds ++ ids) ∧ entity.ownIds ++ ids ≠ [] := by
  obtain ⟨hkeys, rfl⟩ := borrowedIds_of_some hids
  constructor
  · refine Unfolds.intro (fun target => idsOf (keys target)) hentity ?_ ?_
    · intro r hr
      obtain ⟨target, _, htarget, _⟩ := hkeys r hr
      simp [htarget]
    · intro r hr target htarget
      obtain ⟨target', key, htarget', hlt, hkey⟩ := hkeys r hr
      rw [htarget] at htarget'
      cases htarget'
      exact (h.unfolds_idsOf hlt hkey).1
  · -- one relationship is enough: the key of its target is not empty
    obtain ⟨r, hr⟩ := List.exists_mem_of_ne_nil _ hne
    obtain ⟨target, key, htarget, hlt, hkey⟩ := hkeys r hr
    have hids := (h.unfolds_idsOf hlt hkey).2
    intro hnil
    have hborrowed := List.flatMap_eq_nil_iff.1 (List.append_eq_nil_iff.1 hnil).2 r hr
    simp [htarget] at hborrowed
    exact hids hborrowed

/-! ## The passes -/

/-- The entities at places all have identifying relationships. -/
def Borrowers (entities : List Entity) (places : List Nat) : Prop :=
  ∀ place ∈ places, ∀ entity, entities[place]? = some entity → entity.idRelationships ≠ []

theorem ownKeys_spec (hk : Keyable entities) {todo : List Nat}
    (h : Settled entities keys (kept ++ todo)) :
    ∃ keys' waiting, ownKeys (.unfrozen (withKeys entities keys)) todo =
        (.unfrozen (withKeys entities keys'), waiting, .ok ()) ∧
      Settled entities keys' (kept ++ waiting) ∧ Borrowers entities waiting := by
  induction todo generalizing keys kept with
  | nil => exact ⟨keys, [], rfl, h, by simp [Borrowers]⟩
  | cons place rest ih =>
    have hlt : place < entities.length := h.inside place (by simp)
    have hentity : entities[place]? = some entities[place] := List.getElem?_eq_getElem hlt
    unfold ownKeys
    simp only [Registry.resolve?_unfrozen, getElem?_withKeys, hentity, Option.map_some]
    rw [Entity.idRelationships_keyed]
    by_cases hempty : entities[place].idRelationships.isEmpty = true
    · have hnil := List.isEmpty_iff.1 hempty
      have hupdate : (Registry.unfrozen (withKeys entities keys)).updatePlace place
          (fun e => e.withKey e.ownIds false) = .ok (.unfrozen (withKeys entities
            (Function.update keys place (entities[place].keyOf entities[place].ownIds)))) := by
        refine updatePlace_withKeys hentity (fun _ => rfl) ?_
        rw [Entity.keyOf, hempty]
        rfl
      simp only [hempty, if_true, hupdate]
      have hunfolds : Unfolds entities place entities[place].ownIds := by
        have hintro := Unfolds.intro (fun _ => []) hentity (by simp [hnil]) (by simp [hnil])
        simpa [Entity.borrowed, hnil] using hintro
      exact ih (h.settle hentity hunfolds (hk.own _ (List.getElem_mem hlt) hnil))
    · have hkept : Settled entities keys ((kept ++ [place]) ++ rest) := by simpa using h
      obtain ⟨keys', waiting, heq, hsettled, hborrowers⟩ := ih hkept
      refine ⟨keys', place :: waiting, by rw [if_neg hempty, heq], by simpa using hsettled, ?_⟩
      refine List.forall_mem_cons.2 ⟨fun e he => ?_, hborrowers⟩
      rw [hentity] at he
      cases he
      simpa using hempty

/-- The entity at a place cannot borrow yet. -/
def Stuck (entities : List Entity) (keys : Nat → Option PrimaryKey) (place : Nat) : Prop :=
  ∃ entity, entities[place]? = some entity ∧
    borrowedIds (.unfrozen (withKeys entities keys)) entity.idRelationships = none

/-- A pass settles what it can. It brings something unless all that wait are stuck. -/
theorem borrowPass_spec (hborrowers : Borrowers entities waiting)
    (h : Settled entities keys (kept ++ waiting)) :
    ∃ keys' still, borrowPass (.unfrozen (withKeys entities keys)) waiting =
        (.unfrozen (withKeys entities keys'), still, .ok ()) ∧
      Settled entities keys' (kept ++ still) ∧ still.Sublist waiting ∧
      (still.length < waiting.length ∨
        keys' = keys ∧ still = waiting ∧ ∀ place ∈ waiting, Stuck entities keys place) := by
  induction waiting generalizing keys kept with
  | nil => exact ⟨keys, [], rfl, h, .refl _, Or.inr ⟨rfl, rfl, by simp⟩⟩
  | cons place rest ih =>
    obtain ⟨hfirst, hrest⟩ := List.forall_mem_cons.1 hborrowers
    have hlt : place < entities.length := h.inside place (by simp)
    have hentity : entities[place]? = some entities[place] := List.getElem?_eq_getElem hlt
    unfold borrowPass
    simp only [Registry.resolve?_unfrozen, getElem?_withKeys, hentity, Option.map_some,
      Entity.idRelationships_keyed]
    have hsome := hfirst _ hentity
    cases hborrowed : borrowedIds (.unfrozen (withKeys entities keys))
        entities[place].idRelationships with
    | some ids =>
      obtain ⟨hunfolds, hne⟩ := h.unfolds_of_borrowed hentity hsome hborrowed
      have hupdate : (Registry.unfrozen (withKeys entities keys)).updatePlace place
          (fun e => e.withKey (e.ownIds ++ ids) true) = .ok (.unfrozen (withKeys entities
            (Function.update keys place
              (entities[place].keyOf (entities[place].ownIds ++ ids))))) := by
        have hempty : entities[place].idRelationships.isEmpty = false := by simpa using hsome
        refine updatePlace_withKeys hentity (fun _ => rfl) ?_
        rw [Entity.keyOf, hempty]
        rfl
      simp only [hupdate]
      obtain ⟨keys', still, heq, hsettled, hsub, _⟩ := ih hrest (h.settle hentity hunfolds hne)
      refine ⟨keys', still, heq, hsettled, hsub.cons _, Or.inl ?_⟩
      exact Nat.lt_succ_of_le hsub.length_le
    | none =>
      -- the place is passed over, and the pass brings something when the rest of it does
      have hkept : Settled entities keys ((kept ++ [place]) ++ rest) := by simpa using h
      obtain ⟨keys', still, heq, hsettled, hsub, hprogress⟩ := ih hrest hkept
      refine ⟨keys', place :: still, by rw [heq], by simpa using hsettled, hsub.cons_cons _, ?_⟩
      rcases hprogress with hless | ⟨rfl, rfl, hstuck⟩
      · exact Or.inl (Nat.succ_lt_succ hless)
      · exact Or.inr ⟨rfl, rfl, List.forall_mem_cons.2 ⟨⟨_, hentity, hborrowed⟩, hstuck⟩⟩

/-- Passes go on until none waits or all that wait are stuck. -/
theorem borrowKeys_spec {passes : Nat} (hborrowers : Borrowers entities waiting)
    (h : Settled entities keys waiting) (hpasses : waiting.length ≤ passes) :
    (∃ keys', borrowKeys passes (.unfrozen (withKeys entities keys)) waiting =
        (.unfrozen (withKeys entities keys'), .ok ()) ∧ Settled entities keys' []) ∨
    ∃ keys' still, still ≠ [] ∧ Settled entities keys' still ∧
      (∀ place ∈ still, Stuck entities keys' place) ∧
      borrowKeys passes (.unfrozen (withKeys entities keys)) waiting =
        (.unfrozen (withKeys entities keys'),
          .error (cycleFailure (.unfrozen (withKeys entities keys')) still)) := by
  induction passes generalizing keys waiting with
  | zero =>
    rw [Nat.le_zero, List.length_eq_zero_iff] at hpasses
    subst hpasses
    exact Or.inl ⟨keys, rfl, h⟩
  | succ passes ih =>
    cases waiting with
    | nil => exact Or.inl ⟨keys, rfl, h⟩
    | cons place rest =>
      have hall : Settled entities keys ([] ++ place :: rest) := h
      obtain ⟨keys', still, heq, hsettled, hsub, hprogress⟩ := borrowPass_spec hborrowers hall
      unfold borrowKeys
      simp only [heq]
      rcases hprogress with hless | ⟨rfl, rfl, hstuck⟩
      · rw [if_pos hless]
        exact ih (fun p hp => hborrowers p (hsub.subset hp)) hsettled (by
          simp only [List.length_cons] at hless hpasses
          omega)
      · rw [if_neg (Nat.lt_irrefl _)]
        exact Or.inr ⟨keys', place :: rest, by simp, hsettled, hstuck, rfl⟩

/-- Where all that wait are stuck, some borrow from each other in a circle. -/
theorem Settled.exists_circle (hk : Keyable entities) (h : Settled entities keys waiting)
    (hne : waiting ≠ []) (hstuck : ∀ place ∈ waiting, Stuck entities keys place) :
    ∃ place, Relation.TransGen (BorrowsFrom entities) place place := by
  obtain ⟨place, _, hcircle⟩ := EntityPipeline.exists_circle (r := BorrowsFrom entities) hne (by
    intro place hin
    obtain ⟨entity, hentity, hnone⟩ := hstuck place hin
    obtain ⟨r, hr, target, htarget, hlt, hkey⟩ :=
      borrowedIds_of_none hnone (hk.targets entity (List.mem_of_getElem? hentity))
    exact ⟨target, (h.keyless target hlt).1 hkey, entity, hentity, r, hr, htarget⟩)
  exact ⟨place, hcircle⟩

theorem withKeys_none (h : ∀ entity ∈ entities, entity.primaryKey = none) :
    withKeys entities (fun _ => none) = entities := by
  apply List.ext_getElem?
  intro i
  rw [getElem?_withKeys]
  cases hi : entities[i]? with
  | none => rfl
  | some entity =>
    have hkey := h entity (List.mem_of_getElem? hi)
    cases entity
    simp only at hkey
    simp [hkey, Entity.keyed]

/-- Where no entity has a key yet, those that need not borrow get theirs, and all others wait. -/
theorem ownKeys_start (hk : Keyable entities)
    (hnone : ∀ entity ∈ entities, entity.primaryKey = none) :
    ∃ keys waiting, ownKeys (.unfrozen entities) (Registry.unfrozen entities).places =
        (.unfrozen (withKeys entities keys), waiting, .ok ()) ∧
      Settled entities keys waiting ∧ Borrowers entities waiting := by
  have hsettled : Settled entities (fun _ => none) ([] ++ List.range entities.length) :=
    settled_start entities
  have hspec := ownKeys_spec hk hsettled
  rw [withKeys_none hnone, ← Registry.places_unfrozen] at hspec
  exact hspec

/-- When borrowing ends, every entity gets the key it unfolds to; when it does not, no key can be
derived for some. -/
theorem deriveKeys_outcome (hk : Keyable entities) (hnone : ∀ entity ∈ entities,
      entity.primaryKey = none) :
    (BorrowingEnds entities ∧ ∃ keys, deriveKeys (.unfrozen entities) =
        (.unfrozen (withKeys entities keys), .ok ()) ∧ Settled entities keys []) ∨
    ¬BorrowingEnds entities ∧ ∃ owner relationship, (deriveKeys (.unfrozen entities)).2 =
      .error (.invalidRelationship owner relationship
        "id relationships form a cycle, no primary key can be derived") := by
  obtain ⟨keys, waiting, heq, hsettled, hborrowers⟩ := ownKeys_start hk hnone
  unfold deriveKeys
  rw [heq]
  rcases borrowKeys_spec hborrowers hsettled (Nat.le_refl _) with
    ⟨keys', hdone, hall⟩ | ⟨keys', still, hne, hstill, hstuck, hdone⟩
  · refine Or.inl ⟨?_, keys', hdone, hall⟩
    intro place hcircle
    obtain ⟨next, ⟨entity, hentity, _⟩, _⟩ := Relation.TransGen.head'_iff.1 hcircle
    obtain ⟨ids, hunfolds, _⟩ := hall.unfolded place entity hentity (by simp)
    exact not_transGen_of_unfolds hunfolds hcircle
  · refine Or.inr ⟨?_, _, _, congrArg Prod.snd hdone⟩
    obtain ⟨place, hcircle⟩ := hstill.exists_circle hk hne hstuck
    exact fun hends => hends place hcircle

end EntityPipeline
