-- The registry of a run: entities in the order of their registration, each under the name it was
-- registered with. The place of an entity never changes, so other entities refer to it by place.
-- A frozen entity can be read but no longer changed.
import EntityPipeline.Failure
import EntityPipeline.Prepared.Entity

namespace EntityPipeline

/-- A registered entity. -/
structure Slot where
  name : String
  entity : Entity
  frozen : Bool
deriving Repr, Inhabited

/-- Changes the entity in a slot unless it is frozen. -/
def Slot.update (slot : Slot) (change : Entity → Entity) : Except Failure Slot :=
  if slot.frozen then .error (.entityFrozen slot.name)
  else .ok { slot with entity := change slot.entity }

/-- The registered entities, first one first. -/
structure Registry where
  slots : List Slot := []
deriving Repr, Inhabited

namespace Registry

/-! ## Reading -/

/-- The names in order of registration. -/
def names (registry : Registry) : List String := registry.slots.map Slot.name

/-- The entities in order of registration. -/
def entities (registry : Registry) : List Entity := registry.slots.map Slot.entity

/-- The number of entities. -/
def size (registry : Registry) : Nat := registry.slots.length

/-- The places of all entities. -/
def places (registry : Registry) : List Nat := List.range registry.size

/-- The slot of a name. -/
def slot? (registry : Registry) (name : String) : Option Slot :=
  registry.slots.find? (·.name == name)

/-- The entity of a name. -/
def get? (registry : Registry) (name : String) : Option Entity :=
  (registry.slot? name).map Slot.entity

/-- The entity at a place. -/
def resolve? (registry : Registry) (place : Nat) : Option Entity :=
  registry.slots[place]?.map Slot.entity

/-- The place of a name. -/
def placeOf? (registry : Registry) (name : String) : Option Nat :=
  registry.slots.findIdx? (·.name == name)

/-- Whether the entity of a name is frozen. -/
def isFrozen (registry : Registry) (name : String) : Bool :=
  (registry.slot? name).any Slot.frozen

/-! ## Changing -/

/-- Registers an entity under its name, which must be new, and gives its place. -/
def insert (registry : Registry) (entity : Entity) : Except Failure (Registry × Nat) :=
  if registry.names.contains entity.name then .error (.duplicateEntity entity.name)
  else .ok (⟨registry.slots ++ [⟨entity.name, entity, false⟩]⟩, registry.size)

/-- Changes the entity at a place; a missing one is reported under the given name. -/
def updateAt (registry : Registry) (place : Nat) (missing : String) (change : Entity → Entity) :
    Except Failure Registry :=
  match registry.slots[place]? with
  | none => .error (.entityNotFound missing)
  | some slot =>
    match slot.update change with
    | .error e => .error e
    | .ok changed => .ok ⟨registry.slots.set place changed⟩

/-- Changes the entity at a place. -/
def updatePlace (registry : Registry) (place : Nat) (change : Entity → Entity) :
    Except Failure Registry :=
  registry.updateAt place ("#" ++ toString place) change

/-- Changes the entity of a name. -/
def update (registry : Registry) (name : String) (change : Entity → Entity) :
    Except Failure Registry :=
  match registry.placeOf? name with
  | none => .error (.entityNotFound name)
  | some place => registry.updateAt place name change

/-- Freezes the entity of a name. -/
def freeze (registry : Registry) (name : String) : Except Failure Registry :=
  match registry.placeOf? name with
  | none => .error (.entityNotFound name)
  | some place =>
    .ok ⟨registry.slots.modify place fun slot => { slot with frozen := true }⟩

end Registry

/-! ## Changing all entities -/

/-- Changes the slots in order up to the first one that is frozen or whose change fails. Slots
before it are changed, that one and all after it stay as they are. -/
def Slot.changeAll (change : Entity → Except Failure Entity) :
    List Slot → List Slot × Except Failure Unit
  | [] => ([], .ok ())
  | slot :: rest =>
    if slot.frozen then (slot :: rest, .error (.entityFrozen slot.name))
    else match change slot.entity with
      | .error e => (slot :: rest, .error e)
      | .ok entity =>
        let (changed, result) := changeAll change rest
        ({ slot with entity } :: changed, result)

end EntityPipeline
