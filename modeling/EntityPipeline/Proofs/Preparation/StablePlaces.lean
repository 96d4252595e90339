-- The registry over any sequence of calls. Whatever is called, and whichever of the calls fail, an
-- entity stays at the place that was given to it and under the name that it was registered with,
-- and once it is frozen it stays as it is.
import EntityPipeline.Registry
import Mathlib.Data.List.Induction
import Mathlib.Data.List.Nodup

namespace EntityPipeline

/-- A change of an entity that keeps its name. -/
structure EntityChange where
  apply : Entity → Entity
  name_apply : ∀ entity, (apply entity).name = entity.name

/-- What a call may make of a registered entity: its names stay, and all of it once it is frozen. -/
structure Slot.Keeps (slot changed : Slot) : Prop where
  name : changed.name = slot.name
  entity_name : changed.entity.name = slot.entity.name
  frozen : slot.frozen = true → changed = slot

namespace Slot.Keeps

variable {slot changed last : Slot}

theorem refl (slot : Slot) : slot.Keeps slot := ⟨rfl, rfl, fun _ => rfl⟩

theorem trans (h : slot.Keeps changed) (h' : changed.Keeps last) : slot.Keeps last where
  name := h'.name.trans h.name
  entity_name := h'.entity_name.trans h.entity_name
  frozen := by
    intro hfrozen
    obtain rfl := h.frozen hfrozen
    exact h'.frozen hfrozen

end Slot.Keeps

namespace Registry

variable {registry other : Registry} {entity : Entity} {name missing : String}
  {place given : Nat} {slot changed : Slot} {change : Entity → Entity} {failure : Failure}

/-! ## What an operation does -/

theorem mem_names : name ∈ registry.names ↔ ∃ slot ∈ registry.slots, slot.name = name :=
  List.mem_map

theorem insert_eq_ok : registry.insert entity = .ok (other, given) ↔
    entity.name ∉ registry.names ∧ given = registry.size ∧
      other = ⟨registry.slots ++ [⟨entity.name, entity, false⟩]⟩ := by
  unfold insert
  by_cases hname : entity.name ∈ registry.names
  · simp [hname]
  · simp [hname, eq_comm, and_comm]

theorem placeOf?_eq_none : registry.placeOf? name = none ↔ name ∉ registry.names := by
  simp [placeOf?, names, List.findIdx?_eq_none_iff]

theorem exists_of_placeOf? (h : registry.placeOf? name = some place) :
    ∃ slot, registry.slots[place]? = some slot ∧ slot.name = name := by
  obtain ⟨hlt, hname, -⟩ := List.findIdx?_eq_some_iff_getElem.1 h
  exact ⟨registry.slots[place], List.getElem?_eq_getElem hlt, eq_of_beq hname⟩

theorem name_of_placeOf? (h : registry.placeOf? name = some place)
    (hslot : registry.slots[place]? = some slot) : slot.name = name := by
  obtain ⟨found, hfound, hname⟩ := exists_of_placeOf? h
  rwa [Option.some.inj (hslot.symm.trans hfound)]

theorem slot?_eq_of_placeOf? (h : registry.placeOf? name = some place)
    (hslot : registry.slots[place]? = some slot) : registry.slot? name = some slot := by
  obtain ⟨hlt, hname, hbefore⟩ := List.findIdx?_eq_some_iff_getElem.1 h
  obtain ⟨_, rfl⟩ := List.getElem?_eq_some_iff.1 hslot
  exact List.find?_eq_some_iff_getElem.2
    ⟨hname, place, hlt, rfl, fun i hi => by simpa using hbefore i hi⟩

theorem updateAt_eq_ok : registry.updateAt place missing change = .ok other ↔
    ∃ slot, registry.slots[place]? = some slot ∧ slot.frozen = false ∧
      other = ⟨registry.slots.set place { slot with entity := change slot.entity }⟩ := by
  unfold updateAt Slot.update
  cases registry.slots[place]? with
  | none => simp
  | some slot =>
    cases hfrozen : slot.frozen with
    | true => simp [hfrozen]
    | false =>
      simp only [Bool.false_eq_true, if_false, Except.ok.injEq, Option.some.injEq,
        exists_eq_left', hfrozen, true_and]
      exact eq_comm

theorem updateAt_eq_error : registry.updateAt place missing change = .error failure ↔
    registry.slots[place]? = none ∧ failure = .entityNotFound missing ∨
      ∃ slot, registry.slots[place]? = some slot ∧ slot.frozen = true ∧
        failure = .entityFrozen slot.name := by
  unfold updateAt Slot.update
  cases registry.slots[place]? with
  | none => simpa using eq_comm
  | some slot =>
    cases hfrozen : slot.frozen with
    | true => simpa [hfrozen] using eq_comm
    | false => simp [hfrozen]

theorem freeze_eq_ok : registry.freeze name = .ok other ↔
    ∃ place slot, registry.placeOf? name = some place ∧ registry.slots[place]? = some slot ∧
      other = ⟨registry.slots.set place { slot with frozen := true }⟩ := by
  unfold freeze
  cases hplace : registry.placeOf? name with
  | none => simp
  | some place =>
    obtain ⟨slot, hslot, -⟩ := exists_of_placeOf? hplace
    simpa [hslot, List.modify_eq_set_getElem?] using eq_comm

theorem freeze_eq_error : registry.freeze name = .error failure ↔
    name ∉ registry.names ∧ failure = .entityNotFound name := by
  rw [← placeOf?_eq_none]
  unfold freeze
  cases registry.placeOf? name with
  | none => simpa using eq_comm
  | some place => simp

theorem update_eq_error : registry.update name change = .error failure ↔
    name ∉ registry.names ∧ failure = .entityNotFound name ∨
      ∃ place slot, registry.placeOf? name = some place ∧ registry.slots[place]? = some slot ∧
        slot.frozen = true ∧ failure = .entityFrozen name := by
  rw [← placeOf?_eq_none]
  unfold update
  cases hplace : registry.placeOf? name with
  | none => simpa using eq_comm
  | some place =>
    obtain ⟨slot, hslot, hname⟩ := exists_of_placeOf? hplace
    simp [updateAt_eq_error, hslot, hname]

/-! ## Finding an entity -/

theorem placeOf?_of_nodup (hn : registry.names.Nodup) (h : registry.names[place]? = some name) :
    registry.placeOf? name = some place := by
  obtain ⟨hlt, hname⟩ := List.getElem?_eq_some_iff.1 h
  have hplace : registry.names.findIdx (· == name) = place := by
    rw [← hname]
    exact hn.idxOf_getElem place hlt
  have hfound : registry.names.findIdx? (· == name) =
      some (registry.names.findIdx (· == name)) :=
    List.findIdx?_eq_some_of_exists ⟨name, List.mem_of_getElem? h, beq_self_eq_true _⟩
  rwa [hplace, Registry.names, List.findIdx?_map] at hfound

/-- Entities stand under their own names, which differ. -/
structure WellKeyed (registry : Registry) : Prop where
  names_nodup : registry.names.Nodup
  own_names : ∀ slot ∈ registry.slots, slot.entity.name = slot.name

/-- An entity is what all ways to find it by a name or a place lead to. -/
structure Holds (registry : Registry) (name : String) (place : Nat) (entity : Entity) : Prop where
  name_at : registry.names[place]? = some name
  place_at : registry.places[place]? = some place
  place_of_name : registry.placeOf? name = some place
  resolved : registry.resolve? place = some entity
  found : registry.get? name = some entity
  own_name : entity.name = name

namespace WellKeyed

theorem placeOf?_eq (h : registry.WellKeyed) (hslot : registry.slots[place]? = some slot) :
    registry.placeOf? slot.name = some place :=
  placeOf?_of_nodup h.names_nodup (by simp [names, hslot])

theorem holds (h : registry.WellKeyed) (hslot : registry.slots[place]? = some slot) :
    registry.Holds slot.name place slot.entity where
  name_at := by simp [names, hslot]
  place_at := by
    obtain ⟨hlt, -⟩ := List.getElem?_eq_some_iff.1 hslot
    simp [places, size, hlt]
  place_of_name := h.placeOf?_eq hslot
  resolved := by simp [resolve?, hslot]
  found := by simp [get?, slot?_eq_of_placeOf? (h.placeOf?_eq hslot) hslot]
  own_name := h.own_names slot (List.mem_of_getElem? hslot)

theorem isFrozen_eq (h : registry.WellKeyed) (hslot : registry.slots[place]? = some slot) :
    registry.isFrozen slot.name = slot.frozen := by
  simp [isFrozen, slot?_eq_of_placeOf? (h.placeOf?_eq hslot) hslot]

/-- An entity that is frozen is registered. -/
theorem exists_of_isFrozen (h : registry.WellKeyed) (hfrozen : registry.isFrozen name = true) :
    ∃ place slot, registry.placeOf? name = some place ∧ registry.slots[place]? = some slot ∧
      slot.name = name ∧ slot.frozen = true := by
  unfold isFrozen at hfrozen
  cases hslot : registry.slot? name with
  | none =>
    rw [hslot] at hfrozen
    cases hfrozen
  | some slot =>
    rw [hslot] at hfrozen
    obtain rfl : slot.name = name := by simpa using List.find?_some hslot
    obtain ⟨place, hplace⟩ := List.getElem?_of_mem (List.mem_of_find?_eq_some hslot)
    exact ⟨place, slot, h.placeOf?_eq hplace, hplace, rfl, hfrozen⟩

end WellKeyed

theorem Holds.exists_slot (h : registry.Holds name place entity) :
    ∃ slot, registry.slots[place]? = some slot ∧ slot.name = name ∧ slot.entity = entity := by
  obtain ⟨slot, hslot, hname⟩ := exists_of_placeOf? h.place_of_name
  have hresolved := h.resolved
  rw [resolve?, hslot] at hresolved
  exact ⟨slot, hslot, hname, Option.some.inj hresolved⟩

/-! ## Calls -/

/-- What is called on a registry that is not cleared. -/
inductive Call where
  | insert (entity : Entity)
  | freeze (name : String)
  | update (name : String) (change : EntityChange)
  | updatePlace (place : Nat) (change : EntityChange)

/-- Whatever is registered stays at its place, under its name, and as it is once it is frozen. -/
def Continues (registry later : Registry) : Prop :=
  ∀ (place : Nat) (slot : Slot), registry.slots[place]? = some slot →
    ∃ changed, later.slots[place]? = some changed ∧ slot.Keeps changed

theorem continues_refl (registry : Registry) : registry.Continues registry :=
  fun _ slot hslot => ⟨slot, hslot, .refl slot⟩

theorem Continues.trans {later last : Registry} (h : registry.Continues later)
    (h' : later.Continues last) : registry.Continues last := by
  intro place slot hslot
  obtain ⟨changed, hchanged, hkeeps⟩ := h place slot hslot
  obtain ⟨final, hfinal, hkeeps'⟩ := h' place changed hchanged
  exact ⟨final, hfinal, hkeeps.trans hkeeps'⟩

namespace Call

variable {call : Call} {later : Registry}

/-- What comes of a call. -/
def on (registry : Registry) : Call → Except Failure Registry
  | .insert entity => (registry.insert entity).map Prod.fst
  | .freeze name => registry.freeze name
  | .update name change => registry.update name change.apply
  | .updatePlace place change => registry.updatePlace place change.apply

/-- The name that a call is to register an entity under. -/
def registers? : Call → Option String
  | .insert entity => some entity.name
  | _ => none

/-- The registry after a call. One that fails leaves it as it was. -/
def leave (registry : Registry) (call : Call) : Registry :=
  (call.on registry).toOption.getD registry

/-- What a call does that does not fail: it registers an entity behind all others, or it changes one
of those that are registered. -/
inductive Does (registry : Registry) : Call → Registry → Prop where
  | adds {entity : Entity} (hnew : entity.name ∉ registry.names) :
      Does registry (.insert entity) ⟨registry.slots ++ [⟨entity.name, entity, false⟩]⟩
  | changes {call : Call} {place : Nat} {slot changed : Slot} (hcall : call.registers? = none)
      (hslot : registry.slots[place]? = some slot) (hkeeps : slot.Keeps changed) :
      Does registry call ⟨registry.slots.set place changed⟩

theorem insert_on_eq_ok : (Call.insert entity).on registry = .ok later ↔
    entity.name ∉ registry.names ∧
      later = ⟨registry.slots ++ [⟨entity.name, entity, false⟩]⟩ := by
  unfold on Registry.insert
  by_cases hname : entity.name ∈ registry.names
  · simp [hname, Except.map]
  · simpa [hname, Except.map] using eq_comm

theorem insert_on_eq_error : (Call.insert entity).on registry = .error failure ↔
    entity.name ∈ registry.names ∧ failure = .duplicateEntity entity.name := by
  unfold on Registry.insert
  by_cases hname : entity.name ∈ registry.names
  · simpa [hname, Except.map] using eq_comm
  · simp [hname, Except.map]

theorem does_of_updateAt {change : EntityChange} (hcall : call.registers? = none)
    (h : registry.updateAt place missing change.apply = .ok later) : call.Does registry later := by
  obtain ⟨slot, hslot, hopen, rfl⟩ := updateAt_eq_ok.1 h
  refine .changes hcall hslot ⟨rfl, change.name_apply slot.entity, fun hfrozen => ?_⟩
  rw [hopen] at hfrozen
  cases hfrozen

theorem does_of_on (h : call.on registry = .ok later) : call.Does registry later := by
  cases call with
  | insert entity =>
    obtain ⟨hnew, rfl⟩ := insert_on_eq_ok.1 h
    exact .adds hnew
  | freeze name =>
    obtain ⟨place, slot, -, hslot, rfl⟩ := freeze_eq_ok.1 h
    refine .changes rfl hslot ⟨rfl, rfl, fun hfrozen => ?_⟩
    rw [← hfrozen]
  | update name change =>
    have h : registry.update name change.apply = .ok later := h
    unfold Registry.update at h
    split at h
    · cases h
    · exact does_of_updateAt rfl h
  | updatePlace place change => exact does_of_updateAt rfl h

theorem Does.continues (h : call.Does registry later) : registry.Continues later := by
  intro place slot hslot
  obtain ⟨hlt, -⟩ := List.getElem?_eq_some_iff.1 hslot
  cases h with
  | adds hnew => exact ⟨slot, by rw [List.getElem?_append_left hlt, hslot], .refl slot⟩
  | @changes _ place' slot' changed hcall hslot' hkeeps =>
    by_cases hplace : place' = place
    · subst hplace
      obtain rfl := Option.some.inj (hslot.symm.trans hslot')
      exact ⟨changed, by rw [List.getElem?_set_self hlt], hkeeps⟩
    · exact ⟨slot, by rw [List.getElem?_set_ne hplace, hslot], .refl slot⟩

theorem Does.names_eq (h : call.Does registry later) :
    later.names = registry.names ++ call.registers?.toList := by
  cases h with
  | adds hnew => simp [names, registers?]
  | @changes _ place slot changed hcall hslot hkeeps =>
    obtain ⟨hlt, rfl⟩ := List.getElem?_eq_some_iff.1 hslot
    have hlt' : place < (registry.slots.map Slot.name).length := by simpa using hlt
    have hsame : registry.slots[place].name = (registry.slots.map Slot.name)[place] := by simp
    rw [hcall, names, List.map_set, hkeeps.name, hsame, List.set_getElem_self]
    exact (List.append_nil _).symm

theorem Does.new (h : call.Does registry later) (hname : call.registers? = some name) :
    name ∉ registry.names := by
  cases h with
  | adds hnew => exact Option.some.inj hname ▸ hnew
  | changes hcall =>
    rw [hcall] at hname
    cases hname

theorem Does.wellKeyed (h : call.Does registry later) (hkeyed : registry.WellKeyed) :
    later.WellKeyed := by
  have hnames := h.names_eq
  cases h with
  | adds hnew =>
    refine ⟨?_, fun slot hin => ?_⟩
    · rw [hnames]
      exact List.nodup_append.2 ⟨hkeyed.names_nodup, List.nodup_singleton _, by
        rintro _ hin _ hsame rfl
        exact hnew (List.mem_singleton.1 hsame ▸ hin)⟩
    · rcases List.mem_append.1 hin with hin | hin
      · exact hkeyed.own_names slot hin
      · rw [List.mem_singleton.1 hin]
  | changes hcall hslot hkeeps =>
    refine ⟨?_, fun slot hin => ?_⟩
    · rw [hnames, hcall]
      simpa using hkeyed.names_nodup
    · rcases List.mem_or_eq_of_mem_set hin with hin | rfl
      · exact hkeyed.own_names slot hin
      · rw [hkeeps.entity_name, hkeeps.name]
        exact hkeyed.own_names _ (List.mem_of_getElem? hslot)

theorem leave_of_ok (h : call.on registry = .ok later) : call.leave registry = later := by
  unfold leave
  rw [h]
  rfl

theorem leave_of_error (h : call.on registry = .error failure) :
    call.leave registry = registry := by
  unfold leave
  rw [h]
  rfl

/-- A call does what it can do or fails. -/
theorem does_or_fails (registry : Registry) (call : Call) :
    call.Does registry (call.leave registry) ∨
      (∃ failure, call.on registry = .error failure) ∧ call.leave registry = registry := by
  cases h : call.on registry with
  | error failure => exact Or.inr ⟨⟨failure, rfl⟩, leave_of_error h⟩
  | ok later =>
    rw [leave_of_ok h]
    exact Or.inl (does_of_on h)

/-! ## Calls that fail -/

/-- Why a call fails. -/
inductive Refused (registry : Registry) : Call → Failure → Prop where
  | taken {entity : Entity} (h : entity.name ∈ registry.names) :
      Refused registry (.insert entity) (.duplicateEntity entity.name)
  | unknown {name : String} (h : name ∉ registry.names) :
      Refused registry (.freeze name) (.entityNotFound name)
  | missing {name : String} {change : EntityChange} (h : name ∉ registry.names) :
      Refused registry (.update name change) (.entityNotFound name)
  | frozen {name : String} {change : EntityChange} (h : registry.isFrozen name = true) :
      Refused registry (.update name change) (.entityFrozen name)
  | stale {place : Nat} {change : EntityChange} (h : registry.size ≤ place) :
      Refused registry (.updatePlace place change) (.entityNotFound ("#" ++ toString place))
  | frozenPlace {place : Nat} {name : String} {change : EntityChange}
      (hname : registry.names[place]? = some name) (h : registry.isFrozen name = true) :
      Refused registry (.updatePlace place change) (.entityFrozen name)

theorem Refused.taken_name (h : call.Refused registry failure)
    (hname : call.registers? = some name) : name ∈ registry.names := by
  cases h with
  | taken htaken => exact Option.some.inj hname ▸ htaken
  | _ => cases hname

theorem refused_of_on (hkeyed : registry.WellKeyed) (h : call.on registry = .error failure) :
    call.Refused registry failure := by
  cases call with
  | insert entity =>
    obtain ⟨htaken, rfl⟩ := insert_on_eq_error.1 h
    exact .taken htaken
  | freeze name =>
    obtain ⟨hunknown, rfl⟩ := freeze_eq_error.1 h
    exact .unknown hunknown
  | update name change =>
    obtain ⟨hmissing, rfl⟩ | ⟨place, slot, hplace, hslot, hfrozen, rfl⟩ := update_eq_error.1 h
    · exact .missing hmissing
    · obtain rfl := name_of_placeOf? hplace hslot
      exact .frozen ((hkeyed.isFrozen_eq hslot).trans hfrozen)
  | updatePlace place change =>
    obtain ⟨hnone, rfl⟩ | ⟨slot, hslot, hfrozen, rfl⟩ := updateAt_eq_error.1 h
    · exact .stale (List.getElem?_eq_none_iff.1 hnone)
    · exact .frozenPlace (hkeyed.holds hslot).name_at ((hkeyed.isFrozen_eq hslot).trans hfrozen)

/-- A call fails just when there is a reason to refuse it. -/
theorem refused_iff (hkeyed : registry.WellKeyed) :
    call.on registry = .error failure ↔ call.Refused registry failure := by
  refine ⟨refused_of_on hkeyed, fun h => ?_⟩
  cases h with
  | taken htaken => exact insert_on_eq_error.2 ⟨htaken, rfl⟩
  | unknown hunknown => exact freeze_eq_error.2 ⟨hunknown, rfl⟩
  | missing hmissing => exact update_eq_error.2 (Or.inl ⟨hmissing, rfl⟩)
  | frozen hfrozen =>
    obtain ⟨place, slot, hplace, hslot, -, hkept⟩ := hkeyed.exists_of_isFrozen hfrozen
    exact update_eq_error.2 (Or.inr ⟨place, slot, hplace, hslot, hkept, rfl⟩)
  | stale hstale =>
    exact updateAt_eq_error.2 (Or.inl ⟨List.getElem?_eq_none_iff.2 hstale, rfl⟩)
  | frozenPlace hname hfrozen =>
    obtain ⟨place, slot, hplace, hslot, rfl, hkept⟩ := hkeyed.exists_of_isFrozen hfrozen
    obtain rfl := Option.some.inj (hplace.symm.trans (placeOf?_of_nodup hkeyed.names_nodup hname))
    exact updateAt_eq_error.2 (Or.inr ⟨slot, hslot, hkept, rfl⟩)

end Call

/-! ## Sequences of calls -/

/-- The registry after calls on an empty one. -/
def afterCalls (calls : List Call) : Registry := calls.foldl Call.leave {}

theorem afterCalls_append (calls rest : List Call) :
    afterCalls (calls ++ rest) = rest.foldl Call.leave (afterCalls calls) := List.foldl_append

/-- What holds of a registry and is kept by what a call can do holds after all calls. -/
theorem foldl_leave_induction {P : Registry → Prop} (rest : List Call) (h : P registry)
    (hstep : ∀ call registry later, P registry → Call.Does registry call later → P later) :
    P (rest.foldl Call.leave registry) := by
  induction rest generalizing registry with
  | nil => exact h
  | cons call rest ih =>
    rcases Call.does_or_fails registry call with hdoes | ⟨-, hsame⟩
    · exact ih (hstep call registry _ h hdoes)
    · rw [List.foldl_cons, hsame]
      exact ih h

theorem continues_foldl (rest : List Call) (registry : Registry) :
    registry.Continues (rest.foldl Call.leave registry) :=
  foldl_leave_induction rest (continues_refl registry) fun _ _ _ h hdoes => h.trans hdoes.continues

theorem wellKeyed_afterCalls (calls : List Call) : (afterCalls calls).WellKeyed :=
  foldl_leave_induction calls ⟨List.nodup_nil, List.forall_mem_nil _⟩ fun _ _ _ h hdoes =>
    hdoes.wellKeyed h

/-- What is registered is found for ever by the name and the place that it was found by. -/
theorem Holds.continued {later : Registry} (h : registry.Holds name place entity)
    (hcontinues : registry.Continues later) (hkeyed : later.WellKeyed) :
    ∃ current, later.Holds name place current := by
  obtain ⟨slot, hslot, rfl, rfl⟩ := h.exists_slot
  obtain ⟨changed, hchanged, hkeeps⟩ := hcontinues place slot hslot
  exact ⟨changed.entity, hkeeps.name ▸ hkeyed.holds hchanged⟩

/-- What is frozen stays so and is the same for ever. -/
theorem Holds.continued_frozen {later : Registry} (h : registry.Holds name place entity)
    (hfrozen : registry.isFrozen name = true) (hkeyed : registry.WellKeyed)
    (hcontinues : registry.Continues later) (hkeyed' : later.WellKeyed) :
    later.Holds name place entity ∧ later.isFrozen name = true := by
  obtain ⟨slot, hslot, rfl, rfl⟩ := h.exists_slot
  obtain ⟨changed, hchanged, hkeeps⟩ := hcontinues place slot hslot
  rw [hkeyed.isFrozen_eq hslot] at hfrozen
  obtain rfl := hkeeps.frozen hfrozen
  exact ⟨hkeyed'.holds hchanged, (hkeyed'.isFrozen_eq hchanged).trans hfrozen⟩

theorem removeAll_singleton (name : String) (names : List String) :
    [name].removeAll names = if name ∈ names then [] else [name] := by
  by_cases h : name ∈ names <;> simp [List.removeAll, h]

/-- A call adds the name that it registers unless it is there. -/
theorem names_leave (hkeyed : registry.WellKeyed) (call : Call) : (call.leave registry).names =
    registry.names ++ call.registers?.toList.removeAll registry.names := by
  rcases Call.does_or_fails registry call with h | ⟨⟨failure, hfails⟩, h⟩
  · rw [h.names_eq]
    cases hname : call.registers? with
    | none => rfl
    | some name => simp [removeAll_singleton, h.new hname]
  · rw [h]
    cases hname : call.registers? with
    | none => exact (List.append_nil _).symm
    | some name =>
      have htaken := ((Call.refused_iff hkeyed).1 hfails).taken_name hname
      simp [removeAll_singleton, htaken]

/-- The names are those that entities were to be registered under, each where it first came. -/
theorem names_afterCalls (calls : List Call) :
    (afterCalls calls).names = (calls.filterMap Call.registers?).eraseDups := by
  induction calls using List.reverseRecOn with
  | nil => rfl
  | append_singleton calls call ih =>
    have hleft : (afterCalls (calls ++ [call])).names = (call.leave (afterCalls calls)).names := by
      rw [afterCalls_append]
      rfl
    rw [hleft, names_leave (wellKeyed_afterCalls calls), ih, List.filterMap_append,
      List.eraseDups_append]
    cases hname : call.registers? with
    | none => simp [hname, List.removeAll]
    | some name =>
      simp only [List.filterMap_cons, List.filterMap_nil, hname, Option.toList_some,
        removeAll_singleton, List.mem_eraseDups]
      split <;> rfl

theorem afterCalls_cons (calls : List Call) (call : Call) (rest : List Call) :
    afterCalls (calls ++ call :: rest) =
      rest.foldl Call.leave (call.leave (afterCalls calls)) := by
  rw [afterCalls_append, List.foldl_cons]

/-! ## What single calls lead to -/

/-- A new entity is found at the place that is given to it. -/
theorem holds_insert (hkeyed : registry.WellKeyed)
    (h : registry.insert entity = .ok (other, place)) :
    (Call.insert entity).leave registry = other ∧ other.Holds entity.name place entity := by
  have hon : (Call.insert entity).on registry = .ok other := by
    show (registry.insert entity).map Prod.fst = _
    rw [h]
    rfl
  have hkeyed' := (Call.does_of_on hon).wellKeyed hkeyed
  obtain ⟨-, rfl, rfl⟩ := insert_eq_ok.1 h
  exact ⟨Call.leave_of_ok hon, hkeyed'.holds List.getElem?_concat_length⟩

/-- An entity is frozen as it is. -/
theorem holds_freeze (hkeyed : registry.WellKeyed) (h : registry.freeze name = .ok other) :
    ∃ place entity, registry.Holds name place entity ∧ other.Holds name place entity ∧
      other.isFrozen name = true := by
  have hon : (Call.freeze name).on registry = .ok other := h
  have hkeyed' := (Call.does_of_on hon).wellKeyed hkeyed
  obtain ⟨place, slot, hplace, hslot, rfl⟩ := freeze_eq_ok.1 h
  obtain rfl := name_of_placeOf? hplace hslot
  obtain ⟨hlt, -⟩ := List.getElem?_eq_some_iff.1 hslot
  have hfrozen : (registry.slots.set place { slot with frozen := true })[place]? =
      some { slot with frozen := true } := List.getElem?_set_self hlt
  have hholds := hkeyed'.holds hfrozen
  have hkept := hkeyed'.isFrozen_eq hfrozen
  exact ⟨place, slot.entity, hkeyed.holds hslot, hholds, hkept⟩

theorem get?_eq_none : registry.get? name = none ↔ name ∉ registry.names := by
  simp [get?, slot?, names]

/-- A change at a place is not seen by other names. -/
theorem get?_set_of_ne {other : String} (hkeyed : registry.WellKeyed)
    (hslot : registry.slots[place]? = some slot)
    (hkeyed' : WellKeyed ⟨registry.slots.set place changed⟩)
    (hnames : names ⟨registry.slots.set place changed⟩ = registry.names)
    (hother : other ≠ slot.name) :
    get? ⟨registry.slots.set place changed⟩ other = registry.get? other := by
  by_cases hin : other ∈ registry.names
  · obtain ⟨found, hfound, rfl⟩ := mem_names.1 hin
    obtain ⟨place', hplace'⟩ := List.getElem?_of_mem hfound
    have hne : place ≠ place' := by
      rintro rfl
      exact hother (congrArg Slot.name (Option.some.inj (hplace'.symm.trans hslot)))
    have hkept : (registry.slots.set place changed)[place']? = some found := by
      rw [List.getElem?_set_ne hne, hplace']
    rw [(hkeyed'.holds hkept).found, (hkeyed.holds hplace').found]
  · rw [get?_eq_none.2 hin, get?_eq_none.2 (hnames ▸ hin)]

/-- An entity that is not frozen can be changed, by its name and by its place, and no other one is
changed with it. -/
theorem holds_update {change : EntityChange} (hkeyed : registry.WellKeyed)
    (h : registry.Holds name place entity) (hopen : registry.isFrozen name = false) :
    ∃ changed, (Call.update name change).on registry = .ok changed ∧
      (Call.updatePlace place change).on registry = .ok changed ∧
      changed.Holds name place (change.apply entity) ∧
      ∀ other ≠ name, changed.get? other = registry.get? other := by
  obtain ⟨slot, hslot, rfl, rfl⟩ := h.exists_slot
  rw [hkeyed.isFrozen_eq hslot] at hopen
  have hupdate : (Call.update slot.name change).on registry =
      .ok ⟨registry.slots.set place { slot with entity := change.apply slot.entity }⟩ := by
    show registry.update slot.name change.apply = _
    unfold update
    rw [h.place_of_name]
    exact updateAt_eq_ok.2 ⟨slot, hslot, hopen, rfl⟩
  have hdoes := Call.does_of_on hupdate
  have hkeyed' := hdoes.wellKeyed hkeyed
  obtain ⟨hlt, -⟩ := List.getElem?_eq_some_iff.1 hslot
  refine ⟨_, hupdate, updateAt_eq_ok.2 ⟨slot, hslot, hopen, rfl⟩,
    hkeyed'.holds (List.getElem?_set_self hlt), fun other hother => ?_⟩
  exact get?_set_of_ne hkeyed hslot hkeyed' (hdoes.names_eq.trans (List.append_nil _)) hother

/-- Over any calls on an empty registry, whichever of them fail: the names are those of the entities
that were registered, in that order and each once. An entity is found for ever by its name and at
the place that was given to it. A call that fails has a reason and changes nothing. An entity that
is frozen is the same for ever, and any other one can still be changed. -/
theorem registered_entities_stay (calls : List Call) :
    (afterCalls calls).names.Nodup ∧
    (afterCalls calls).names = (calls.filterMap Call.registers?).eraseDups ∧
    (∀ entity registered place, (afterCalls calls).insert entity = .ok (registered, place) →
      registered.Holds entity.name place entity ∧
      ∀ rest, ∃ current,
        (afterCalls (calls ++ .insert entity :: rest)).Holds entity.name place current) ∧
    (∀ call failure, call.on (afterCalls calls) = .error failure →
      call.Refused (afterCalls calls) failure ∧
      ∀ rest, afterCalls (calls ++ call :: rest) = afterCalls (calls ++ rest)) ∧
    (∀ name frozen, (afterCalls calls).freeze name = .ok frozen → ∃ place entity,
      (afterCalls calls).Holds name place entity ∧
      ∀ rest, (afterCalls (calls ++ .freeze name :: rest)).Holds name place entity ∧
        (afterCalls (calls ++ .freeze name :: rest)).isFrozen name = true) ∧
    ∀ name place entity change, (afterCalls calls).Holds name place entity →
      (afterCalls calls).isFrozen name = false →
      ∃ changed, (Call.update name change).on (afterCalls calls) = .ok changed ∧
        (Call.updatePlace place change).on (afterCalls calls) = .ok changed ∧
        changed.Holds name place (change.apply entity) ∧
        ∀ other ≠ name, changed.get? other = (afterCalls calls).get? other := by
  have hkeyed := wellKeyed_afterCalls calls
  refine ⟨hkeyed.names_nodup, names_afterCalls calls, fun entity registered place hinsert => ?_,
    fun call failure hfails => ?_, fun name frozen hfreeze => ?_,
    fun name place entity change hholds hopen => holds_update hkeyed hholds hopen⟩
  · obtain ⟨hleave, hholds⟩ := holds_insert hkeyed hinsert
    refine ⟨hholds, fun rest => ?_⟩
    have hlater := wellKeyed_afterCalls (calls ++ .insert entity :: rest)
    rw [afterCalls_cons, hleave] at hlater ⊢
    exact hholds.continued (continues_foldl rest registered) hlater
  · refine ⟨(Call.refused_iff hkeyed).1 hfails, fun rest => ?_⟩
    rw [afterCalls_cons, Call.leave_of_error hfails, afterCalls_append]
  · obtain ⟨place, entity, hholds, hholds', hfrozen⟩ := holds_freeze hkeyed hfreeze
    have hon : (Call.freeze name).on (afterCalls calls) = .ok frozen := hfreeze
    refine ⟨place, entity, hholds, fun rest => ?_⟩
    have hlater := wellKeyed_afterCalls (calls ++ .freeze name :: rest)
    rw [afterCalls_cons, Call.leave_of_ok hon] at hlater ⊢
    exact hholds'.continued_frozen hfrozen ((Call.does_of_on hon).wellKeyed hkeyed)
      (continues_foldl rest frozen) hlater

/-- A change of the note on an entity. -/
def noting (note : String) : EntityChange :=
  ⟨fun entity => { entity with javadoc := some note }, fun _ => rfl⟩

/-- An entity that is called as it is stored. -/
def stored (name : String) : Entity := .bare { name } default name

/-- What is called before the book is frozen. -/
def callsBefore : List Call :=
  [.insert (stored "Book"), .insert (stored "Book"), .insert (stored "Author")]

/-- What is called after that. -/
def callsAfter : List Call :=
  [.update "Book" (noting "lost"), .updatePlace 1 (noting "kept"), .updatePlace 0 (noting "lost"),
    .insert (stored "Book")]

/-- A book that is frozen keeps its place and all that it has, whatever is called after that; the
author behind it is still given a note, and a second book is never registered. -/
theorem frozen_book_stays :
    (afterCalls (callsBefore ++ .freeze "Book" :: callsAfter)).names = ["Book", "Author"] ∧
      (∃ place entity, (afterCalls callsBefore).Holds "Book" place entity ∧
        (afterCalls (callsBefore ++ .freeze "Book" :: callsAfter)).Holds "Book" place entity) ∧
      ((afterCalls (callsBefore ++ .freeze "Book" :: callsAfter)).get? "Author").map
        Entity.javadoc = some (some "kept") := by
  obtain ⟨-, hnames, -⟩ := registered_entities_stay (callsBefore ++ .freeze "Book" :: callsAfter)
  obtain ⟨-, -, -, -, hfrozen, -⟩ := registered_entities_stay callsBefore
  obtain ⟨place, entity, hholds, hlater⟩ := hfrozen "Book" _ rfl
  exact ⟨hnames.trans (by decide), ⟨place, entity, hholds, (hlater callsAfter).1⟩, by decide⟩

end Registry

end EntityPipeline
