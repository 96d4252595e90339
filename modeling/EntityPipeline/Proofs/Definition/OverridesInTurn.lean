-- Overrides laid over settings in turn. Each one that is taken writes the whole configuration, lays
-- its members over it and reads it again; one that is not taken leaves the configuration as it was.
-- Which overrides are taken depends on them alone, and in the end each key has what the last of
-- those that have it says, or else what was written for it at first.
import EntityPipeline.Proofs.Definition.Settings
import EntityPipeline.Proofs.Json.Merging

namespace EntityPipeline

open Json

namespace ApplicationConfig

variable {config overridden : ApplicationConfig} {override value : Json} {key : String}
  {overrides : List Json} {layer : List (String × Json)}

/-! ## Overrides -/

/-- Whether a value can stand under a key: a configuration of that member alone can be read. -/
def isValid (key : String) (value : Json) : Bool := (ofJson (.object [(key, value)])).isOk

/-- Whether a value can be laid over configurations: it is null, or an object whose members are
valid as far as a configuration knows their keys. -/
def isOverride : Json → Bool
  | .null => true
  | .object members =>
    members.all fun (key, value) => !(keys schema).contains key || isValid key value
  | _ => false

/-- The configuration with an override laid over it; as it was if that cannot be done. -/
def overriddenBy (config : ApplicationConfig) (override : Json) : ApplicationConfig :=
  (config.mergedWith override).toOption.getD config

/-- The configuration with overrides laid over it in turn. -/
def overriddenByAll (config : ApplicationConfig) (overrides : List Json) : ApplicationConfig :=
  overrides.foldl overriddenBy config

theorem isValid_iff : isValid key value = true ↔ checkOf key (Draft.ofJson value) = .ok () := by
  unfold isValid
  constructor
  · intro h
    cases hread : ofJson (.object [(key, value)]) with
    | error e => simp [hread, Except.isOk, Except.toBool] at h
    | ok config => exact memberwise.checked hread (key, value) (List.mem_singleton_self _)
  · intro h
    obtain ⟨config, hread⟩ := memberwise.reads (List.pairwise_singleton _ (key, value))
      (List.forall_mem_singleton.2 h)
    rw [hread]
    rfl

/-- Any value can stand under a key that a configuration does not know. -/
theorem checkOf_of_unknown (hkey : key ∉ keys schema) :
    checkOf key (Draft.ofJson value) = .ok () := by
  have hlookup : schema.lookup key = none := lookup_eq_none_iff.2 hkey
  rw [checkOf, hlookup]
  exact check_value value

theorem isOverride_iff : isOverride override = true ↔ ∃ layer, layer? override = some layer ∧
    ∀ member ∈ layer, checkOf member.1 (Draft.ofJson member.2) = .ok () := by
  cases override with
  | null => exact iff_of_true rfl ⟨[], rfl, List.forall_mem_nil _⟩
  | object members =>
    simp only [isOverride, List.all_eq_true, layer?, Option.some.injEq, exists_eq_left']
    refine forall₂_congr fun member _ => ?_
    by_cases hkey : member.1 ∈ keys schema
    · simp [hkey, isValid_iff]
    · simp [hkey, checkOf_of_unknown hkey]
  | _ => simp [isOverride, layer?]

/-! ## One override -/

theorem written_ne_nil (config : ApplicationConfig) : config.written ≠ [] := by
  refine sortMembers_ne_nil ?_
  simp [writtenOf, slots, Slot.members_single]

theorem mergedWith_of_layer (hlayer : layer? override = some layer) :
    config.mergedWith override = ofJson (.object (overlay config.written layer)) := by
  unfold mergedWith
  rw [toJson_eq_object, merge_of_layer config.written_ne_nil hlayer]

/-- Every configuration that was read takes the same overrides. -/
theorem exists_mergedWith_iff (hread : ∃ value, ofJson value = .ok config)
    (hsorted : override.IsSorted) :
    (∃ overridden, config.mergedWith override = .ok overridden) ↔ isOverride override = true := by
  obtain ⟨_, hread⟩ := hread
  rw [isOverride_iff]
  cases hlayer : layer? override with
  | none =>
    obtain ⟨e, hfails⟩ := merge_of_no_layer config.written_ne_nil hlayer
    simp [mergedWith, toJson_eq_object, hfails]
  | some layer =>
    have hincreasing := increasing_layer hsorted hlayer
    rw [mergedWith_of_layer hlayer]
    simp only [Option.some.injEq, exists_eq_left']
    constructor
    · rintro ⟨overridden, h⟩ member hin
      refine memberwise.checked h member (mem_of_lookup ?_)
      rw [lookup_overlay hincreasing.nodup, lookup_eq_some hincreasing.nodup hin, Option.some_or]
    · intro h
      refine memberwise.reads (config.increasing_written.overlay layer) fun member hin => ?_
      rcases mem_of_mem_overlay hin with hin | hin
      · exact memberwise.checked (memberwise.again hread) member hin
      · exact h member hin

theorem overriddenBy_of_ok (h : config.mergedWith override = .ok overridden) :
    config.overriddenBy override = overridden := by
  rw [overriddenBy, h]
  rfl

theorem overriddenBy_of_not (hread : ∃ value, ofJson value = .ok config)
    (hsorted : override.IsSorted) (h : isOverride override = false) :
    config.overriddenBy override = config := by
  rw [overriddenBy]
  cases hmerged : config.mergedWith override with
  | error e => rfl
  | ok overridden =>
    have htaken := (exists_mergedWith_iff hread hsorted).1 ⟨overridden, hmerged⟩
    rw [h] at htaken
    cases htaken

/-- Null and the empty object change nothing. -/
theorem mergedWith_empty (hread : ∃ value, ofJson value = .ok config)
    (hlayer : layer? override = some []) : config.mergedWith override = .ok config := by
  obtain ⟨_, hread⟩ := hread
  rw [mergedWith_of_layer hlayer, overlay_nil, memberwise.again hread]

/-! ## Overrides in turn -/

/-- The members that overrides lay over a configuration, those left out that are not taken. -/
def settledBy : List Json → List (String × Json)
  | [] => []
  | override :: rest =>
    if isOverride override then overlay ((layer? override).getD []) (settledBy rest)
    else settledBy rest

theorem increasing_settledBy (hsorted : ∀ override ∈ overrides, override.IsSorted) :
    Increasing (settledBy overrides) := by
  induction overrides with
  | nil => exact List.Pairwise.nil
  | cons override rest ih =>
    obtain ⟨hfirst, hrest⟩ := List.forall_mem_cons.1 hsorted
    unfold settledBy
    split
    · rename_i htaken
      obtain ⟨layer, hlayer, -⟩ := isOverride_iff.1 htaken
      rw [hlayer]
      exact (increasing_layer hfirst hlayer).overlay _
    · exact ih hrest

/-- What is laid over a key is its value in the last override that is taken and has it. -/
theorem lookup_settledBy (hsorted : ∀ override ∈ overrides, override.IsSorted) (key : String) :
    (settledBy overrides).lookup key = lastUnder key (overrides.filter isOverride) := by
  induction overrides with
  | nil => rfl
  | cons override rest ih =>
    obtain ⟨-, hrest⟩ := List.forall_mem_cons.1 hsorted
    unfold settledBy
    by_cases htaken : isOverride override = true
    · obtain ⟨layer, hlayer, -⟩ := isOverride_iff.1 htaken
      have hget : override.get? key = layer.lookup key := by
        cases override with
        | null => obtain rfl := Option.some.inj hlayer; rfl
        | object members => obtain rfl := Option.some.inj hlayer; rfl
        | _ => cases hlayer
      rw [if_pos htaken, List.filter_cons_of_pos htaken, hlayer, lastUnder_cons, Option.getD_some,
        lookup_overlay (increasing_settledBy hrest).nodup, ih hrest, hget]
    · rw [if_neg htaken, List.filter_cons_of_neg htaken, ih hrest]

/-- Overrides that are laid over a configuration in turn may as well be laid over it at once. -/
theorem ofJson_settledBy (hread : ∃ value, ofJson value = .ok config)
    (hsorted : ∀ override ∈ overrides, override.IsSorted) :
    ofJson (.object (overlay config.written (settledBy overrides))) =
      .ok (config.overriddenByAll overrides) := by
  induction overrides generalizing config with
  | nil =>
    obtain ⟨_, hread⟩ := hread
    rw [settledBy, overlay_nil, memberwise.again hread]
    rfl
  | cons override rest ih =>
    obtain ⟨hfirst, hrest⟩ := List.forall_mem_cons.1 hsorted
    have hstep : config.overriddenByAll (override :: rest) =
        (config.overriddenBy override).overriddenByAll rest := rfl
    rw [hstep, settledBy]
    cases htaken : isOverride override with
    | false =>
      rw [overriddenBy_of_not hread hfirst htaken, if_neg Bool.false_ne_true]
      exact ih hread hrest
    | true =>
      obtain ⟨layer, hlayer, -⟩ := isOverride_iff.1 htaken
      obtain ⟨middle, hmiddle⟩ := (exists_mergedWith_iff hread hfirst).2 htaken
      rw [overriddenBy_of_ok hmiddle, if_pos rfl, hlayer, Option.getD_some]
      rw [mergedWith_of_layer hlayer] at hmiddle
      have hlast := ih ⟨_, hmiddle⟩ hrest
      -- the first layer stays below the others, for the configuration in between is written from it
      obtain ⟨once, honce, hsame⟩ := memberwise.layered (fun _ => True)
        config.increasing_written middle.increasing_written (increasing_layer hfirst hlayer)
        (increasing_settledBy hrest) hmiddle (fun _ _ => rfl) hlast
      rw [honce, memberwise.ext honce hlast fun key => hsame key trivial]

/-! ## Members that a configuration does not know -/

theorem isSorted_of_mem_written (hread : ∃ value, ofJson value = .ok config) :
    ∀ member ∈ config.written, member.2.IsSorted := by
  obtain ⟨_, hread⟩ := hread
  obtain ⟨n, hproper⟩ := exists_isProper_of_ofJson hread
  intro member hin
  exact isSorted_written (areWritten_slots hproper) hproper.extra.sorted _
    (mem_of_mem_sortMembers hin)

theorem isSorted_of_mem_settledBy (hsorted : ∀ override ∈ overrides, override.IsSorted) :
    ∀ member ∈ settledBy overrides, member.2.IsSorted := by
  induction overrides with
  | nil => exact List.forall_mem_nil _
  | cons override rest ih =>
    obtain ⟨hfirst, hrest⟩ := List.forall_mem_cons.1 hsorted
    unfold settledBy
    split
    · intro member hin
      rcases mem_of_mem_overlay hin with hin | hin
      · cases override with
        | object members => exact (isSorted_object.1 hfirst).2 member hin
        | _ => cases hin
      · exact ih hrest member hin
    · exact ih hrest

/-- What is written for a configuration under a key it does not know is what it carries along. -/
theorem lookup_written_of_unknown (hread : ∃ value, ofJson value = .ok config)
    (hkey : key ∉ keys schema) : config.written.lookup key = config.extra.lookup key := by
  obtain ⟨_, hread⟩ := hread
  obtain ⟨n, hproper⟩ := exists_isProper_of_ofJson hread
  have hkeys : config.slots.map Slot.key = keys schema := rfl
  have hslot : config.slots.find? (·.key == key) = none := by
    rw [List.find?_eq_none]
    intro slot hin heq
    rw [← hkeys, ← beq_iff_eq.1 heq] at hkey
    exact hkey (List.mem_map_of_mem hin)
  have hwritten : config.written.lookup key = _ :=
    lookup_written config.nodup_keys_slots hproper.extra.increasing.nodup hproper.extra.foreign
  rw [hwritten, hslot, Option.bind_none, Option.none_or]

/-- A configuration carries along what stood under keys it does not know. -/
theorem lookup_extra_of_ofJson {members : List (String × Json)} (hincreasing : Increasing members)
    (hsorted : ∀ member ∈ members, member.2.IsSorted) (h : ofJson (.object members) = .ok config)
    (hkey : key ∉ keys schema) : config.extra.lookup key = members.lookup key := by
  have hlookup : schema.lookup key = none := lookup_eq_none_iff.2 hkey
  rw [lookup_extraMembers hincreasing (slots_of_ofJson h).2, hlookup, Option.isNone_none,
    if_pos rfl]
  cases hvalue : members.lookup key with
  | none => rfl
  | some value => exact congrArg some (hsorted _ (mem_of_lookup hvalue))

/-- Overrides, sorted as all values that are read, that are laid in turn over a configuration that
was read: in the end it is what is read of its first written form with each key replaced by its
value in the last override that is taken and has the key, and keys that a configuration does not
know are carried along as they are there. Null and the empty object change nothing, and whether an
override is taken does not depend on the configuration. -/
theorem overrides_settle_each_key (hread : ∃ value, ofJson value = .ok config)
    (hsorted : ∀ override ∈ overrides, override.IsSorted) :
    (∃ members, Increasing members ∧
      (∀ key, members.lookup key =
        (lastUnder key (overrides.filter isOverride)).or (config.toJson.get? key)) ∧
      ofJson (.object members) = .ok (config.overriddenByAll overrides)) ∧
    (∀ key, key ∉ keys schema → (config.overriddenByAll overrides).extra.lookup key =
      (lastUnder key (overrides.filter isOverride)).or (config.extra.lookup key)) ∧
    config.mergedWith .null = .ok config ∧ config.mergedWith (.object []) = .ok config ∧
    ∀ override : Json, override.IsSorted →
      ((∃ overridden, config.mergedWith override = .ok overridden) ↔
        isOverride override = true) := by
  have hincreasing := config.increasing_written.overlay (settledBy overrides)
  have hlast := ofJson_settledBy hread hsorted
  have hlookup (key : String) : (overlay config.written (settledBy overrides)).lookup key =
      (lastUnder key (overrides.filter isOverride)).or (config.written.lookup key) := by
    rw [lookup_overlay (increasing_settledBy hsorted).nodup, lookup_settledBy hsorted]
  refine ⟨⟨_, hincreasing, ?_, hlast⟩, fun key hkey => ?_, mergedWith_empty hread rfl,
    mergedWith_empty hread rfl, fun _ => exists_mergedWith_iff hread⟩
  · rw [toJson_eq_object]
    exact hlookup
  · have hmembers : ∀ member ∈ overlay config.written (settledBy overrides),
        member.2.IsSorted := fun member hin => (mem_of_mem_overlay hin).elim
      (isSorted_of_mem_written hread member) (isSorted_of_mem_settledBy hsorted member)
    rw [lookup_extra_of_ofJson hincreasing hmembers hlast hkey, hlookup,
      lookup_written_of_unknown hread hkey]

/-- The configuration of a bakery, with a setting that no field has. -/
def bakery : ApplicationConfig := { baseName := "bakery", extra := [("oven", .string "stone")] }

/-- Overrides of a bakery. The second and the third one are not taken: a list is none, and no search
engine goes by the name of a truth value. -/
def bakeryOverrides : List Json :=
  [.object [("databaseType", .object [("mongodb", .null)]), ("oven", .array [.null])],
    .array [],
    .object [("baseName", .string "mill"), ("searchEngine", .bool true)],
    .object [("databaseType", .string "neo4j"), ("entities", .array []), ("shelf", .null)]]

theorem overrides_of_a_bakery_settle_each_key :
    (∃ value, ofJson value = .ok bakery) ∧ (∀ override ∈ bakeryOverrides, override.IsSorted) ∧
    bakeryOverrides.map isOverride = [true, false, false, true] ∧
    (∃ members, Increasing members ∧
      (∀ key, members.lookup key =
        (lastUnder key (bakeryOverrides.filter isOverride)).or (bakery.toJson.get? key)) ∧
      ofJson (.object members) = .ok (bakery.overriddenByAll bakeryOverrides)) ∧
    ((bakery.overriddenByAll bakeryOverrides).extra.lookup "oven" =
      (lastUnder "oven" (bakeryOverrides.filter isOverride)).or (bakery.extra.lookup "oven")) ∧
    ∃ overridden, bakery.mergedWith (.object [("baseName", .string "mill")]) = .ok overridden := by
  have hread : ∃ value, ofJson value = .ok bakery :=
    ⟨.object [("baseName", .string "bakery"), ("oven", .string "stone")], rfl⟩
  have hsorted : ∀ override ∈ bakeryOverrides, override.IsSorted := by
    simp only [bakeryOverrides, List.forall_mem_cons]
    exact ⟨rfl, rfl, rfl, rfl, List.forall_mem_nil _⟩
  have htaken : bakeryOverrides.map isOverride = [true, false, false, true] := by decide +kernel
  have hkey : "oven" ∉ keys schema := by decide
  have hmill : (Json.object [("baseName", .string "mill")]).IsSorted := rfl
  obtain ⟨hmembers, hunknown, -, -, hall⟩ := overrides_settle_each_key hread hsorted
  exact ⟨hread, hsorted, htaken, hmembers, hunknown "oven" hkey,
    (hall _ hmill).2 (by decide +kernel)⟩

end ApplicationConfig

end EntityPipeline
