-- Preparing again. The definitions that a preparation was given stand in its sources and in its
-- entities as they were. Read back from their snapshots, they lead to the same registry once more,
-- as long as they nest no deeper than a text can be read and have only numbers that read back. A
-- definition that did not come from a text may nest deeper, and some numbers come back as others.
import EntityPipeline.Project.SnapshotWriter
import EntityPipeline.Proofs.Definition.Snapshots
import EntityPipeline.Proofs.Preparation.PrimaryKeys
import EntityPipeline.Proofs.Preparation.Provenance

namespace EntityPipeline

/-! ## What is registered -/

theorem provenance_writtenEntities (registry : Registry) :
    (SnapshotWriter.writtenEntities registry).map Entity.provenance =
      registry.provenance.filter fun p => !p.builtIn := by
  unfold SnapshotWriter.writtenEntities Registry.provenance Registry.entities
  rw [List.filter_map, List.map_map, List.filter_map]
  rfl

/-- A preparation that succeeds leaves the entities it found in the sources with what they came
from. -/
theorem provenance_prepareAll {context : Context} (h : (prepareAll context).result = .ok ()) :
    (SnapshotWriter.writtenEntities (prepareAll context).state.entities).map Entity.provenance =
      context.expected := by
  rw [provenance_writtenEntities, provenance_expected h]

/-! ## Preparing again -/

/-- The snapshots of a registry in the order of registration. -/
def snapshots (registry : Registry) : List String :=
  (SnapshotWriter.writtenEntities registry).map fun entity => Snapshot.render entity.definition

/-- What a preparation keeps of its definitions: they stand in the sources and in the entities as they
were given. -/
structure KeepsDefinitions (definitions : List EntityDefinition) (prepared : Context) : Prop where
  sources : prepared.declared = definitions.map fun definition => (definition.name, definition)
  entities : (SnapshotWriter.writtenEntities prepared.entities).map
      (fun entity => (entity.name, entity.definition)) =
    definitions.map fun definition => (definition.name, definition)

/-- The snapshots of a registry are read as definitions that lead to the same registry. -/
def PreparesAgain (config : ApplicationConfig) (registry : Registry) : Prop :=
  ∃ others, (snapshots registry).mapM Snapshot.read = .ok others ∧
    (prepareAll (.ofDefinitions config others)).result = .ok () ∧
    (prepareAll (.ofDefinitions config others)).state.entities = registry

variable {config : ApplicationConfig} {definitions : List EntityDefinition}

theorem declared_ofDefinitions (hn : (definitions.map EntityDefinition.name).Nodup) :
    (Context.ofDefinitions config definitions).declared =
      definitions.map fun definition => (definition.name, definition) := by
  rw [ofDefinitions_eq hn, Context.declared, List.map_map]
  rfl

theorem expected_ofDefinitions (hn : (definitions.map EntityDefinition.name).Nodup)
    (hu : config.skipUserManagement = true ∨ userEntity ∉ definitions.map EntityDefinition.name) :
    (Context.ofDefinitions config definitions).expected =
      definitions.map fun definition => ⟨definition.name, definition, false⟩ := by
  have hconfig : (Context.ofDefinitions config definitions).config = config := by
    rw [ofDefinitions_eq hn]
  unfold Context.expected
  rw [hconfig, declared_ofDefinitions hn, List.filter_eq_self.2, List.map_map]
  · rfl
  · rw [List.forall_mem_map]
    intro definition hin
    rcases hu with hskip | hnone
    · simp [managesUsers, hskip]
    · have hne : definition.name ≠ userEntity := fun h => hnone (h ▸ List.mem_map_of_mem hin)
      simp [hne]

/-- Definitions are read back from their snapshots, one by one. -/
theorem mapM_read_render (h : ∀ definition ∈ definitions, definition.IsStorable) :
    (definitions.map Snapshot.render).mapM Snapshot.read = .ok definitions := by
  rw [mapM_eq_ok, List.forall₂_map_left_iff, List.forall₂_same]
  exact fun definition hin => (h definition hin).read_render

section Prepared

variable (hn : (definitions.map EntityDefinition.name).Nodup)
  (hu : config.skipUserManagement = true ∨ userEntity ∉ definitions.map EntityDefinition.name)
  (hok : (prepareAll (.ofDefinitions config definitions)).result = .ok ())
include hn hu hok

theorem provenance_ofDefinitions :
    (SnapshotWriter.writtenEntities (prepareAll (.ofDefinitions config definitions)).state.entities).map
        Entity.provenance =
      definitions.map fun definition => ⟨definition.name, definition, false⟩ :=
  (provenance_prepareAll hok).trans (expected_ofDefinitions hn hu)

theorem keepsDefinitions :
    KeepsDefinitions definitions (prepareAll (.ofDefinitions config definitions)).state where
  sources := by rw [declared_prepareAll, declared_ofDefinitions hn]
  entities := by
    have hpairs := congrArg (List.map fun p : Provenance => (p.name, p.definition))
      (provenance_ofDefinitions hn hu hok)
    rwa [List.map_map, List.map_map] at hpairs

/-- The snapshots are those of the definitions. -/
theorem snapshots_ofDefinitions :
    snapshots (prepareAll (.ofDefinitions config definitions)).state.entities =
      definitions.map Snapshot.render := by
  have hgiven := congrArg (List.map fun p : Provenance => Snapshot.render p.definition)
    (provenance_ofDefinitions hn hu hok)
  rwa [List.map_map, List.map_map] at hgiven

end Prepared

/-- No definition changes by being prepared, and what was prepared is prepared again from its
snapshots, if these nest no deeper than they can be read and their numbers read back. -/
theorem a_preparation_keeps_its_definitions (config : ApplicationConfig)
    (definitions : List EntityDefinition)
    (hd : ∀ definition ∈ definitions, definition.IsDeserialised)
    (hn : (definitions.map EntityDefinition.name).Nodup)
    (hu : config.skipUserManagement = true ∨ userEntity ∉ definitions.map EntityDefinition.name)
    (hok : (prepareAll (.ofDefinitions config definitions)).result = .ok ()) :
    KeepsDefinitions definitions (prepareAll (.ofDefinitions config definitions)).state ∧
    ((∀ definition ∈ definitions,
        (Snapshot.canonicalValue definition).nesting ≤ Json.Draft.depthLimit ∧
        ∀ x ∈ (Snapshot.canonicalValue definition).numbers, x.ReadsBack) →
      PreparesAgain config (prepareAll (.ofDefinitions config definitions)).state.entities) := by
  refine ⟨keepsDefinitions hn hu hok, fun hreadable => ⟨definitions, ?_, hok, rfl⟩⟩
  rw [snapshots_ofDefinitions hn hu hok]
  refine mapM_read_render fun definition hin => ?_
  exact EntityDefinition.isStorable_iff.2 ⟨hd definition hin, hreadable definition hin⟩

/-- A letter of an author and of a user. Identifiers and other sides are left to the preparation. -/
def letterDefinitions : List EntityDefinition := [
  { name := "Letter"
    relationships := [
      { cardinality := .manyToOne, otherEntity := "Author", inverseName := some "letters" },
      { cardinality := .manyToOne, otherEntity := "User", inverseName := some "letters" }] },
  { name := "Author" }]

/-- The value of a relationship to one of those who have letters. -/
def letterSide (other : String) : Json :=
  .object [("relationshipType", .string "many-to-one"), ("otherEntityName", .string other),
    ("otherEntityRelationshipName", .string "letters")]

theorem letters_keep_their_definitions :
    (∀ definition ∈ letterDefinitions, definition.IsDeserialised) ∧
    (letterDefinitions.map EntityDefinition.name).Nodup ∧
    userEntity ∉ letterDefinitions.map EntityDefinition.name ∧
    (prepareAll (.ofDefinitions {} letterDefinitions)).result = .ok () ∧
    KeepsDefinitions letterDefinitions (prepareAll (.ofDefinitions {} letterDefinitions)).state ∧
    PreparesAgain {} (prepareAll (.ofDefinitions {} letterDefinitions)).state.entities := by
  have hread : ∀ definition ∈ letterDefinitions, definition.IsDeserialised :=
    List.forall_mem_cons.2 ⟨Or.inr ⟨.object [("name", .string "Letter"),
        ("relationships", .array [letterSide "Author", letterSide "User"])], rfl⟩,
      List.forall_mem_singleton.2 (Or.inr ⟨.object [("name", .string "Author")], rfl⟩)⟩
  have hn : (letterDefinitions.map EntityDefinition.name).Nodup := by decide
  have hu : userEntity ∉ letterDefinitions.map EntityDefinition.name := by decide
  have hok : (prepareAll (.ofDefinitions {} letterDefinitions)).result = .ok () := rfl
  have hreadable : ∀ definition ∈ letterDefinitions,
      (Snapshot.canonicalValue definition).nesting ≤ Json.Draft.depthLimit ∧
      ∀ x ∈ (Snapshot.canonicalValue definition).numbers, x.ReadsBack := by decide +kernel
  obtain ⟨hkeeps, hagain⟩ := a_preparation_keeps_its_definitions {} _ hread hn (Or.inr hu) hok
  exact ⟨hread, hn, hu, hok, hkeeps, hagain hreadable⟩

/-! ## Snapshots that lead elsewhere -/

/-- A definition that is prepared alone, and again from its snapshot, is read back from this. -/
theorem PreparesAgain.read_render {definition : EntityDefinition}
    (hskip : config.skipUserManagement = true)
    (hok : (prepareAll (.ofDefinitions config [definition])).result = .ok ())
    (h : PreparesAgain config (prepareAll (.ofDefinitions config [definition])).state.entities) :
    Snapshot.read (Snapshot.render definition) = .ok definition := by
  obtain ⟨others, hread, hagain, hsame⟩ := h
  have hdistinct (definition : EntityDefinition) :
      ([definition].map EntityDefinition.name).Nodup := List.nodup_singleton _
  rw [snapshots_ofDefinitions (hdistinct definition) (Or.inl hskip) hok, mapM_eq_ok,
    List.forall₂_map_left_iff] at hread
  obtain ⟨other, rest, hfirst, hrest, rfl⟩ := List.forall₂_cons_left_iff.1 hread
  obtain rfl := List.forall₂_nil_left_iff.1 hrest
  have hgiven := provenance_ofDefinitions (hdistinct definition) (Or.inl hskip) hok
  rw [← hsame, provenance_ofDefinitions (hdistinct other) (Or.inl hskip) hagain] at hgiven
  obtain rfl : other = definition := congrArg Provenance.definition (List.cons.inj hgiven).1
  exact hfirst

/-- The number that is read for `1e-60`, which is not the nearest one. -/
def tinyNumber : Number := .real ⟨false, 7237005577332263, -252⟩

/-- The number that its text is read as, which is nearest to `1e-60`. -/
def nearTinyNumber : Number := .real ⟨false, 7237005577332262, -252⟩

/-- The value of a parcel whose weight is at least the first of these. -/
def tinyValue : Json :=
  .object [("name", .string "Parcel"), ("fields", .array [.object [("fieldName", .string "weight"),
    ("fieldType", .string "Double"), ("fieldValidateRules", .array [.string "min"]),
    ("fieldValidateRulesMin", .number tinyNumber)]])]

/-- A value in so many boxes. -/
def boxed : Nat → Json
  | 0 => .null
  | n + 1 => .object [("box", boxed n)]

/-- The value of a parcel with a member that no definition knows, as deep as a value can be read on
its own. -/
def deepValue : Json := .object [("name", .string "Parcel"), ("box", boxed 127)]

/-- The definition that is read from a value. -/
def parcelOf (value : Json) : EntityDefinition :=
  (EntityDefinition.ofJson value).toOption.getD { name := "Parcel" }

/-- Two parcels that are prepared, but not again from their snapshots: the bound of the weight of the
first is read as another number, and the snapshot of the second cannot be read. -/
theorem parcels_are_not_prepared_again :
    Number.read "1e-60".toList = .read tinyNumber ∧
    ∀ value ∈ [tinyValue, deepValue],
      (parcelOf value).IsDeserialised ∧
      (prepareAll (.ofDefinitions { skipUserManagement := true } [parcelOf value])).result = .ok () ∧
      ¬PreparesAgain { skipUserManagement := true } (prepareAll
        (.ofDefinitions { skipUserManagement := true } [parcelOf value])).state.entities := by
  refine ⟨by decide +kernel, List.forall_mem_cons.2 ⟨?_, List.forall_mem_singleton.2 ?_⟩⟩
  · obtain ⟨⟨⟩, hok⟩ := exists_of_isOk (x := (prepareAll
      (.ofDefinitions { skipUserManagement := true } [parcelOf tinyValue])).result)
      (by decide +kernel)
    refine ⟨Or.inr ⟨tinyValue, eq_ok_getD _ (by decide +kernel)⟩, hok, fun h => ?_⟩
    have hnumbers : (Snapshot.canonicalValue (parcelOf tinyValue)).numbers = [tinyNumber] := by
      decide +kernel
    have hother : ∀ x ∈ (Snapshot.canonicalValue (parcelOf tinyValue)).numbers,
        ∃ y, Number.read x.chars = .read y ∧ y = nearTinyNumber := by
      rw [hnumbers]
      exact List.forall_mem_singleton.2 ⟨_, by decide +kernel, rfl⟩
    have hfits := EntityDefinition.fits_of_read_render hother (h.read_render rfl hok)
    have hsame := (Json.fits_iff.1 hfits).2 tinyNumber (by rw [hnumbers]; exact List.mem_cons_self)
    exact absurd hsame (by decide)
  · obtain ⟨⟨⟩, hok⟩ := exists_of_isOk (x := (prepareAll
      (.ofDefinitions { skipUserManagement := true } [parcelOf deepValue])).result)
      (by decide +kernel)
    refine ⟨Or.inr ⟨deepValue, eq_ok_getD _ (by decide +kernel)⟩, hok, fun h => ?_⟩
    have hdeep : (Snapshot.canonicalValue (parcelOf deepValue)).nesting = 128 := by decide +kernel
    have hfits := EntityDefinition.fits_canonicalValue (fun t _ => t.fits_true)
      (h.read_render rfl hok)
    have hnesting := (Json.fits_iff.1 hfits).1
    rw [hdeep] at hnesting
    exact absurd hnesting (by decide)

end EntityPipeline
