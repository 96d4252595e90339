-- The sums over an entity. A prepared field tells of its type three times: by the type, by the
-- flags of the type and by marks for its content. The sums are taken from all three, and are told
-- here from the types alone, over declared relationships and added ones.
import EntityPipeline.Proofs.Preparation.AddedIds

namespace EntityPipeline

variable {items distinct : List String} {item : String} {fields : List Field}

/-! ## First occurrences -/

/-- The items of a list, each listed once, in the order in which they first occur. -/
structure ListsFirst (items distinct : List String) : Prop where
  nodup : distinct.Nodup
  mem_iff : ∀ item, item ∈ distinct ↔ item ∈ items
  in_order : distinct.Pairwise fun first second => items.idxOf first < items.idxOf second

theorem firstOccurrences_concat (items : List String) (item : String) :
    firstOccurrences (items ++ [item]) =
      if (firstOccurrences items).contains item then firstOccurrences items
      else firstOccurrences items ++ [item] := by
  unfold firstOccurrences
  rw [List.foldl_append]
  rfl

/-- What is listed of a list is in the same order in a longer one. -/
theorem ListsFirst.in_order_concat (h : ListsFirst items distinct) (item : String) :
    distinct.Pairwise fun first second =>
      (items ++ [item]).idxOf first < (items ++ [item]).idxOf second := by
  refine h.in_order.imp_of_mem ?_
  intro first second hfirst hsecond hlt
  rwa [List.idxOf_append_of_mem ((h.mem_iff first).1 hfirst),
    List.idxOf_append_of_mem ((h.mem_iff second).1 hsecond)]

theorem ListsFirst.listed (h : ListsFirst items distinct) (hin : item ∈ distinct) :
    ListsFirst (items ++ [item]) distinct := by
  refine ⟨h.nodup, ?_, h.in_order_concat item⟩
  intro other
  rw [List.mem_append, List.mem_singleton, h.mem_iff]
  constructor
  · exact Or.inl
  · rintro (hother | rfl)
    · exact hother
    · exact (h.mem_iff other).1 hin

theorem ListsFirst.concat (h : ListsFirst items distinct) (hnew : item ∉ distinct) :
    ListsFirst (items ++ [item]) (distinct ++ [item]) := by
  have hfresh : item ∉ items := fun hin => hnew ((h.mem_iff item).2 hin)
  refine ⟨?_, ?_, ?_⟩
  · refine List.nodup_append'.2 ⟨h.nodup, List.nodup_singleton item, ?_⟩
    rwa [List.disjoint_singleton]
  · intro other
    rw [List.mem_append, List.mem_append, h.mem_iff]
  · refine List.pairwise_append.2 ⟨h.in_order_concat item, List.pairwise_singleton _ _, ?_⟩
    intro first hfirst second hsecond
    obtain rfl := List.mem_singleton.1 hsecond
    have hin := (h.mem_iff first).1 hfirst
    have hlt : items.idxOf first < items.length := List.idxOf_lt_length_of_mem hin
    rw [List.idxOf_append_of_mem hin, List.idxOf_append_of_notMem hfresh]
    omega

theorem listsFirst_firstOccurrences (items : List String) :
    ListsFirst items (firstOccurrences items) := by
  induction items using List.reverseRecOn with
  | nil => exact ⟨List.nodup_nil, fun _ => Iff.rfl, List.Pairwise.nil⟩
  | append_singleton items item ih =>
    rw [firstOccurrences_concat]
    split
    · rename_i hin
      exact ih.listed (List.contains_iff_mem.1 hin)
    · rename_i hnew
      exact ih.concat fun hin => hnew (List.contains_iff_mem.2 hin)

/-! ## Fields -/

/-- Flags that tell of a type: which of the days, times and other single types it is, and whether it
is one of the temporal ones. -/
structure FieldTypeFlags.TellOf (flags : FieldTypeFlags) (type : FieldType) : Prop where
  localDate : flags.localDate = true ↔ type = .localDate
  instant : flags.instant = true ↔ type = .instant
  zonedDateTime : flags.zonedDateTime = true ↔ type = .zonedDateTime
  duration : flags.duration = true ↔ type = .duration
  bigDecimal : flags.bigDecimal = true ↔ type = .bigDecimal
  uuid : flags.uuid = true ↔ type = .uuid
  temporal : flags.temporal = true ↔
    type = .localDate ∨ type = .instant ∨ type = .zonedDateTime

theorem FieldTypeFlags.tellOf_ofType (type : FieldType) : (ofType type).TellOf type := by
  cases type with
  | blob content => cases content <;> constructor <;> simp [ofType, withContent]
  | byteBuffer content => cases content <;> constructor <;> simp [ofType, withContent]
  | _ => constructor <;> simp [ofType]

/-- A field whose flags and marks tell of its type. -/
structure Field.IsCoherent (field : Field) : Prop where
  flags : field.typeFlags.TellOf field.type
  image : field.blobImage = true ↔ field.type.blobContent = some .image
  text : field.blobText = true ↔ field.type.blobContent = some .text

theorem isCoherent_of_entityFields {entity : Entity} {config : ApplicationConfig}
    (h : entityFields entity config = .ok fields) : ∀ field ∈ fields, field.IsCoherent := by
  unfold entityFields at h
  dsimp only at h
  rw [prepareEach_eq] at h
  intro field hin
  obtain ⟨planned, -, hfield⟩ := exists_source_of_mapM h field hin
  obtain ⟨type, -, rfl⟩ := eq_preparedField hfield
  exact ⟨FieldTypeFlags.tellOf_ofType type, beq_iff_eq, beq_iff_eq⟩

/-- A binary field, whatever it is for. -/
def Field.isBinary (field : Field) : Bool :=
  match field.type with
  | .blob _ | .byteBuffer _ => true
  | _ => false

theorem isBlob_eq_isBinary : Field.isBlob = Field.isBinary := by
  funext field
  unfold Field.isBlob Field.isBinary FieldType.blobContent
  cases field.type <;> rfl

/-- A field of a type is among the fields. -/
def HasType (fields : List Field) (type : FieldType) : Prop := ∃ field ∈ fields, field.type = type

/-- A field for a content is among the fields, as a blob or as a buffer. -/
def HasContent (fields : List Field) (content : BlobContent) : Prop :=
  HasType fields (.blob content) ∨ HasType fields (.byteBuffer content)

theorem blobContent_eq_some_iff {type : FieldType} {content : BlobContent} :
    type.blobContent = some content ↔ type = .blob content ∨ type = .byteBuffer content := by
  cases type <;> simp [FieldType.blobContent]

theorem hasContent_iff {content : BlobContent} :
    HasContent fields content ↔ ∃ field ∈ fields, field.type.blobContent = some content := by
  simp only [HasContent, HasType, blobContent_eq_some_iff, and_or_left, exists_or]

/-- What marks fields by their types is seen by the types. -/
theorem any_iff_of_marks {mark : Field → Bool} {P : FieldType → Prop}
    (h : ∀ field ∈ fields, mark field = true ↔ P field.type) :
    fields.any mark = true ↔ ∃ field ∈ fields, P field.type := by
  rw [List.any_eq_true]
  exact exists_congr fun field => and_congr_right (h field)

theorem any_iff_hasType {mark : Field → Bool} {type : FieldType}
    (h : ∀ field ∈ fields, mark field = true ↔ field.type = type) :
    fields.any mark = true ↔ HasType fields type :=
  any_iff_of_marks (P := fun other => other = type) h

theorem any_iff_hasContent {mark : Field → Bool} {content : BlobContent}
    (h : ∀ field ∈ fields, mark field = true ↔ field.type.blobContent = some content) :
    fields.any mark = true ↔ HasContent fields content := by
  rw [hasContent_iff]
  exact any_iff_of_marks (P := fun type => type.blobContent = some content) h

/-! ## Sums -/

/-- A relationship of a cardinality is among the relationships, on the side that owns it or not. -/
def HasOwned (relationships : List Relationship) (cardinality : Cardinality) (owner : Bool) :
    Prop :=
  ∃ r ∈ relationships, r.cardinality = cardinality ∧ r.ownerSide = owner

/-- Sums that tell of the types of fields, of relationships, and of each other. -/
structure EntityAggregates.SumUp (sums : EntityAggregates) (fields : List Field)
    (relationships : List Relationship) : Prop where
  blobFields : sums.blobFields = (fields.filter Field.isBinary).map Field.name
  blobFields_ne_nil : sums.blobFields ≠ [] ↔ sums.blob = true
  blob : sums.blob = true ↔ sums.blobOrImage = true ∨ sums.textBlob = true
  blobOrImage : sums.blobOrImage = true ↔ HasContent fields .any ∨ HasContent fields .image
  textBlob : sums.textBlob = true ↔ HasContent fields .text
  imageBlob : sums.imageBlob = true ↔ HasContent fields .image
  image_is_blobOrImage : sums.imageBlob = true → sums.blobOrImage = true
  date : sums.date = true ↔
    HasType fields .localDate ∨ HasType fields .instant ∨ HasType fields .zonedDateTime
  localDate : sums.localDate = true ↔ HasType fields .localDate
  instant : sums.instant = true ↔ HasType fields .instant
  zonedDateTime : sums.zonedDateTime = true ↔ HasType fields .zonedDateTime
  duration : sums.duration = true ↔ HasType fields .duration
  bigDecimal : sums.bigDecimal = true ↔ HasType fields .bigDecimal
  uuid : sums.uuid = true ↔ HasType fields .uuid
  differentTypes : ListsFirst (fields.map fun field => field.type.name) sums.differentTypes
  otherEntities : ListsFirst (relationships.map Relationship.otherEntity) sums.otherEntities
  manyToOne : sums.manyToOne = true ↔ ∃ r ∈ relationships, r.cardinality = .manyToOne
  oneToMany : sums.oneToMany = true ↔ ∃ r ∈ relationships, r.cardinality = .oneToMany
  ownerOneToOne : sums.ownerOneToOne = true ↔ HasOwned relationships .oneToOne true
  noOwnerOneToOne : sums.noOwnerOneToOne = true ↔ HasOwned relationships .oneToOne false
  ownerManyToMany : sums.ownerManyToMany = true ↔ HasOwned relationships .manyToMany true

/-- A field is binary for one of the contents. -/
theorem any_isBlob_iff : fields.any Field.isBlob = true ↔
    (HasContent fields .any ∨ HasContent fields .image) ∨ HasContent fields .text := by
  simp only [hasContent_iff, ← exists_or, ← and_or_left]
  refine any_iff_of_marks (P := fun type => (type.blobContent = some .any ∨
    type.blobContent = some .image) ∨ type.blobContent = some .text) fun field _ => ?_
  unfold Field.isBlob
  cases field.type.blobContent with
  | none => simp
  | some content => cases content <;> simp

theorem any_blobOrImage_iff : (fields.any fun field =>
      field.type.blobContent == some .any || field.type.blobContent == some .image) = true ↔
    HasContent fields .any ∨ HasContent fields .image := by
  simp only [List.any_eq_true, Bool.or_eq_true, beq_iff_eq, hasContent_iff, and_or_left, exists_or]

theorem map_filter_isBlob_ne_nil_iff :
    (fields.filter Field.isBlob).map Field.name ≠ [] ↔ fields.any Field.isBlob = true := by
  rw [Ne, List.map_eq_nil_iff, List.filter_eq_nil_iff, List.any_eq_true]
  push Not
  rfl

/-- The sums over an entity with coherent fields. -/
theorem sumUp_aggregates (registry : Registry) {entity : Entity}
    (hfields : ∀ field ∈ entity.fields, field.IsCoherent) :
    (aggregates registry entity).SumUp entity.fields entity.relationships := by
  have himage : (aggregates registry entity).imageBlob = true ↔ HasContent entity.fields .image :=
    any_iff_hasContent fun field hin => (hfields field hin).image
  have htext : (aggregates registry entity).textBlob = true ↔ HasContent entity.fields .text :=
    any_iff_hasContent fun field hin => (hfields field hin).text
  have heither : (aggregates registry entity).blobOrImage = true ↔ _ := any_blobOrImage_iff
  have hblob : (aggregates registry entity).blob = true ↔ _ := any_isBlob_iff
  have hdate : (aggregates registry entity).date = true ↔ _ :=
    any_iff_of_marks (P := fun type => type = .localDate ∨ type = .instant ∨ type = .zonedDateTime)
      fun field hin => (hfields field hin).flags.temporal
  constructor
  case blobFields =>
    rw [← isBlob_eq_isBinary]
    rfl
  case blobFields_ne_nil => exact map_filter_isBlob_ne_nil_iff
  case blob => rw [hblob, heither, htext]
  case blobOrImage => exact heither
  case textBlob => exact htext
  case imageBlob => exact himage
  case image_is_blobOrImage => exact fun h => heither.2 (Or.inr (himage.1 h))
  case date =>
    rw [hdate]
    simp only [HasType, and_or_left, exists_or]
  case localDate => exact any_iff_hasType fun field hin => (hfields field hin).flags.localDate
  case instant => exact any_iff_hasType fun field hin => (hfields field hin).flags.instant
  case zonedDateTime =>
    exact any_iff_hasType fun field hin => (hfields field hin).flags.zonedDateTime
  case duration => exact any_iff_hasType fun field hin => (hfields field hin).flags.duration
  case bigDecimal => exact any_iff_hasType fun field hin => (hfields field hin).flags.bigDecimal
  case uuid => exact any_iff_hasType fun field hin => (hfields field hin).flags.uuid
  case differentTypes => exact listsFirst_firstOccurrences _
  case otherEntities => exact listsFirst_firstOccurrences _
  case manyToOne => simp [aggregates]
  case oneToMany => simp [aggregates]
  case ownerOneToOne => simp [aggregates, HasOwned, Relationship.isOwnerOneToOne]
  case noOwnerOneToOne => simp [aggregates, HasOwned]
  case ownerManyToMany => simp [aggregates, HasOwned]

/-! ## Frozen entities -/

/-- The relationships of an entity are its declared ones in order, and behind them added ones. -/
def Entity.HasSidesInOrder (entity : Entity) : Prop :=
  ∃ (target : RelationshipDefinition → Nat) (added : List Relationship),
    entity.relationships = (entity.definition.relationships.map fun definition =>
      declaredRelationship definition (target definition)) ++ added ∧
    ∀ side ∈ added, side.synthesized = true

/-- An entity that is frozen with its sums. -/
structure Slot.IsSummedUp (slot : Slot) : Prop where
  frozen : slot.frozen = true
  sums : slot.entity.aggregates.SumUp slot.entity.fields slot.entity.relationships
  sides : slot.entity.HasSidesInOrder

theorem hasSidesInOrder_relatedEntity (entities : List Entity) (place : Nat) (entity : Entity) :
    (relatedEntity entities place entity).HasSidesInOrder := by
  refine ⟨fun definition => placeIn entities definition.otherEntity, addedAt entities place, rfl,
    ?_⟩
  intro side hside
  obtain ⟨_, _, _, _, _, _, _, _, rfl⟩ := mem_addedAt hside
  rfl

/-- Once all phases have gone through, every entity is frozen, and its sums tell of its fields and
of its relationships, declared and added. -/
theorem frozen_entities_are_summed_up (context : Context)
    (h : (prepareAll context).result = .ok ()) :
    ∀ slot ∈ (prepareAll context).state.entities.slots, slot.IsSummedUp := by
  intro slot hslot
  have hcoherent : ∀ field ∈ slot.entity.fields, field.IsCoherent := by
    obtain ⟨former, -, -, hfields⟩ :=
      entityFields_of_prepareAll h slot.entity (List.mem_map_of_mem hslot)
    exact isCoherent_of_entityFields hfields
  obtain ⟨named, -, -, hprepared, hlast, hstate⟩ := stages_of_prepareAll h
  obtain ⟨entities, keys, -, -, -, hfinished⟩ := finished_of_fieldsPrepared hprepared hlast
  rw [hstate, hfinished] at hslot
  obtain ⟨entity, hin, rfl⟩ := List.mem_map.1 hslot
  obtain ⟨place, former, -, rfl⟩ := exists_of_mem_withKeys_related hin
  refine ⟨rfl, sumUp_aggregates _ hcoherent, ?_⟩
  exact hasSidesInOrder_relatedEntity entities place former

/-- Pictures with captions that are texts kept as buffers, and the albums they are in. -/
def pictures : Context := .ofDefinitions { skipUserManagement := true } [
  { name := "Picture"
    fields := [{ name := "caption", type := "ByteBuffer", blobContent := some "text" },
      { name := "takenAt", type := "Instant" }, { name := "image", type := "ImageBlob" }]
    relationships := [
      { cardinality := .manyToOne, otherEntity := "Album", inverseName := some "picture" }] },
  { name := "Album" }]

theorem pictures_and_albums_are_summed_up : (prepareAll pictures).result = .ok () ∧
    ((prepareAll pictures).state.entities.entities.map fun entity =>
      (entity.name, entity.aggregates.blobFields, entity.aggregates.oneToMany)) =
        [("Picture", ["caption", "image"], false), ("Album", [], true)] ∧
    ∀ slot ∈ (prepareAll pictures).state.entities.slots, slot.IsSummedUp :=
  have hok : (prepareAll pictures).result = .ok () := rfl
  ⟨hok, rfl, frozen_entities_are_summed_up pictures hok⟩

end EntityPipeline
