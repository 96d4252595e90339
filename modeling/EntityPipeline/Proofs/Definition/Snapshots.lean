-- Snapshots read back. What a value holds survives being written and read again, and so does what a
-- snapshot holds, if its numbers read back; a definition that came from a value survives the other
-- way round as well, if that value could stand in a text at all.
import EntityPipeline.Proofs.Definition.Entities
import EntityPipeline.Proofs.Json.Documents
import EntityPipeline.Snapshot

namespace EntityPipeline

open Json

variable {ok : Number → Prop} {n : Nat} {definition : EntityDefinition}

namespace EntityDefinition

/-- A definition that has been read from a text or from a value. -/
def IsDeserialised (definition : EntityDefinition) : Prop :=
  (∃ text, Snapshot.read text = .ok definition) ∨ ∃ value, ofJson value = .ok definition

/-- The definitions that a text can hold: nested within the limit, with numbers that read back. -/
def IsStorable (definition : EntityDefinition) : Prop := definition.IsProper Number.ReadsBack 124

theorem IsProper.canonicalValue_eq (h : definition.IsProper ok (n + 2)) :
    Snapshot.canonicalValue definition = definition.toJson := by
  have hback : IsReadBack ok (n + 5) (read .value) definition.toJson definition := isReadBack h
  exact hback.sorted

/-- A definition is read from its canonical value. -/
theorem IsProper.ofJson_canonicalValue (h : definition.IsProper ok (n + 2)) :
    ofJson (Snapshot.canonicalValue definition) = .ok definition := by
  rw [h.canonicalValue_eq]
  exact (isReadBack h).reads

theorem IsStorable.isReadBack (h : definition.IsStorable) (origin : Origin) :
    IsReadBack Number.ReadsBack Draft.depthLimit (read origin) definition.toJson definition :=
  EntityDefinition.isReadBack (n := 122) h

/-- A definition is read from its snapshot. -/
theorem IsStorable.read_render (h : definition.IsStorable) :
    Snapshot.read (Snapshot.render definition) = .ok definition := by
  have hback := h.isReadBack .text
  have hdocument := Document.ofText_pretty hback.fits
  unfold Snapshot.read Snapshot.render Decoder.ofText
  rw [IsProper.canonicalValue_eq (n := 122) h, hdocument]
  simp only [hback.reads]
  rfl

/-- A snapshot holds the canonical value of its definition. -/
theorem IsStorable.parse_render (h : definition.IsStorable) :
    Json.parse (Snapshot.render definition) = .ok (Snapshot.canonicalValue definition) := by
  have hback := h.isReadBack .text
  have hvalue := Draft.value_ofJson definition.toJson
  rw [hback.sorted] at hvalue
  unfold Json.parse Snapshot.render
  rw [IsProper.canonicalValue_eq (n := 122) h, Document.ofText_pretty hback.fits]
  simp only [hvalue]
  rfl

/-! ## What has been read -/

theorem exists_isProper_of_ofJson {value : Json} (h : ofJson value = .ok definition) :
    ∃ n, definition.IsProper (fun _ => True) (n + 2) := by
  have hfits : (Draft.ofJson value).Fits (fun _ => True) (value.nesting + 2 + 3) :=
    Draft.fits_ofJson (value.fits_nesting.mono (by omega))
  exact ⟨_, isProper_of_read hfits h⟩

theorem isProper_of_tokens {text : String} (hnumbers : ∀ t ∈ tokens text, t.Fits ok)
    (h : Snapshot.read text = .ok definition) : definition.IsProper ok 124 :=
  isProper_of_read (Document.fits_ofText hnumbers) (Decoder.read_of_ofText h)

theorem isProper_of_snapshot {text : String} (h : Snapshot.read text = .ok definition) :
    definition.IsProper (fun _ => True) 124 :=
  isProper_of_tokens (fun t _ => t.fits_true) h

theorem IsDeserialised.exists_isProper (h : definition.IsDeserialised) :
    ∃ n, definition.IsProper (fun _ => True) (n + 2) := by
  rcases h with ⟨text, h⟩ | ⟨value, h⟩
  · exact ⟨122, isProper_of_snapshot h⟩
  · exact exists_isProper_of_ofJson h

/-- What has been read can be stored exactly if its value can stand in a text. -/
theorem isStorable_iff : definition.IsStorable ↔ definition.IsDeserialised ∧
    (Snapshot.canonicalValue definition).nesting ≤ Draft.depthLimit ∧
    ∀ x ∈ (Snapshot.canonicalValue definition).numbers, x.ReadsBack := by
  rw [← fits_iff]
  constructor
  · intro h
    have hfits := (h.isReadBack .text).fits
    rw [← IsProper.canonicalValue_eq (n := 122) h] at hfits
    exact ⟨Or.inl ⟨_, h.read_render⟩, hfits⟩
  · rintro ⟨hread, hfits⟩
    obtain ⟨n, hproper⟩ := hread.exists_isProper
    exact isProper_of_read (Draft.fits_ofJson hfits) hproper.ofJson_canonicalValue

/-- What has been read from a text nests no deeper than the limit and has only numbers of the
text. -/
theorem fits_canonicalValue {text : String} (hnumbers : ∀ t ∈ tokens text, t.Fits ok)
    (h : Snapshot.read text = .ok definition) :
    (Snapshot.canonicalValue definition).Fits ok Draft.depthLimit := by
  have hproper : definition.IsProper ok (122 + 2) := isProper_of_tokens hnumbers h
  have hback : IsReadBack ok Draft.depthLimit (read .text) definition.toJson definition :=
    EntityDefinition.isReadBack hproper
  exact hproper.canonicalValue_eq ▸ hback.fits

/-- What is read back from its snapshot nests no deeper than the limit and has only numbers that its
numbers are read as. -/
theorem fits_of_read_render (hnumbers : ∀ x ∈ (Snapshot.canonicalValue definition).numbers,
      ∃ y, Number.read x.chars = .read y ∧ ok y)
    (h : Snapshot.read (Snapshot.render definition) = .ok definition) :
    (Snapshot.canonicalValue definition).Fits ok Draft.depthLimit :=
  fits_canonicalValue (fits_tokens_pretty hnumbers) h

end EntityDefinition

/-- Whatever has been read from a text is read again from its snapshot, which is then rendered as it
was, if its numbers read back; whatever has been read from a value is read again from its canonical
value. -/
theorem definitions_survive_their_snapshots :
    (∀ text definition, Snapshot.read text = .ok definition →
      (∀ x ∈ (Snapshot.canonicalValue definition).numbers, x.ReadsBack) →
      ∃ again, Snapshot.read (Snapshot.render definition) = .ok again ∧ again = definition ∧
        Snapshot.render again = Snapshot.render definition) ∧
    ∀ value definition, EntityDefinition.ofJson value = .ok definition →
      EntityDefinition.ofJson (Snapshot.canonicalValue definition) = .ok definition := by
  refine ⟨fun text definition h hnumbers => ?_, fun value definition h => ?_⟩
  · have hfits := EntityDefinition.fits_canonicalValue (fun t _ => t.fits_true) h
    have hread : definition.IsDeserialised := Or.inl ⟨text, h⟩
    have hstorable := EntityDefinition.isStorable_iff.2 ⟨hread, (fits_iff.1 hfits).1, hnumbers⟩
    exact ⟨definition, hstorable.read_render, rfl, rfl⟩
  · obtain ⟨n, hproper⟩ := EntityDefinition.exists_isProper_of_ofJson h
    exact hproper.ofJson_canonicalValue

/-- A snapshot with a cardinality in an object, a word for the search engine and members that no
definition knows, out of order. -/
def parcelText : String :=
  "\x7b\"name\": \"Parcel\", \"searchEngine\": \"no\", \"relationships\": [\x7b\"relationshipType\":
    \x7b\"many-to-one\": null\x7d, \"otherEntityName\": \"Depot\"\x7d], \"b\": 0.5, \"a\": null\x7d"

/-- The value of an entity whose strategy stands in an object. -/
def depotValue : Json :=
  .object [("name", .string "Depot"), ("dto", .object [("mapstruct", .null)]),
    ("zone", .object [("b", .null), ("a", .bool true)])]

theorem exists_of_isOk {ε α : Type} {x : Except ε α} (h : x.isOk = true) : ∃ a, x = .ok a := by
  cases x with
  | error e => exact nomatch h
  | ok a => exact ⟨a, rfl⟩

/-- The number in that snapshot. -/
def oneHalf : Binary64 := ⟨false, 2 ^ 52, -53⟩

theorem parcel_and_depot_survive :
    (∃ parcel, Snapshot.read parcelText = .ok parcel ∧
      (∀ x ∈ (Snapshot.canonicalValue parcel).numbers, x.ReadsBack) ∧
      Snapshot.read (Snapshot.render parcel) = .ok parcel) ∧
    ∃ depot, EntityDefinition.ofJson depotValue = .ok depot ∧
      EntityDefinition.ofJson (Snapshot.canonicalValue depot) = .ok depot := by
  obtain ⟨parcel, hparcel⟩ := exists_of_isOk (x := Snapshot.read parcelText) (by decide +kernel)
  obtain ⟨depot, hdepot⟩ := exists_of_isOk (x := EntityDefinition.ofJson depotValue)
    (by decide +kernel)
  have htokens : ∀ t ∈ tokens parcelText, t.Fits (· = .real oneHalf) := by decide +kernel
  have hnumbers : ∀ x ∈ (Snapshot.canonicalValue parcel).numbers, x.ReadsBack := by
    intro x hx
    obtain rfl := (fits_iff.1 (EntityDefinition.fits_canonicalValue htokens hparcel)).2 x hx
    have hread : Number.read ['0', '.', '5'] = .read (.real oneHalf) := by decide +kernel
    refine Number.readsBack_of_read hread fun y hy => ?_
    obtain rfl := Number.real.inj hy
    decide +kernel
  obtain ⟨again, hread, rfl, -⟩ := definitions_survive_their_snapshots.1 _ _ hparcel hnumbers
  exact ⟨⟨again, hparcel, hnumbers, hread⟩, depot, hdepot,
    definitions_survive_their_snapshots.2 _ _ hdepot⟩

end EntityPipeline
