-- Changing a definition again. Changes lay members over what is written for a definition, one after
-- the other, and read it again; they leave the definition that came of them as it is, for under
-- each key it either has what the last change to that key laid there, or what all of them left.
import EntityPipeline.Proofs.Definition.Memberwise
import EntityPipeline.Proofs.Json.Merging

namespace EntityPipeline

open Json

variable {name key : String} {definition changed : EntityDefinition}
  {found : Option EntityDefinition} {change : Json} {changes : List Json}
  {layer : List (String × Json)}

/-! ## Definitions and their members -/

namespace EntityDefinition

/-- A definition that survives being written and read again. -/
def Survives (definition : EntityDefinition) : Prop :=
  ∃ n, definition.IsProper (fun _ => True) (n + 2)

theorem survives_of_ofJson {value : Json} (h : ofJson value = .ok definition) :
    definition.Survives :=
  exists_isProper_of_ofJson h

theorem Survives.named (h : definition.Survives) (name : String) :
    ({ definition with name } : EntityDefinition).Survives :=
  h.imp fun _ h => ⟨h.fields, h.relationships, h.options, h.foreign⟩

theorem IsStorable.named (h : definition.IsStorable) (name : String) :
    ({ definition with name } : EntityDefinition).IsStorable :=
  ⟨h.fields, h.relationships, h.options, h.foreign⟩

theorem Survives.canonicalValue_eq (h : definition.Survives) :
    Snapshot.canonicalValue definition = .object definition.written :=
  h.elim fun _ h => h.canonicalValue_eq.trans definition.toJson_eq_object

theorem Survives.ofJson_written (h : definition.Survives) :
    ofJson (.object definition.written) = .ok definition :=
  h.canonicalValue_eq ▸ h.elim fun _ h => h.ofJson_canonicalValue

theorem Survives.lookup_named (h : definition.Survives) (name key : String) :
    ({ definition with name } : EntityDefinition).written.lookup key =
      if key = "name" then some (.string name) else definition.written.lookup key :=
  h.elim fun _ h => lookup_written_named h name

/-- Surviving definitions are told by what is written for them under each key. -/
theorem Survives.ext {other : EntityDefinition} (h : definition.Survives) (h' : other.Survives)
    (hlookup : ∀ key, definition.written.lookup key = other.written.lookup key) :
    definition = other :=
  memberwise.ext h.ofJson_written h'.ofJson_written hlookup

theorem Survives.written_ne_nil (h : definition.Survives) : definition.written ≠ [] := by
  obtain ⟨n, hproper⟩ := h
  have hname : definition.written.lookup "name" = some (.string definition.name) := by
    rw [lookup_written hproper]
    rfl
  intro hnil
  rw [hnil] at hname
  cases hname

/-- The members of what was found; where nothing was, there are none. -/
def membersOf (found : Option EntityDefinition) : List (String × Json) :=
  (found.map written).getD []

theorem increasing_membersOf (found : Option EntityDefinition) : Increasing (membersOf found) := by
  cases found with
  | none => exact List.Pairwise.nil
  | some definition => exact definition.increasing_written

end EntityDefinition

open EntityDefinition

/-! ## One change -/

/-- The value that a change makes of what was found. -/
def laidOver : Option EntityDefinition → Json → Except Failure Json
  | some definition, change => merge (Snapshot.canonicalValue definition) change
  | none, change => .ok change

/-- The definition that a change makes of what was found. -/
def changeOf (name : String) (found : Option EntityDefinition) (change : Json) :
    Except Failure EntityDefinition :=
  match laidOver found change with
  | .error e => .error e
  | .ok value =>
    match EntityDefinition.ofJson value with
    | .error e => .error (.outside (.json e))
    | .ok definition => .ok { definition with name }

theorem laidOver_some (h : definition.Survives) (hlayer : layer? change = some layer) :
    laidOver (some definition) change = .ok (.object (overlay definition.written layer)) := by
  rw [laidOver, h.canonicalValue_eq, merge_of_layer h.written_ne_nil hlayer]

/-- Members can be laid over anything, also where nothing was found. -/
theorem laidOver_object (hfound : ∀ definition ∈ found, definition.Survives)
    (hlayer : Increasing layer) :
    laidOver found (.object layer) = .ok (.object (overlay (membersOf found) layer)) := by
  cases found with
  | some definition => exact laidOver_some (hfound definition rfl) rfl
  | none =>
    have hmembers : overlay [] layer = layer := sortMembers_eq_self hlayer
    rw [laidOver, membersOf, Option.map_none, Option.getD_none, hmembers]

/-- A change that succeeds lays members over those of what was found. -/
theorem changeOf_eq_ok (hfound : ∀ definition ∈ found, definition.Survives)
    (hsorted : change.IsSorted) (h : changeOf name found change = .ok changed) :
    ∃ layer definition, layer? change = some layer ∧
      ofJson (.object (overlay (membersOf found) layer)) = .ok definition ∧
      changed = { definition with name } := by
  obtain ⟨layer, hlayer, hlaid⟩ : ∃ layer, layer? change = some layer ∧
      laidOver found change = .ok (.object (overlay (membersOf found) layer)) := by
    cases found with
    | some definition =>
      have hdefinition := hfound definition rfl
      cases hlayer : layer? change with
      | some layer => exact ⟨layer, rfl, laidOver_some hdefinition hlayer⟩
      | none =>
        obtain ⟨e, he⟩ := merge_of_no_layer hdefinition.written_ne_nil hlayer
        simp [changeOf, laidOver, hdefinition.canonicalValue_eq, he] at h
    | none =>
      cases change with
      | object members =>
        exact ⟨members, rfl, laidOver_object hfound (isSorted_object.1 hsorted).1⟩
      | _ => cases h
  unfold changeOf at h
  rw [hlaid] at h
  dsimp only at h
  split at h
  · cases h
  · rename_i definition hread
    exact ⟨layer, definition, hlayer, hread, (Except.ok.inj h).symm⟩

theorem changeOf_some (h : definition.Survives) (hlayer : layer? change = some layer)
    (hread : ofJson (.object (overlay definition.written layer)) = .ok changed) :
    changeOf name (some definition) change = .ok { changed with name } := by
  unfold changeOf
  rw [laidOver_some h hlayer]
  simp only [hread]

theorem changeOf_object (hfound : ∀ definition ∈ found, definition.Survives)
    (hlayer : Increasing layer)
    (hread : ofJson (.object (overlay (membersOf found) layer)) = .ok definition) :
    changeOf name found (.object layer) = .ok { definition with name } := by
  unfold changeOf
  rw [laidOver_object hfound hlayer]
  simp only [hread]

theorem survives_of_changeOf (h : changeOf name found change = .ok changed) : changed.Survives := by
  unfold changeOf at h
  split at h
  · cases h
  · split at h
    · cases h
    · rename_i hread
      cases h
      exact (survives_of_ofJson hread).named name

/-- Two changes may as well be made at once, by the members of the second laid over those of the
first: what lies between them is written with another name at most, and the name is set anew. -/
theorem changeOf_layered {first second : List (String × Json)} {middle : EntityDefinition}
    (hfound : ∀ definition ∈ found, definition.Survives) (hfirst : (object first).IsSorted)
    (hsecond : (object second).IsSorted) (h : changeOf name found (.object first) = .ok middle)
    (h' : changeOf name (some middle) (.object second) = .ok changed) :
    changeOf name found (.object (overlay first second)) = .ok changed := by
  have hmiddle : ∀ definition ∈ some middle, definition.Survives :=
    fun _ hd => Option.some.inj hd ▸ survives_of_changeOf h
  obtain ⟨_, read, ⟨⟩, hread, rfl⟩ := changeOf_eq_ok hfound hfirst h
  obtain ⟨_, last, ⟨⟩, hlast, rfl⟩ := changeOf_eq_ok hmiddle hsecond h'
  have hincreasing := (isSorted_object.1 hfirst).1
  have hbetween : ∀ key, key ≠ "name" →
      (membersOf (some { read with name })).lookup key = read.written.lookup key := by
    intro key hkey
    have hnamed := (survives_of_ofJson hread).lookup_named name key
    rwa [if_neg hkey] at hnamed
  obtain ⟨once, honce, hsame⟩ := memberwise.layered (· ≠ "name") (increasing_membersOf found)
    (increasing_membersOf _) hincreasing (isSorted_object.1 hsecond).1 hread hbetween hlast
  rw [changeOf_object hfound (hincreasing.overlay second) honce, Except.ok.injEq]
  have hsurvives := survives_of_ofJson honce
  refine (hsurvives.named name).ext ((survives_of_ofJson hlast).named name) fun key => ?_
  rw [hsurvives.lookup_named, (survives_of_ofJson hlast).lookup_named]
  by_cases hkey : key = "name"
  · rw [if_pos hkey, if_pos hkey]
  · rw [if_neg hkey, if_neg hkey, hsame key hkey]

/-! ## Changes in order -/

/-- What changes make of what was found, in order. -/
def changeAll (name : String) :
    Option EntityDefinition → List Json → Except Failure (Option EntityDefinition)
  | found, [] => .ok found
  | found, change :: rest =>
    match changeOf name found change with
    | .error e => .error e
    | .ok changed => changeAll name (some changed) rest

theorem changeAll_cons_eq_ok {result : Option EntityDefinition} {rest : List Json} :
    changeAll name found (change :: rest) = .ok result ↔
      ∃ changed, changeOf name found change = .ok changed ∧
        changeAll name (some changed) rest = .ok result := by
  rw [changeAll]
  cases changeOf name found change with
  | error e => simp
  | ok changed => simp

theorem changeAll_singleton {result : Option EntityDefinition} :
    changeAll name found [change] = .ok result ↔
      ∃ changed, changeOf name found change = .ok changed ∧ result = some changed := by
  rw [changeAll_cons_eq_ok]
  refine exists_congr fun changed => and_congr_right fun _ => ?_
  rw [changeAll, Except.ok.injEq, eq_comm]

/-- Only where nothing was found and nothing is changed, there is nothing in the end. -/
theorem changeAll_eq_none (h : changeAll name found changes = .ok none) :
    found = none ∧ changes = [] := by
  induction changes generalizing found with
  | nil => exact ⟨Except.ok.inj h, rfl⟩
  | cons change rest ih =>
    obtain ⟨changed, -, hrest⟩ := changeAll_cons_eq_ok.1 h
    exact nomatch (ih hrest).1

theorem survives_of_changeAll {result : Option EntityDefinition}
    (hfound : ∀ definition ∈ found, definition.Survives)
    (h : changeAll name found changes = .ok result) :
    ∀ definition ∈ result, definition.Survives := by
  induction changes generalizing found with
  | nil => exact Except.ok.inj h ▸ hfound
  | cons change rest ih =>
    obtain ⟨changed, hchanged, hrest⟩ := changeAll_cons_eq_ok.1 h
    exact ih (fun _ hd => Option.some.inj hd ▸ survives_of_changeOf hchanged) hrest

theorem changeAll_append_eq_ok {result : Option EntityDefinition} {rest : List Json} :
    changeAll name found (changes ++ rest) = .ok result ↔ ∃ middle,
      changeAll name found changes = .ok middle ∧ changeAll name middle rest = .ok result := by
  induction changes generalizing found with
  | nil =>
    refine ⟨fun h => ⟨found, rfl, h⟩, ?_⟩
    rintro ⟨_, ⟨⟩, h⟩
    exact h
  | cons change changes ih =>
    rw [List.cons_append, changeAll_cons_eq_ok]
    simp only [ih, changeAll_cons_eq_ok]
    constructor
    · rintro ⟨changed, hchanged, middle, hmiddle, hrest⟩
      exact ⟨middle, ⟨changed, hchanged, hmiddle⟩, hrest⟩
    · rintro ⟨middle, ⟨changed, hchanged, hmiddle⟩, hrest⟩
      exact ⟨changed, hchanged, middle, hmiddle, hrest⟩

/-- Changes leave a definition that came of them as it is, and so they do with every definition that
has under each key what it has there, or what they started with. -/
theorem changeAll_of_mixed {other : EntityDefinition}
    (hsorted : ∀ change ∈ changes, change.IsSorted)
    (hfound : ∀ definition ∈ found, definition.Survives) (hchanged : changed.Survives)
    (h : changeAll name found changes = .ok (some changed)) (hother : other.Survives)
    (hmixed : ∀ key, other.written.lookup key = (membersOf found).lookup key ∨
      other.written.lookup key = changed.written.lookup key) :
    changeAll name (some other) changes = .ok (some changed) := by
  induction changes generalizing found other with
  | nil =>
    obtain rfl := Except.ok.inj h
    have heq : other = changed := hother.ext hchanged fun key => (hmixed key).elim id id
    rw [heq]
    rfl
  | cons change rest ih =>
    obtain ⟨hfirst, hrest⟩ := List.forall_mem_cons.1 hsorted
    obtain ⟨next, hnext, hall⟩ := changeAll_cons_eq_ok.1 h
    obtain ⟨layer, read, hlayer, hread, rfl⟩ := changeOf_eq_ok hfound hfirst hnext
    -- a key of the layer finds the same as before, any other one what it finds in `other`
    have hlookup : ∀ key, (overlay other.written layer).lookup key =
        (overlay (membersOf found) layer).lookup key ∨
        (overlay other.written layer).lookup key = changed.written.lookup key := by
      intro key
      have hnodup := (increasing_layer hfirst hlayer).nodup
      rw [lookup_overlay hnodup, lookup_overlay hnodup]
      cases layer.lookup key with
      | some v => exact Or.inl rfl
      | none => exact hmixed key
    obtain ⟨again, hagain, hagainMixed⟩ := memberwise.mixed
      (other.increasing_written.overlay layer) ((increasing_membersOf found).overlay layer)
      changed.increasing_written hread hchanged.ofJson_written hlookup
    have hnext := (survives_of_ofJson hread).named name
    refine changeAll_cons_eq_ok.2 ⟨_, changeOf_some hother hlayer hagain, ?_⟩
    refine ih hrest (fun _ h => Option.some.inj h ▸ hnext) hall
      ((survives_of_ofJson hagain).named name) fun key => ?_
    show _ = ({ read with name } : EntityDefinition).written.lookup key ∨ _
    rw [(survives_of_ofJson hagain).lookup_named, (survives_of_ofJson hread).lookup_named]
    by_cases hkey : key = "name"
    · exact Or.inl (by simp [hkey])
    · simpa [hkey] using hagainMixed key

/-- Changes leave what came of them as it is. -/
theorem changeAll_again {result : Option EntityDefinition}
    (hsorted : ∀ change ∈ changes, change.IsSorted)
    (hfound : ∀ definition ∈ found, definition.Survives)
    (h : changeAll name found changes = .ok result) :
    changeAll name result changes = .ok result := by
  cases result with
  | none =>
    obtain ⟨-, rfl⟩ := changeAll_eq_none h
    rfl
  | some changed =>
    have hchanged := survives_of_changeAll hfound h changed rfl
    exact changeAll_of_mixed hsorted hfound hchanged h hchanged fun _ => Or.inr rfl

theorem changeOf_again (hsorted : change.IsSorted)
    (hfound : ∀ definition ∈ found, definition.Survives)
    (h : changeOf name found change = .ok changed) :
    changeOf name (some changed) change = .ok changed := by
  have hone : changeAll name found [change] = .ok (some changed) :=
    changeAll_singleton.2 ⟨changed, h, rfl⟩
  obtain ⟨_, hagain, ⟨⟩⟩ := changeAll_singleton.1
    (changeAll_again (List.forall_mem_singleton.2 hsorted) hfound hone)
  exact hagain

/-! ## What can be stored -/

namespace EntityDefinition

theorem IsStorable.survives (h : definition.IsStorable) : definition.Survives :=
  survives_of_ofJson (IsProper.ofJson_canonicalValue (n := 122) h)

theorem IsStorable.fits_written (h : definition.IsStorable) :
    ∀ member ∈ definition.written, member.2.Fits Number.ReadsBack 126 := by
  have hfits := (h.isReadBack .value).fits
  rw [toJson_eq_object] at hfits
  exact hfits.of_object

end EntityDefinition

/-- What changes make of a definition can be stored if that and the changes themselves can. -/
theorem isStorable_of_changeOf (hfound : ∀ definition ∈ found, definition.IsStorable)
    (hsorted : change.IsSorted) (hfits : change.Fits Number.ReadsBack Draft.depthLimit)
    (h : changeOf name found change = .ok changed) : changed.IsStorable := by
  obtain ⟨layer, read, hlayer, hread, rfl⟩ :=
    changeOf_eq_ok (fun d hd => (hfound d hd).survives) hsorted h
  have hbase : ∀ member ∈ membersOf found, member.2.Fits Number.ReadsBack 126 := by
    cases found with
    | none => exact List.forall_mem_nil _
    | some definition => exact (hfound definition rfl).fits_written
  have hover : ∀ member ∈ layer, member.2.Fits Number.ReadsBack 126 := by
    cases change with
    | object members =>
      obtain rfl := Option.some.inj hlayer
      exact Fits.of_object (n := 126) hfits
    | null =>
      obtain rfl := Option.some.inj hlayer
      exact List.forall_mem_nil _
    | _ => cases hlayer
  have hvalue : (object (overlay (membersOf found) layer)).Fits Number.ReadsBack (124 + 3) :=
    .object fun member hmem => (mem_of_mem_overlay hmem).elim (hbase member) (hover member)
  exact IsStorable.named (isProper_of_read (Draft.fits_ofJson hvalue) hread) name

theorem isStorable_of_changeAll (hfound : ∀ definition ∈ found, definition.IsStorable)
    (hchanges : ∀ change ∈ changes, change.IsSorted ∧ change.Fits Number.ReadsBack Draft.depthLimit)
    {result : Option EntityDefinition} (h : changeAll name found changes = .ok result) :
    ∀ definition ∈ result, definition.IsStorable := by
  induction changes generalizing found with
  | nil => exact Except.ok.inj h ▸ hfound
  | cons change rest ih =>
    obtain ⟨⟨hsorted, hfits⟩, hrest⟩ := List.forall_mem_cons.1 hchanges
    obtain ⟨changed, hchanged, hall⟩ := changeAll_cons_eq_ok.1 h
    have hstorable := isStorable_of_changeOf hfound hsorted hfits hchanged
    exact ih (fun _ hd => Option.some.inj hd ▸ hstorable) hrest hall

end EntityPipeline
