-- Reading a project again. The settings and the blueprints of a project are read as before once
-- snapshots have been written into it, and every file among the snapshots holds what it held before
-- or the definition that was written into it.
import EntityPipeline.Project.Load
import EntityPipeline.Proofs.Definition.Changes
import EntityPipeline.Proofs.Preparation.Given
import EntityPipeline.Proofs.Project.Refiling

namespace EntityPipeline

open Json

/-! ## What texts hold -/

/-- What a file defines is read from its value, and may then be named for the file. -/
theorem EntityDefinition.ofJson_of_ofFile {path : String} {value : Json}
    {definition : EntityDefinition} (h : ofFile path value = .ok definition) :
    ∃ read name, ofJson value = .ok read ∧ definition = { read with name } := by
  unfold ofFile at h
  split at h
  · cases h
  · rename_i read hread
    split at h
    · exact ⟨read, _, hread, (Except.ok.inj h).symm⟩
    · exact ⟨read, read.name, hread, (Except.ok.inj h).symm⟩

/-- The numbers in a file, if there is a text in it, read back. -/
def NumbersReadBack (files : FileTree) (path : String) : Prop :=
  ∀ text ∈ (files.read path).toOption, ∀ t ∈ tokens text, t.Fits Number.ReadsBack

instance (files : FileTree) (path : String) : Decidable (NumbersReadBack files path) :=
  inferInstanceAs (Decidable (∀ text ∈ (files.read path).toOption, _))

/-- The values of changes have their members in order, nest no deeper than a text can and have
numbers that are `ok`. -/
def AreStorable (ok : Number → Prop) (changes : List (String × Json)) : Prop :=
  ∀ change ∈ changes, change.2.IsSorted ∧ change.2.Fits ok Draft.depthLimit

theorem mem_of_mem_foldl_putUnder {α : Type} {entry : String × α} {changes kept : List (String × α)}
    (h : entry ∈ changes.foldl (fun kept change => putUnder change.1 change.2 kept) kept) :
    entry ∈ kept ∨ entry ∈ changes := by
  induction changes generalizing kept with
  | nil => exact Or.inl h
  | cons change rest ih =>
    rcases ih h with h | h
    · rcases mem_putUnder h with rfl | h
      · exact Or.inr List.mem_cons_self
      · exact Or.inl h
    · exact Or.inr (List.mem_cons_of_mem _ h)

namespace Blueprint

variable {ok : Number → Prop} {d : Draft} {n : Nat} {changes : List (String × Json)}
  {blueprint : Blueprint} {members : List (String × Draft)}

theorem areStorable_of_readEntities (hn : n ≤ Draft.depthLimit) (hfits : d.Fits ok n)
    (h : readEntities d = .ok changes) : AreStorable ok changes := by
  unfold readEntities at h
  split at h
  · rename_i members ending
    split at h
    · cases h
    · rename_i found hfound
      split at h
      · cases h
      · intro change hin
        rw [← Except.ok.inj h] at hin
        have hmem := (mem_of_mem_foldl_putUnder hin).resolve_left List.not_mem_nil
        obtain ⟨draft, hdraft, -, hvalue⟩ :=
          exists_mem_of_forall₂ (Draft.valueMembers_eq_ok.1 hfound) hmem
        cases hfits with
        | object hfits =>
          have hv := (hfits draft hdraft).value hvalue
          exact ⟨hv.1, hv.2.mono (by omega)⟩
  · unfold Draft.mismatch at h
    split at h <;> cases h

/-- The changes of a blueprint that is read from a text can be stored. -/
theorem areStorable_of_read (hfits : d.Fits ok Draft.depthLimit)
    (h : read .text d = .ok blueprint) : AreStorable ok blueprint.entities := by
  have hnone : AreStorable ok [] := List.forall_mem_nil _
  unfold read at h
  split at h
  · rename_i members ending
    simp only [bind_eq_ok] at h
    obtain ⟨-, -, name, -, config, -, entities, hentities, heq⟩ := h
    obtain rfl := Except.ok.inj heq
    unfold defaulted at hentities
    split at hentities
    · rename_i entitiesDraft hlookup
      have hdraft : entitiesDraft.Fits ok 126 :=
        hfits.of_object _ (mem_of_lookup hlookup)
      exact areStorable_of_readEntities (by decide) hdraft hentities
    · exact Except.ok.inj hentities ▸ hnone
  · rename_i items ending
    split at h
    · simp only [bind_eq_ok] at h
      obtain ⟨-, -, heq⟩ := h
      exact Except.ok.inj heq ▸ hnone
    · simp only [bind_eq_ok] at h
      obtain ⟨name, -, -, -, heq⟩ := h
      exact Except.ok.inj heq ▸ hnone
    · simp only [bind_eq_ok] at h
      obtain ⟨name, -, config, -, -, -, heq⟩ := h
      exact Except.ok.inj heq ▸ hnone
    · rename_i name config entities rest
      simp only [bind_eq_ok] at h
      obtain ⟨name, -, config, -, found, hentities, hrest⟩ := h
      have hdraft : entities.Fits ok 126 := hfits.of_array _ (by simp)
      have hstorable := areStorable_of_readEntities (by decide) hdraft hentities
      split at hrest
      · simp only [bind_eq_ok] at hrest
        obtain ⟨-, -, heq⟩ := hrest
        exact Except.ok.inj heq ▸ hstorable
      · cases hrest
  · unfold Draft.mismatch at h
    split at h <;> cases h

/-- So it is with those of a blueprint that is loaded. -/
theorem areStorable_of_load {files : FileTree} {path : String}
    (hnumbers : ∀ text ∈ (files.read path).toOption, ∀ t ∈ tokens text, t.Fits ok)
    (h : load files path = .ok blueprint) : AreStorable ok blueprint.entities := by
  unfold load at h
  split at h
  · cases h
  · split at h
    · cases h
    · rename_i text hread
      split at h
      · cases h
      · rename_i found hfound
        have hfits := Document.fits_ofText (hnumbers text (by rw [hread]; rfl))
        have hstorable := areStorable_of_read hfits (Decoder.read_of_ofText hfound)
        dsimp only at h
        split at h
        · cases h
          exact hstorable
        · cases h
          exact hstorable
        · cases h

end Blueprint

namespace DefinitionFile

variable {files other : FileTree} {path : String} {definition : EntityDefinition}

theorem read_eq_of_read {text : String} (h : files.read path = .ok text)
    (h' : other.read path = .ok text) : read other path = read files path := by
  unfold read
  rw [h, h']

/-- A file that holds a definition has a text with a value that the definition is read from. -/
theorem exists_of_read (h : read files path = .holding definition) : ∃ text value read name,
    files.read path = .ok text ∧ parse text = .ok value ∧
      EntityDefinition.ofJson value = .ok read ∧ definition = { read with name } := by
  unfold DefinitionFile.read at h
  split at h
  · cases h
  · rename_i text hread
    split at h
    · cases h
    · rename_i members hparse
      split at h
      · rename_i hfile
        cases h
        obtain ⟨read, name, hvalue, hname⟩ := EntityDefinition.ofJson_of_ofFile hfile
        exact ⟨text, .object members, read, name, hread, hparse, hvalue, hname⟩
      · cases h
    · cases h

theorem survives_of_read (h : read files path = .holding definition) : definition.Survives := by
  obtain ⟨_, _, read, name, -, -, hvalue, rfl⟩ := exists_of_read h
  exact (EntityDefinition.survives_of_ofJson hvalue).named name

/-- A definition can be stored if the numbers in its file read back. -/
theorem isStorable_of_read (hnumbers : NumbersReadBack files path)
    (h : read files path = .holding definition) : definition.IsStorable := by
  obtain ⟨text, value, read, name, hread, hparse, hvalue, rfl⟩ := exists_of_read h
  have hfits := (fits_of_parse (hnumbers text (by rw [hread]; rfl)) hparse).2
  have hstorable : read.IsStorable :=
    EntityDefinition.isProper_of_read (Draft.fits_ofJson hfits) hvalue
  exact hstorable.named name

/-- A file with the snapshot of a definition holds the definition. -/
theorem read_render (h : definition.IsStorable) (hname : definition.name ≠ "")
    (hread : files.read path = .ok (Snapshot.render definition)) :
    read files path = .holding definition := by
  have hparse := h.parse_render
  rw [h.survives.canonicalValue_eq] at hparse
  have hfile : EntityDefinition.ofFile path (.object definition.written) = .ok definition := by
    unfold EntityDefinition.ofFile
    rw [h.survives.ofJson_written]
    exact if_neg (by simpa using hname)
  unfold read
  simp only [hread, hparse, hfile]

/-- A file among the definitions has a failure. -/
def Fails (files : FileTree) (path : String) : Prop :=
  ∃ failure, read files path = .failure failure

theorem read_text (h : ¬Fails files path) : ∃ text, files.read path = .ok text := by
  cases hread : files.read path with
  | ok text => exact ⟨text, rfl⟩
  | error fault =>
    refine absurd ⟨.file "reading entity definition" (some path), ?_⟩ h
    unfold read
    rw [hread]

/-- The definition in a file among the definitions, if it holds one. -/
def definition? (files : FileTree) (path : String) : Option EntityDefinition :=
  match read files path with
  | .holding definition => some definition
  | _ => none

theorem definition?_eq_some :
    definition? files path = some definition ↔ read files path = .holding definition := by
  unfold definition?
  cases read files path <;> simp

end DefinitionFile

/-! ## The definitions of a project -/

section Definitions

variable {files : FileTree} {paths : List String} {directory : String} {config : ApplicationConfig}
  {definitions : List EntityDefinition} {definition : EntityDefinition}

/-- Definitions are read unless a file fails, and they are what the files hold. -/
theorem readDefinitions_eq_ok : (readDefinitions files paths).1 = .ok definitions ↔
    (∀ path ∈ paths, ¬DefinitionFile.Fails files path) ∧
      definitions = paths.filterMap (DefinitionFile.definition? files) := by
  induction paths generalizing definitions with
  | nil => simp [readDefinitions, eq_comm]
  | cons path rest ih =>
    rw [List.forall_mem_cons, List.filterMap_cons]
    unfold readDefinitions
    cases hread : DefinitionFile.read files path with
    | failure e =>
      have hfails : DefinitionFile.Fails files path := ⟨e, hread⟩
      simp [hfails]
    | skipped warning =>
      have hholds : DefinitionFile.Fails files path ↔ False := by
        simp [DefinitionFile.Fails, hread]
      have hnone : DefinitionFile.definition? files path = none := by
        simp [DefinitionFile.definition?, hread]
      simp [hholds, hnone, ih]
    | holding first =>
      have hholds : DefinitionFile.Fails files path ↔ False := by
        simp [DefinitionFile.Fails, hread]
      have hsome : DefinitionFile.definition? files path = some first :=
        DefinitionFile.definition?_eq_some.2 hread
      simp only [hholds, hsome, not_false_eq_true, true_and, map_eq_ok, ih]
      constructor
      · rintro ⟨others, ⟨hall, rfl⟩, rfl⟩
        exact ⟨hall, rfl⟩
      · rintro ⟨hall, rfl⟩
        exact ⟨_, ⟨hall, rfl⟩, rfl⟩

/-- The paths of the files of a project that may hold definitions. -/
def definitionPaths (files : FileTree) (directory : String) : List String :=
  ((files.namesIn (Path.join directory Snapshot.folder)).filter fun name =>
    (Path.splitName name).2 == some "json").map (Path.join (Path.join directory Snapshot.folder))

/-- The definitions of a project are those that its files hold, in order. -/
theorem readProject_eq_ok : (readProject files directory config).1 = .ok definitions ↔
    files.isFolder (Path.join directory Snapshot.folder) = true ∧
      (∀ path ∈ definitionPaths files directory, ¬DefinitionFile.Fails files path) ∧
      definitions = sortDefinitions config.entities
        ((definitionPaths files directory).filterMap (DefinitionFile.definition? files)) := by
  unfold readProject
  dsimp only
  cases hfolder : files.isFolder (Path.join directory Snapshot.folder) with
  | false => simp
  | true =>
    simp only [Bool.not_true, Bool.false_eq_true, if_false, true_and, map_eq_ok,
      readDefinitions_eq_ok]
    constructor
    · rintro ⟨found, ⟨hall, rfl⟩, rfl⟩
      exact ⟨hall, rfl⟩
    · rintro ⟨hall, rfl⟩
      exact ⟨_, ⟨hall, rfl⟩, rfl⟩

theorem mem_of_readProject (h : (readProject files directory config).1 = .ok definitions) :
    definition ∈ definitions ↔ ∃ path ∈ definitionPaths files directory,
      DefinitionFile.read files path = .holding definition := by
  obtain ⟨-, -, rfl⟩ := readProject_eq_ok.1 h
  simp [sortDefinitions, List.mem_mergeSort, DefinitionFile.definition?_eq_some]

theorem mem_definitionPaths {path : String} : path ∈ definitionPaths files directory ↔
    ∃ file ∈ files.namesIn (Path.join directory Snapshot.folder),
      (Path.splitName file).2 = some "json" ∧
        Path.join (Path.join directory Snapshot.folder) file = path := by
  simp [definitionPaths, and_assoc]

/-- The names of the entities that the files of a project define. -/
def definedNames (files : FileTree) (directory : String) : List String :=
  ((definitionPaths files directory).filterMap (DefinitionFile.definition? files)).map
    EntityDefinition.name

theorem definedNames_perm (h : (readProject files directory config).1 = .ok definitions) :
    (definedNames files directory).Perm (definitions.map EntityDefinition.name) := by
  obtain ⟨-, -, rfl⟩ := readProject_eq_ok.1 h
  exact ((List.mergeSort_perm _ _).map _).symm

end Definitions

/-! ## Reading again -/

/-- An entity whose snapshot can be written and read again. -/
structure Entity.IsWritable (entity : Entity) : Prop where
  separate : '/' ∉ entity.name.toList
  storable : entity.definition.IsStorable
  named : entity.definition.name ≠ ""

namespace SnapshotWriter.Rewrites

variable {directory path file : String} {entities : List Entity} {files : List String}
  {before after : FileTree} {config : ApplicationConfig} {definitions : List EntityDefinition}
  (h : Rewrites directory entities files before after)
include h

/-- Where a path led to a text before, it leads to that text or to a snapshot that was written. -/
theorem read_again (hentities : ∀ entity ∈ entities, entity.IsWritable) {text : String}
    (hread : before.read path = .ok text) : after.read path = .ok text ∨
      ∃ entity ∈ entities, after.read path = .ok (Snapshot.render entity.definition) := by
  by_cases hplace : ∃ file ∈ files, Place.ofPath path = Snapshot.home directory ++ [file]
  · obtain ⟨file, hfile, heq⟩ := hplace
    obtain ⟨entity, hentity, rfl, hholds⟩ := h.holds file hfile
    obtain ⟨hpath, husable, hwalk, -⟩ := FileTree.read_eq_ok.1 hread
    obtain ⟨-, -, -, hat⟩ := FileTree.read_eq_ok.1 hholds
    rw [Snapshot.ofPath_path (hentities entity hentity).separate] at hat
    refine Or.inr ⟨entity, hentity, FileTree.read_eq_ok.2 ⟨hpath, husable,
      h.refiled.walk_eq_ok_iff.2 hwalk, ?_⟩⟩
    rw [heq]
    exact hat
  · refine Or.inl ((h.refiled.read_eq_ok_iff fun file hfile heq => ?_).2 hread)
    exact hplace ⟨file, hfile, heq⟩

/-- A file among the snapshots holds what it held before or the definition of an entity. -/
theorem holds_again (hentities : ∀ entity ∈ entities, entity.IsWritable)
    (hin : path ∈ definitionPaths after directory)
    (hok : path ∈ definitionPaths before directory → ¬DefinitionFile.Fails before path) :
    (path ∈ definitionPaths before directory ∧
        DefinitionFile.read after path = DefinitionFile.read before path) ∨
      ∃ entity ∈ entities, DefinitionFile.read after path = .holding entity.definition := by
  have hrender : ∀ entity ∈ entities, after.read path = .ok (Snapshot.render entity.definition) →
      DefinitionFile.read after path = .holding entity.definition := fun entity hentity =>
    DefinitionFile.read_render (hentities entity hentity).storable (hentities entity hentity).named
  obtain ⟨file, hfile, hjson, rfl⟩ := mem_definitionPaths.1 hin
  rcases h.refiled.mem_namesIn hfile with hold | hnew
  · have hbefore := mem_definitionPaths.2 ⟨file, hold, hjson, rfl⟩
    obtain ⟨text, hread⟩ := DefinitionFile.read_text (hok hbefore)
    rcases h.read_again hentities hread with hsame | ⟨entity, hentity, hwritten⟩
    · exact Or.inl ⟨hbefore, DefinitionFile.read_eq_of_read hread hsame⟩
    · exact Or.inr ⟨entity, hentity, hrender entity hentity hwritten⟩
  · obtain ⟨entity, hentity, rfl, hholds⟩ := h.holds file hnew
    exact Or.inr ⟨entity, hentity, hrender entity hentity hholds⟩

/-- A project is read again, with the definitions it had or those of its entities. -/
theorem readProject_again (hentities : ∀ entity ∈ entities, entity.IsWritable)
    (hread : (readProject before directory config).1 = .ok definitions) :
    ∃ others, (readProject after directory config).1 = .ok others ∧
      ∀ definition ∈ others, definition ∈ definitions ∨
        ∃ entity ∈ entities, definition = entity.definition := by
  obtain ⟨hfolder, hok, -⟩ := readProject_eq_ok.1 hread
  have hagain := fun path hin => h.holds_again hentities hin (hok path)
  have hothers : (readProject after directory config).1 = .ok (sortDefinitions config.entities
      ((definitionPaths after directory).filterMap (DefinitionFile.definition? after))) := by
    refine readProject_eq_ok.2 ⟨h.refiled.isFolder_iff.2 hfolder, fun path hin hfails => ?_, rfl⟩
    obtain ⟨failure, hfailure⟩ := hfails
    rcases hagain path hin with ⟨hbefore, heq⟩ | ⟨entity, -, heq⟩
    · exact hok path hbefore ⟨failure, heq ▸ hfailure⟩
    · rw [heq] at hfailure
      cases hfailure
  refine ⟨_, hothers, fun definition hdefinition => ?_⟩
  obtain ⟨path, hin, hholds⟩ := (mem_of_readProject hothers).1 hdefinition
  rcases hagain path hin with ⟨hbefore, heq⟩ | ⟨entity, hentity, heq⟩
  · exact Or.inl ((mem_of_readProject hread).2 ⟨path, hbefore, heq ▸ hholds⟩)
  · rw [hholds] at heq
    exact Or.inr ⟨entity, hentity, DefinitionFile.holding.inj heq⟩

/-- A blueprint outside the folder of the snapshots is loaded as before. -/
theorem loadBlueprint_again {blueprint : Blueprint}
    (hplace : ¬Snapshot.home directory <+: Place.ofPath path)
    (hload : Blueprint.load before path = .ok blueprint) :
    Blueprint.load after path = .ok blueprint := by
  have helsewhere : ∀ file ∈ files, Place.ofPath path ≠ Snapshot.home directory ++ [file] :=
    fun file _ heq => hplace ⟨[file], heq.symm⟩
  unfold Blueprint.load at hload ⊢
  rw [h.refiled.contains_eq helsewhere]
  split at hload
  · cases hload
  · rename_i hcontains
    rw [if_neg hcontains]
    split at hload
    · cases hload
    · rename_i text hread
      rw [(h.refiled.read_eq_ok_iff helsewhere).2 hread]
      exact hload

theorem loadBlueprints_again {paths : List String} {blueprints : List Blueprint}
    (hplaces : ∀ path ∈ paths, ¬Snapshot.home directory <+: Place.ofPath path)
    (hload : List.Forall₂ (fun path b => Blueprint.load before path = .ok b) paths blueprints) :
    List.Forall₂ (fun path b => Blueprint.load after path = .ok b) paths blueprints := by
  induction hload with
  | nil => exact .nil
  | cons hfirst _ ih =>
    obtain ⟨hplace, hplaces⟩ := List.forall_mem_cons.1 hplaces
    exact .cons (h.loadBlueprint_again hplace hfirst) (ih hplaces)

/-- The settings of the project are loaded as before. -/
theorem loadConfig_again (hload : ApplicationConfig.load before directory = .ok config) :
    ApplicationConfig.load after directory = .ok config := by
  have helsewhere : ∀ file ∈ files, Place.ofPath (Path.join directory ApplicationConfig.fileName) ≠
      Snapshot.home directory ++ [file] := by
    intro file _ heq
    rw [Place.ofPath_join (by decide) (by decide), Place.step_of_length (by decide),
      ← Snapshot.ofPath_folder, Place.ofPath_join (by decide) (by decide),
      Place.step_of_length (by decide)] at heq
    have hlength := congrArg List.length heq
    simp at hlength
  unfold ApplicationConfig.load at hload ⊢
  dsimp only at hload ⊢
  rw [h.refiled.contains_eq helsewhere]
  split at hload
  · rename_i hcontains
    rw [if_pos hcontains]
    exact hload
  · rename_i hcontains
    rw [if_neg hcontains]
    split at hload
    · cases hload
    · rename_i text hread
      rw [(h.refiled.read_eq_ok_iff helsewhere).2 hread]
      exact hload

end SnapshotWriter.Rewrites

end EntityPipeline
