-- Generating again. A run that only checks what a run has generated reads the same settings and
-- blueprints and, of every definition, what it was before or what it was made. So it comes to the
-- same entities and finds all their snapshots unchanged, provided the numbers in these texts read
-- back and no entity has lost its definition: a snapshot that is judged unchanged by its members may
-- be the definition of another entity. None is lost where each stands in the snapshot of its entity.
import EntityPipeline.Proofs.Preparation.KeptDefinitions
import EntityPipeline.Proofs.Preparation.Outcome
import EntityPipeline.Proofs.Project.Overrides
import EntityPipeline.Proofs.Project.Reading

namespace EntityPipeline

open SnapshotWriter

/-! ## Entities of given contexts -/

namespace Context.IsGiven

variable {context other : Context} (h : context.IsGiven)
include h

/-- A given context can be prepared when its definitions satisfy all conditions. -/
theorem prepareAll_eq_ok : (prepareAll context).result = .ok () ↔
    ∀ condition : Condition, condition.Holds context.config context.definitions := by
  have houtcome := prepareAll_outcome context.config h.nodup
  rw [← h.eq_ofDefinitions] at houtcome
  rcases houtcome with ⟨hall, hok⟩ | ⟨failure, herror, htells⟩
  · exact iff_of_true hok hall
  · exact iff_of_false (by rw [herror]; exact nofun) htells.not_all

/-- Its entities come from its definitions, but for the definition of the managed user. -/
theorem expected_eq : context.expected = (context.definitions.filter fun definition =>
    !(managesUsers context.config && definition.name == userEntity)).map fun definition =>
      ⟨definition.name, definition, false⟩ := by
  unfold expected declared
  rw [← h.sources_eq, List.map_map, List.filter_map, List.map_map]
  rfl

/-- Given contexts with the same settings and definitions lead to the same entities. -/
theorem expected_perm (h' : other.IsGiven) (hconfig : other.config = context.config)
    (hsame : ∀ name, other.definition? name = context.definition? name) :
    other.expected.Perm context.expected := by
  rw [h.expected_eq, h'.expected_eq, hconfig]
  exact ((h'.perm_definitions h hsame).filter _).map _

section Prepared

variable {entity : Entity} (hok : (prepareAll context).result = .ok ())
include hok

/-- Each entity of a prepared context stands for one of the definitions, under its name. -/
theorem of_mem_writtenEntities
    (hentity : entity ∈ writtenEntities (prepareAll context).state.entities) :
    entity.name = entity.definition.name ∧ entity.definition ∈ context.definitions := by
  have hin := List.mem_map_of_mem (f := Entity.provenance) hentity
  rw [provenance_prepareAll hok, h.expected_eq] at hin
  obtain ⟨definition, hdefinition, heq⟩ := List.mem_map.1 hin
  obtain ⟨rfl, hname⟩ : definition = entity.definition ∧ definition.name = entity.name :=
    ⟨congrArg Provenance.definition heq, congrArg Provenance.name heq⟩
  exact ⟨hname.symm, List.mem_of_mem_filter hdefinition⟩

theorem nodup_writtenEntities :
    ((writtenEntities (prepareAll context).state.entities).map Entity.name).Nodup := by
  have hnames : (writtenEntities (prepareAll context).state.entities).map Entity.name =
      context.expected.map Provenance.name := by
    rw [← provenance_prepareAll hok, List.map_map]
    rfl
  rw [hnames, h.expected_eq, List.map_map]
  exact h.nodup.sublist (List.filter_sublist.map _)

end Prepared

end Context.IsGiven

/-! ## What is loaded -/

namespace Command

variable {files : FileTree} {path : String} {paths : List String} {skipUserManagement : Bool}
  {context : Context} {blueprints : List Blueprint}

/-- The settings of a run: the command may say that users are managed elsewhere. -/
def settings (config : ApplicationConfig) (skipUserManagement : Bool) : ApplicationConfig :=
  { config with skipUserManagement := skipUserManagement || config.skipUserManagement }

theorem loadContext_eq_ok : (loadContext files path skipUserManagement).1 = .ok context ↔
    ∃ config definitions, ApplicationConfig.load files path = .ok config ∧
      (readProject files path (settings config skipUserManagement)).1 = .ok definitions ∧
      .ofDefinitions (settings config skipUserManagement) definitions = context := by
  unfold loadContext
  cases ApplicationConfig.load files path with
  | error e => simp
  | ok config =>
    simp only [map_eq_ok, Except.ok.injEq, exists_and_left, exists_eq_left']
    rfl

theorem loads_of_composeBlueprints {s composed : Scheduler Session}
    (h : (composeBlueprints files s paths).1 = .ok composed) :
    ∃ blueprints,
      List.Forall₂ (fun path b => Blueprint.load files path = .ok b) paths blueprints := by
  induction paths generalizing s with
  | nil => exact ⟨[], .nil⟩
  | cons path rest ih =>
    unfold composeBlueprints at h
    split at h
    · cases h
    · rename_i blueprint hload
      split at h
      · cases h
      · obtain ⟨blueprints, hrest⟩ := ih h
        exact ⟨blueprint :: blueprints, .cons hload hrest⟩

/-- A run that succeeds has loaded its project and its blueprints. -/
theorem loads_of_runGenerate {check : Bool} {text : String}
    (h : (runGenerate files path paths check skipUserManagement).result = .ok text) :
    (∃ context, (loadContext files path skipUserManagement).1 = .ok context) ∧
      ∃ blueprints, List.Forall₂ (fun path b => Blueprint.load files path = .ok b)
        paths blueprints := by
  unfold runGenerate at h
  split at h
  · cases h
  · rename_i context events hcontext
    dsimp only at h
    split at h
    · cases h
    · rename_i scheduler hcomposed
      exact ⟨⟨context, by rw [hcontext]⟩, loads_of_composeBlueprints hcomposed⟩

/-- A project whose entities have different names without separators, with blueprints outside the
folder of its snapshots. -/
structure WellNamed (files : FileTree) (path : String) (paths : List String) : Prop where
  distinct : (definedNames files path).Nodup
  separate : ∀ name ∈ definedNames files path, '/' ∉ name.toList
  overrides : ∀ file ∈ paths, ∀ blueprint, Blueprint.load files file = .ok blueprint →
    ∀ change ∈ blueprint.entities, '/' ∉ change.1.toList
  outside : ∀ file ∈ paths, ¬Snapshot.home path <+: Place.ofPath file

/-- A project whose definitions and blueprints have only numbers that read back. -/
def WellNumbered (files : FileTree) (path : String) (paths : List String) : Prop :=
  ∀ file ∈ definitionPaths files path ++ paths, NumbersReadBack files file

instance (files : FileTree) (path : String) (paths : List String) :
    Decidable (WellNumbered files path paths) :=
  inferInstanceAs (Decidable (∀ file ∈ definitionPaths files path ++ paths, _))

/-! ## What blueprints leave to be prepared -/

/-- The context that is prepared once blueprints are applied to definitions. -/
def applied (blueprints : List Blueprint) (config : ApplicationConfig)
    (definitions : List EntityDefinition) : Context :=
  (applyAll (Blueprint.firsts [] blueprints) (.ofDefinitions config definitions)).state

theorem isGiven_applied (blueprints : List Blueprint) (config : ApplicationConfig)
    (definitions : List EntityDefinition) : (applied blueprints config definitions).IsGiven :=
  Blueprint.isGiven_applyAll _ (Context.isGiven_ofDefinitions config definitions)

theorem provenance_handledEntities {config : ApplicationConfig}
    {definitions : List EntityDefinition}
    (h : Prepares blueprints (.ofDefinitions config definitions)) :
    (handledEntities blueprints (.ofDefinitions config definitions)).map Entity.provenance =
      (applied blueprints config definitions).expected :=
  provenance_prepareAll h.prepares

/-- The changes that loaded blueprints make, each from one of their files. -/
theorem exists_load_of_mem_changesOf {change : String × Json}
    (hload : List.Forall₂ (fun path b => Blueprint.load files path = .ok b) paths blueprints)
    (hin : change ∈ Blueprint.changesOf (Blueprint.firsts [] blueprints)) :
    ∃ file ∈ paths, ∃ blueprint, Blueprint.load files file = .ok blueprint ∧
      change ∈ blueprint.entities := by
  obtain ⟨blueprint, hblueprint, hchange⟩ := List.mem_flatMap.1 hin
  obtain ⟨file, hfile, hloaded⟩ := Json.exists_mem_of_forall₂ hload
    ((Blueprint.firsts_sublist [] blueprints).subset hblueprint)
  exact ⟨file, hfile, blueprint, hloaded, hchange⟩

/-- Once blueprints are applied, all definitions can be stored, in files of their own. -/
theorem storable_applied {config : ApplicationConfig} {definitions : List EntityDefinition}
    (hwell : WellNamed files path paths) (hnumbers : WellNumbered files path paths)
    (hread : (readProject files path config).1 = .ok definitions)
    (hload : List.Forall₂ (fun path b => Blueprint.load files path = .ok b) paths blueprints)
    (hok : (applyAll (Blueprint.firsts [] blueprints)
      (.ofDefinitions config definitions)).result = .ok ()) :
    ∀ definition ∈ (applied blueprints config definitions).definitions,
      definition.IsStorable ∧ '/' ∉ definition.name.toList := by
  intro definition hin
  have hfound := (isGiven_applied blueprints config definitions).definition?_eq_some.2 ⟨hin, rfl⟩
  have hchanges := (Blueprint.applyAll_eq_ok hok).2 definition.name
  have hafter : (applyAll (Blueprint.firsts [] blueprints)
      (.ofDefinitions config definitions)).state.definition? definition.name = some definition :=
    hfound
  rw [hafter] at hchanges
  constructor
  · refine isStorable_of_changeAll (fun given hgiven => ?_) (fun change hchange => ?_) hchanges
      definition rfl
    · obtain ⟨file, hfile, hholds⟩ :=
        (mem_of_readProject hread).1 (Context.mem_of_definition? hgiven).1
      exact DefinitionFile.isStorable_of_read
        (hnumbers file (List.mem_append_left paths hfile)) hholds
    · obtain ⟨file, hfile, blueprint, hloaded, hin⟩ :=
        exists_load_of_mem_changesOf hload (mem_changesTo.1 hchange)
      exact Blueprint.areStorable_of_load
        (hnumbers file (List.mem_append_right _ hfile)) hloaded _ hin
  · -- its name is that of a definition or of a change
    cases hgiven : (Context.ofDefinitions config definitions).definition? definition.name with
    | some given =>
      obtain ⟨hmem, hname⟩ := Context.mem_of_definition? hgiven
      exact hwell.separate _
        ((definedNames_perm hread).mem_iff.2 (List.mem_map.2 ⟨given, hmem, hname⟩))
    | none =>
      cases hall : changesTo definition.name
          (Blueprint.changesOf (Blueprint.firsts [] blueprints)) with
      | nil =>
        rw [hgiven, hall] at hchanges
        cases hchanges
      | cons change rest =>
        obtain ⟨file, hfile, blueprint, hloaded, hchange⟩ :=
          exists_load_of_mem_changesOf hload (mem_changesTo.1 (hall ▸ List.mem_cons_self))
        exact hwell.overrides file hfile blueprint hloaded _ hchange

/-! ## What a run leaves -/

/-- What a run leaves of a project: nothing but snapshots of its entities has changed, all of them
pass, and each is reported. -/
structure Settled (files : FileTree) (path : String) (entities : List Entity)
    (outcome : CommandOutcome) : Prop where
  writable : ∀ entity ∈ entities, entity.IsWritable
  rewrites : ∃ written, Rewrites path entities written files outcome.files
  passes : AllPass path outcome.files entities
  reports : (outputRecords outcome.events).map OutputRecord.path =
    entities.map fun entity => Snapshot.path path entity.name

theorem isWritable_of_handled {config : ApplicationConfig} {definitions : List EntityDefinition}
    (hwell : WellNamed files path paths) (hnumbers : WellNumbered files path paths)
    (hread : (readProject files path config).1 = .ok definitions)
    (hload : List.Forall₂ (fun path b => Blueprint.load files path = .ok b) paths blueprints)
    (hprepares : Prepares blueprints (.ofDefinitions config definitions)) :
    ∀ entity ∈ handledEntities blueprints (.ofDefinitions config definitions),
      entity.IsWritable := by
  have hgiven := isGiven_applied blueprints config definitions
  have hnamed := hgiven.prepareAll_eq_ok.1 hprepares.prepares .named
  intro entity hentity
  obtain ⟨hname, hin⟩ := hgiven.of_mem_writtenEntities hprepares.prepares hentity
  obtain ⟨hstorable, hseparate⟩ := storable_applied hwell hnumbers hread hload
    hprepares.applies _ hin
  exact ⟨hname ▸ hseparate, hstorable, hnamed _ hin⟩

theorem settled_of_generatedDirectly {config : ApplicationConfig}
    {definitions : List EntityDefinition} {check : Bool} {outcome : CommandOutcome} {text : String}
    (hwell : WellNamed files path paths) (hnumbers : WellNumbered files path paths)
    (hread : (readProject files path config).1 = .ok definitions)
    (hload : List.Forall₂ (fun path b => Blueprint.load files path = .ok b) paths blueprints)
    (hdirect : GeneratedDirectly outcome blueprints ⟨path, check⟩
      ⟨.ofDefinitions config definitions, files⟩) (hok : outcome.result = .ok text) :
    Prepares blueprints (.ofDefinitions config definitions) ∧
      Settled files path (handledEntities blueprints (.ofDefinitions config definitions))
        outcome := by
  obtain ⟨hprepares, records, hwriting, hfiles, hrecords⟩ := hdirect.writes hok
  have hwritable := isWritable_of_handled hwell hnumbers hread hload hprepares
  have hdistinct := (isGiven_applied blueprints config definitions).nodup_writtenEntities
    hprepares.prepares
  have hleft := rewrites_of_writeEach hwriting hdistinct (fun e he => (hwritable e he).separate)
    (fun e he => (hwritable e he).storable) (readProject_eq_ok.1 hread).1
  have hpaths := (records_of_writeEach hwriting).2
  refine ⟨hprepares, hwritable, ?_, ?_, ?_⟩
  · rw [hfiles]
    exact hleft.1
  · rw [hfiles]
    exact hleft.2
  · rw [hrecords]
    exact hpaths

/-! ## Projects that keep their names -/

/-- Every definition of a project stands in the snapshot that is named for its entity. -/
def WellFiled (files : FileTree) (path : String) : Prop :=
  ∀ file ∈ definitionPaths files path, ∀ definition,
    DefinitionFile.read files file = .holding definition →
      file = Snapshot.path path definition.name

/-- A snapshot that is named for its entity goes on to define that entity. -/
theorem Settled.mem_definedNames {entities : List Entity} {outcome : CommandOutcome}
    (h : Settled files path entities outcome)
    (hentities : ∀ entity ∈ entities, entity.name = entity.definition.name)
    {definition : EntityDefinition} (hname : '/' ∉ definition.name.toList)
    (hin : Snapshot.path path definition.name ∈ definitionPaths files path)
    (hholds : DefinitionFile.read files (Snapshot.path path definition.name) =
      .holding definition) : definition.name ∈ definedNames outcome.files path := by
  obtain ⟨written, hrewrites⟩ := h.rewrites
  obtain ⟨file, hfile, hjson, heq⟩ := mem_definitionPaths.1 hin
  have hafter := mem_definitionPaths.2
    ⟨file, hrewrites.refiled.namesIn_subset hfile, hjson, heq⟩
  have hdefined : ∀ other, DefinitionFile.read outcome.files
      (Snapshot.path path definition.name) = .holding other → other.name = definition.name →
        definition.name ∈ definedNames outcome.files path := fun other hother hsame =>
    List.mem_map.2 ⟨other, List.mem_filterMap.2
      ⟨_, hafter, DefinitionFile.definition?_eq_some.2 hother⟩, hsame⟩
  by_cases hplace : ∃ entity ∈ entities, entity.name = definition.name ∧
      outcome.files.read (Snapshot.path path entity.name) =
        .ok (Snapshot.render entity.definition)
  · -- it was written, with the definition of the entity it is named for
    obtain ⟨entity, hentity, hsame, hread⟩ := hplace
    have hwritable := h.writable entity hentity
    rw [hsame] at hread
    exact hdefined _ (DefinitionFile.read_render hwritable.storable hwritable.named hread)
      ((hentities entity hentity).symm.trans hsame)
  · have hreadable : ¬DefinitionFile.Fails files (Snapshot.path path definition.name) := by
      rintro ⟨failure, hfailure⟩
      rw [hholds] at hfailure
      cases hfailure
    obtain ⟨text, hread⟩ := DefinitionFile.read_text hreadable
    have hsame : outcome.files.read (Snapshot.path path definition.name) = .ok text := by
      refine (hrewrites.refiled.read_eq_ok_iff fun other hother hother' => hplace ?_).2 hread
      obtain ⟨entity, hentity, rfl, hwritten⟩ := hrewrites.holds other hother
      have hseparate := (h.writable entity hentity).separate
      have hplaces : Place.ofPath (Snapshot.path path definition.name) =
          Place.ofPath (Snapshot.path path entity.name) :=
        hother'.trans (Snapshot.ofPath_path hseparate).symm
      exact ⟨entity, hentity, (Snapshot.path_injective hname hseparate hplaces).symm, hwritten⟩
    exact hdefined _ ((DefinitionFile.read_eq_of_read hread hsame).trans hholds) rfl

/-- Where every definition stands in the snapshot of its entity, a run loses none. -/
theorem definedNames_kept {check : Bool} {text : String} (hwell : WellNamed files path paths)
    (hnumbers : WellNumbered files path paths) (hfiled : WellFiled files path)
    (hok : (runGenerate files path paths check skipUserManagement).result = .ok text) :
    ∀ name ∈ definedNames files path, name ∈ definedNames
      (runGenerate files path paths check skipUserManagement).files path := by
  intro name hname
  obtain ⟨⟨context, hcontext⟩, blueprints, hload⟩ := loads_of_runGenerate hok
  obtain ⟨config, definitions, -, hread, rfl⟩ := loadContext_eq_ok.1 hcontext
  obtain ⟨hprepares, hsettled⟩ := settled_of_generatedDirectly hwell hnumbers hread hload
    (generatedDirectly_runGenerate check hcontext hload) hok
  have hentities : ∀ entity ∈ handledEntities blueprints
      (.ofDefinitions (settings config skipUserManagement) definitions),
      entity.name = entity.definition.name := fun entity hentity =>
    ((isGiven_applied blueprints _ definitions).of_mem_writtenEntities hprepares.prepares
      hentity).1
  obtain ⟨definition, hdefinition, rfl⟩ := List.mem_map.1 hname
  obtain ⟨file, hfile, hholds⟩ := List.mem_filterMap.1 hdefinition
  rw [DefinitionFile.definition?_eq_some] at hholds
  have hplace := hfiled file hfile definition hholds
  exact hsettled.mem_definedNames hentities (hwell.separate _ hname) (hplace ▸ hfile)
    (hplace ▸ hholds)

/-! ## Generating again -/

section Again

variable {config : ApplicationConfig} {definitions others : List EntityDefinition}
  (hn : (definitions.map EntityDefinition.name).Nodup)
  (hprepares : Prepares blueprints (.ofDefinitions config definitions))
  (hothers : ∀ definition ∈ others, definition ∈ definitions ∨
    ∃ entity ∈ handledEntities blueprints (.ofDefinitions config definitions),
      definition = entity.definition)
  (hkept : ∀ name ∈ definitions.map EntityDefinition.name,
    name ∈ others.map EntityDefinition.name)
include hn hprepares hothers hkept

/-- Read again, each definition is what it was or what it was made. -/
theorem definition?_again (name : String) :
    (Context.ofDefinitions config others).definition? name =
        (Context.ofDefinitions config definitions).definition? name ∨
      (Context.ofDefinitions config others).definition? name =
        (applied blueprints config definitions).definition? name := by
  cases hfound : (Context.ofDefinitions config others).definition? name with
  | none =>
    have hlost := mt (hkept name) (Context.definition?_eq_none.1 hfound)
    exact Or.inl (Context.definition?_eq_none.2 hlost).symm
  | some definition =>
    obtain ⟨hin, rfl⟩ := Context.mem_of_definition? hfound
    rcases hothers definition hin with hold | ⟨entity, hentity, rfl⟩
    · exact Or.inl (Context.definition?_of_nodup hn hold).symm
    · have hgiven := isGiven_applied blueprints config definitions
      have hmem := (hgiven.of_mem_writtenEntities hprepares.prepares hentity).2
      exact Or.inr (hgiven.definition?_eq_some.2 ⟨hmem, rfl⟩).symm

/-- The entities are prepared again, from the same definitions. -/
theorem prepares_again
    (hread : (readProject files path config).1 = .ok definitions)
    (hload : List.Forall₂ (fun path b => Blueprint.load files path = .ok b) paths blueprints) :
    Prepares blueprints (.ofDefinitions config others) ∧
      ((handledEntities blueprints (.ofDefinitions config others)).map Entity.provenance).Perm
        ((handledEntities blueprints (.ofDefinitions config definitions)).map
          Entity.provenance) := by
  have hgiven := isGiven_applied blueprints config definitions
  have hgiven' := isGiven_applied blueprints config others
  have hsettings : (Context.ofDefinitions config others).config =
      (Context.ofDefinitions config definitions).config := by
    rw [Context.config_ofDefinitions, Context.config_ofDefinitions]
  have hsurvive : ∀ name,
      ∀ definition ∈ (Context.ofDefinitions config definitions).definition? name,
        definition.Survives := by
    intro name definition hfound
    obtain ⟨file, -, hholds⟩ := (mem_of_readProject hread).1 (Context.mem_of_definition? hfound).1
    exact DefinitionFile.survives_of_read hholds
  have hsorted : ∀ change ∈ Blueprint.changesOf (Blueprint.firsts [] blueprints),
      change.2.IsSorted := by
    intro change hchange
    obtain ⟨file, -, blueprint, hloaded, hin⟩ := exists_load_of_mem_changesOf hload hchange
    exact (Blueprint.areStorable_of_load (fun _ _ t _ => t.fits_true) hloaded change hin).1
  obtain ⟨happlies, hconfig, hsame⟩ := Blueprint.applyAll_again hsettings hsurvive hsorted
    hprepares.applies
    (definition?_again hn hprepares hothers hkept)
  have hall := hgiven.prepareAll_eq_ok.1 hprepares.prepares
  have hperm := hgiven'.perm_definitions hgiven hsame
  have hconfig : (applied blueprints config others).config =
      (applied blueprints config definitions).config := hconfig
  have hagain : (prepareAll (applied blueprints config others)).result = .ok () := by
    refine hgiven'.prepareAll_eq_ok.2 fun condition => ?_
    rw [hconfig]
    exact Condition.holds_of_perm hperm hgiven.nodup (hall condition)
  have hpreparesAgain : Prepares blueprints (.ofDefinitions config others) := ⟨happlies, hagain⟩
  refine ⟨hpreparesAgain, ?_⟩
  rw [provenance_handledEntities hprepares, provenance_handledEntities hpreparesAgain]
  exact hgiven.expected_perm hgiven' hconfig hsame

end Again

/-- A run that only checks what a run has generated succeeds, changes no file and reports all the
same snapshots as unchanged, if every definition stood in the snapshot of its entity or each entity
is at least still defined by some file. -/
theorem checking_again_finds_all_unchanged {check : Bool} {text : String}
    (hwell : WellNamed files path paths) (hnumbers : WellNumbered files path paths)
    (hok : (runGenerate files path paths check skipUserManagement).result = .ok text)
    (hfiled : WellFiled files path ∨ ∀ name ∈ definedNames files path, name ∈ definedNames
      (runGenerate files path paths check skipUserManagement).files path) :
    ∃ records, FindsUnchanged
        (runGenerate (runGenerate files path paths check skipUserManagement).files path paths true
          skipUserManagement)
        (runGenerate files path paths check skipUserManagement).files records ∧
      (records.map OutputRecord.path).Perm ((outputRecords
        (runGenerate files path paths check skipUserManagement).events).map OutputRecord.path) := by
  have hkept := hfiled.elim (fun hfiled => definedNames_kept hwell hnumbers hfiled hok) id
  obtain ⟨⟨context, hcontext⟩, blueprints, hload⟩ := loads_of_runGenerate hok
  obtain ⟨config, definitions, hconfig, hread, rfl⟩ := loadContext_eq_ok.1 hcontext
  obtain ⟨hprepares, hsettled⟩ := settled_of_generatedDirectly hwell hnumbers hread hload
    (generatedDirectly_runGenerate check hcontext hload) hok
  generalize runGenerate files path paths check skipUserManagement = first at *
  obtain ⟨written, hrewrites⟩ := hsettled.rewrites
  -- the project and its blueprints are loaded again
  obtain ⟨others, hreadAgain, hothers⟩ := hrewrites.readProject_again hsettled.writable hread
  have hcontextAgain := loadContext_eq_ok.2
    ⟨config, others, hrewrites.loadConfig_again hconfig, hreadAgain, rfl⟩
  have hloadAgain := hrewrites.loadBlueprints_again hwell.outside hload
  -- the entities are prepared again
  have hnames := definedNames_perm hread
  have hlost : ∀ name ∈ definitions.map EntityDefinition.name,
      name ∈ others.map EntityDefinition.name := fun name hin =>
    (definedNames_perm hreadAgain).mem_iff.1 (hkept name (hnames.mem_iff.2 hin))
  obtain ⟨hpreparesAgain, hperm⟩ := prepares_again (hnames.nodup_iff.1 hwell.distinct) hprepares
    hothers hlost hread hload
  -- their snapshots pass
  have hpass : AllPass path first.files
      (handledEntities blueprints (.ofDefinitions (settings config skipUserManagement) others)) := by
    intro entity hentity
    obtain ⟨before, hbefore, heq⟩ := List.mem_map.1
      (hperm.mem_iff.1 (List.mem_map_of_mem (f := Entity.provenance) hentity))
    have hname : before.name = entity.name := congrArg Provenance.name heq
    have hdefinition : before.definition = entity.definition := congrArg Provenance.definition heq
    exact hname ▸ hdefinition ▸ hsettled.passes before hbefore
  refine ⟨_, (generatedDirectly_runGenerate true hcontextAgain hloadAgain).findsUnchanged
    hpreparesAgain (isGiven_applied _ _ _).unrecorded hpass, ?_⟩
  have hpaths := hperm.map fun p : Provenance => Snapshot.path path p.name
  rw [hsettled.reports]
  simpa [untouched, Entity.provenance, Function.comp_def] using hpaths

/-! ## Stories told again -/

/-- A project with a story in a file of another name, and with a blueprint that adds a shelf. -/
def storyProject : FileTree where
  entries := [([".jhipster"], .folder),
    ([".jhipster", "Tale.json"], .text "\x7b\"name\":\"Story\"\x7d"),
    (["more.json"], .text ("\x7b\"entities\":\x7b\"Shelf\":\x7b\x7d,\"Story\":" ++
      "\x7b\"javadoc\":\"told\"\x7d\x7d\x7d"))]

/-- The blueprint of that project. -/
def moreStories : Blueprint := (Blueprint.load storyProject "more.json").toOption.getD {}

/-- What the project loads as. -/
def storyContext : Context := (loadContext storyProject "." false).1.toOption.getD {}

/-- What a run makes of the project. -/
def storyOutcome : Outcome Session (List OutputRecord) :=
  generateDirectly [moreStories] ⟨".", false⟩ ⟨storyContext, storyProject⟩

theorem checking_stories_finds_all_unchanged :
    WellNamed storyProject "." ["more.json"] ∧ WellNumbered storyProject "." ["more.json"] ∧
    (∃ text, (runGenerate storyProject "." ["more.json"] false false).result = .ok text) ∧
    (∀ name ∈ definedNames storyProject ".", name ∈ definedNames
      (runGenerate storyProject "." ["more.json"] false false).files ".") ∧
    ∃ records, FindsUnchanged
        (runGenerate (runGenerate storyProject "." ["more.json"] false false).files "."
          ["more.json"] true false)
        (runGenerate storyProject "." ["more.json"] false false).files records ∧
      (records.map OutputRecord.path).Perm ((outputRecords
        (runGenerate storyProject "." ["more.json"] false false).events).map OutputRecord.path) := by
  obtain ⟨hmore, hcontext, hstory, hnames⟩ :
      (Blueprint.load storyProject "more.json").toOption.isSome = true ∧
      (loadContext storyProject "." false).1.toOption.isSome = true ∧
      storyOutcome.result.toOption.isSome = true ∧
      ∀ name ∈ definedNames storyProject ".",
        name ∈ definedNames storyOutcome.state.files "." := by decide +kernel
  have hload : Blueprint.load storyProject "more.json" = .ok moreStories :=
    eq_ok_getD ({} : Blueprint) hmore
  have hwell : WellNamed storyProject "." ["more.json"] := by
    refine ⟨by decide +kernel, by decide +kernel, List.forall_mem_singleton.2 ?_, by decide +kernel⟩
    intro blueprint hblueprint
    obtain rfl := Except.ok.inj (hload.symm.trans hblueprint)
    decide +kernel
  have hnumbers : WellNumbered storyProject "." ["more.json"] := by decide +kernel
  have hdirect := generatedDirectly_runGenerate false
    (eq_ok_getD ({} : Context) hcontext) (.cons hload .nil)
  have hok := hdirect.succeeds _ (eq_ok_getD [] hstory)
  have hkept : ∀ name ∈ definedNames storyProject ".", name ∈ definedNames
      (runGenerate storyProject "." ["more.json"] false false).files "." := by
    rw [hdirect.files]
    exact hnames
  exact ⟨hwell, hnumbers, ⟨_, hok⟩, hkept,
    checking_again_finds_all_unchanged hwell hnumbers hok (Or.inr hkept)⟩

/-! ## A definition that is lost -/

/-- The definitions of a project as they stand in its files. -/
def standing (files : FileTree) (path : String) : List EntityDefinition :=
  (readDefinitions files (definitionPaths files path)).1.toOption.getD []

/-- A project without settings, whose files hold definitions in order. -/
structure StandsInOrder (files : FileTree) (path : String) : Prop where
  plain : files.contains (Path.join path ApplicationConfig.fileName) = false
  folder : files.isFolder (Path.join path Snapshot.folder) = true
  readable : (readDefinitions files (definitionPaths files path)).1.toOption.isSome = true
  sorted : (standing files path).Pairwise fun first second =>
    first.mayPrecede [] second = true

instance (files : FileTree) (path : String) : Decidable (StandsInOrder files path) :=
  decidable_of_iff (_ ∧ _ ∧ _ ∧ _)
    ⟨fun ⟨h1, h2, h3, h4⟩ => ⟨h1, h2, h3, h4⟩, fun h => ⟨h.plain, h.folder, h.readable, h.sorted⟩⟩

/-- Definitions that stand in order are loaded as they stand. -/
theorem StandsInOrder.loadContext_eq (h : StandsInOrder files path) (skipUserManagement : Bool) :
    (loadContext files path skipUserManagement).1 =
      .ok (.ofDefinitions (settings {} skipUserManagement) (standing files path)) := by
  have hconfig : ApplicationConfig.load files path = .ok {} := by
    unfold ApplicationConfig.load
    dsimp only
    rw [h.plain]
    rfl
  obtain ⟨hok, heq⟩ := readDefinitions_eq_ok.1 (eq_ok_getD [] h.readable)
  refine loadContext_eq_ok.2 ⟨{}, standing files path, hconfig, ?_, rfl⟩
  refine readProject_eq_ok.2 ⟨h.folder, hok, ?_⟩
  rw [← heq]
  exact (List.mergeSort_of_pairwise h.sorted).symm

/-- The relationships of one who belongs to an author. -/
def toAuthor : String :=
  "\"relationships\":[\x7b\"relationshipType\":\"many-to-one\",\"otherEntityName\":\"Author\"\x7d]"

/-- A project where the file of each of two entities holds the other one. The text of the book passes
for the snapshot of the author; the text of the author has no fields and passes for nothing. -/
def swappedProject : FileTree where
  entries := [([".jhipster"], .folder),
    ([".jhipster", "Book.json"], .text ("\x7b\"name\":\"Author\"," ++ toAuthor ++ "\x7d")),
    ([".jhipster", "Author.json"], .text
      ("\x7b\"name\":\"Book\",\"fields\":[]," ++ toAuthor ++ "\x7d"))]

/-- What a run makes of the definitions in files. -/
def outcomeOf (files : FileTree) (check : Bool) : Outcome Session (List OutputRecord) :=
  generateDirectly [] ⟨".", check⟩ ⟨.ofDefinitions (settings {} false) (standing files "."), files⟩

/-- A run that succeeds writes the book over the author, and a run that checks misses the author. -/
theorem checking_fails_once_a_definition_is_lost :
    WellNamed swappedProject "." [] ∧
    (∃ text, (runGenerate swappedProject "." [] false false).result = .ok text) ∧
    ∀ text, (runGenerate (runGenerate swappedProject "." [] false false).files "." [] true
      false).result ≠ .ok text := by
  obtain ⟨hbefore, hafter, hnames, hok, hfails⟩ :
      StandsInOrder swappedProject "." ∧
      StandsInOrder (outcomeOf swappedProject false).state.files "." ∧
      ((definedNames swappedProject ".").Nodup ∧
        ∀ name ∈ definedNames swappedProject ".", '/' ∉ name.toList) ∧
      (outcomeOf swappedProject false).result.toOption.isSome = true ∧
      (outcomeOf (outcomeOf swappedProject false).state.files true).result.toOption = none := by
    decide +kernel
  have hdirect := generatedDirectly_runGenerate false (hbefore.loadContext_eq false) .nil
  have hdirectAgain := generatedDirectly_runGenerate true (hafter.loadContext_eq false) .nil
  have hfiles : (runGenerate swappedProject "." [] false false).files =
      (outcomeOf swappedProject false).state.files := hdirect.files
  refine ⟨⟨hnames.1, hnames.2, List.forall_mem_nil _, List.forall_mem_nil _⟩,
    ⟨_, hdirect.succeeds _ (eq_ok_getD [] hok)⟩, fun text htext => ?_⟩
  rw [hfiles] at htext
  obtain ⟨hprepares, records, hrecords, -⟩ := hdirectAgain.writes htext
  have hresult := (generateDirectly_of_prepares ⟨".", true⟩ hprepares).1
  have hresult : (outcomeOf (outcomeOf swappedProject false).state.files true).result =
      .ok records := hresult.trans hrecords
  rw [hresult] at hfails
  cases hfails

end Command

end EntityPipeline
