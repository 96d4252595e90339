-- The jobs of a generation. Blueprints, the preparation and the writer of snapshots are composed
-- into one scheduler, of blueprints with the same name only the first. Their jobs are queued in the
-- order they stand in, so that a run does them as they were composed.
import EntityPipeline.CommandLine.Commands
import EntityPipeline.Proofs.Preparation.Running

namespace EntityPipeline

/-- Blueprints whose names are not taken, the first of each name. -/
def Blueprint.firsts (taken : List String) : List Blueprint → List Blueprint
  | [] => []
  | blueprint :: rest =>
    if blueprint.name ∈ taken then firsts taken rest
    else blueprint :: firsts (blueprint.name :: taken) rest

/-- An action on the context of a session. -/
def Session.onContext {α : Type} (act : Action Context α) : Action Session α :=
  act.onPart Session.context Session.withContext

open Session (onContext)

namespace Generating

/-- The job of a blueprint. -/
def blueprintJob (blueprint : Blueprint) : Job Session :=
  ⟨"configuring", blueprint.generatorName, ⟨"mergeOverrides", onContext blueprint.apply⟩⟩

/-- The job of a phase in a project. -/
def phaseJob (phase : Phase) : Job Session :=
  ⟨phase.priority, bootstrapName, ⟨phase.task, onContext phase.run⟩⟩

/-- The job that writes the snapshots. -/
def writingJob (options : WriteOptions) : Job Session :=
  ⟨"writingEntities", SnapshotWriter.name, ⟨"writeSnapshots",
    Action.andThen (SnapshotWriter.writeSnapshots options) fun _ => .give ()⟩⟩

/-- The job that sums up what was written. -/
def summaryJob : Job Session :=
  ⟨"postWritingEntities", SnapshotWriter.name, ⟨"logSummary", .give ()⟩⟩

/-- All jobs of a generation in order. -/
def jobs (blueprints : List Blueprint) (options : WriteOptions) : List (Job Session) :=
  blueprints.map blueprintJob ++ (Phase.all.map phaseJob ++ [writingJob options, summaryJob])

/-- A scheduler with blueprints composed one after the other. -/
def withBlueprints (scheduler : Scheduler Session) (blueprints : List Blueprint) :
    Scheduler Session :=
  blueprints.foldl (fun s blueprint => s.enlisted (Session.inContext blueprint.generator)) scheduler

/-- The scheduler of a generation, with everything composed. -/
def scheduler (blueprints : List Blueprint) (options : WriteOptions) : Scheduler Session :=
  ((withBlueprints Session.scheduler blueprints).enlisted (Session.inContext bootstrap)).enlisted
    (SnapshotWriter.generator options)

variable {s : Scheduler Session} {blueprints : List Blueprint} {options : WriteOptions}

theorem withBlueprints_eq (s : Scheduler Session) (blueprints : List Blueprint) :
    withBlueprints s blueprints = { s with
      composed := s.composed ++ blueprints.map fun b => (b.generatorName, ⟨[], false⟩)
      queue := s.queue ++ blueprints.flatMap fun b => (Session.inContext b.generator).queued } := by
  induction blueprints generalizing s with
  | nil => simp [withBlueprints]
  | cons blueprint rest ih =>
    have hfirst := ih (s.enlisted (Session.inContext blueprint.generator))
    unfold withBlueprints at hfirst ⊢
    rw [List.foldl_cons, hfirst]
    simp [Scheduler.enlisted, Session.inContext, Generator.onPart, Blueprint.generator]

theorem jobs_scheduler (blueprints : List Blueprint) (options : WriteOptions) :
    (scheduler blueprints options).jobs = jobs blueprints options := by
  have hblueprints : blueprints.flatMap (fun b =>
      (Session.inContext b.generator).queued.flatMap QueuedGroup.jobs) =
        blueprints.map blueprintJob := List.map_eq_flatMap.symm
  have hphases : (Session.inContext bootstrap).queued.flatMap QueuedGroup.jobs =
      Phase.all.map phaseJob := rfl
  have hwriting : (SnapshotWriter.generator options).queued.flatMap QueuedGroup.jobs =
      [writingJob options, summaryJob] := rfl
  unfold scheduler Scheduler.jobs
  rw [withBlueprints_eq]
  simp only [Scheduler.enlisted, List.flatMap_append, List.flatMap_assoc, hblueprints, hphases,
    hwriting, List.append_assoc]
  rfl

theorem generators_scheduler (blueprints : List Blueprint) (options : WriteOptions) :
    (scheduler blueprints options).generators =
      blueprints.map Blueprint.generatorName ++ [bootstrapName, SnapshotWriter.name] := by
  unfold scheduler
  rw [withBlueprints_eq]
  simp only [Scheduler.generators, Scheduler.enlisted, List.map_append, List.map_map,
    List.append_assoc]
  rfl

/-! ## Names of generators -/

theorem generatorName_inj {a b : Blueprint} :
    a.generatorName = b.generatorName ↔ a.name = b.name := by
  unfold Blueprint.generatorName
  exact ⟨fun h => String.append_right_inj _ |>.1 h, fun h => by rw [h]⟩

theorem generatorName_ne (blueprint : Blueprint) :
    blueprint.generatorName ≠ bootstrapName ∧ blueprint.generatorName ≠ SnapshotWriter.name := by
  have hhead : blueprint.generatorName.toList.take 3 = ['b', 'l', 'u'] := by
    simp [Blueprint.generatorName]
  constructor
  · intro h
    rw [h] at hhead
    revert hhead
    decide
  · intro h
    rw [h] at hhead
    revert hhead
    decide

theorem firsts_spec (taken : List String) (blueprints : List Blueprint) :
    ((Blueprint.firsts taken blueprints).map Blueprint.name).Nodup ∧
      ∀ b ∈ Blueprint.firsts taken blueprints, b.name ∉ taken := by
  induction blueprints generalizing taken with
  | nil => simp [Blueprint.firsts]
  | cons blueprint rest ih =>
    unfold Blueprint.firsts
    split
    · exact ih taken
    · rename_i hnew
      obtain ⟨hnodup, hnot⟩ := ih (blueprint.name :: taken)
      refine ⟨?_, ?_⟩
      · rw [List.map_cons, List.nodup_cons]
        refine ⟨fun hin => ?_, hnodup⟩
        obtain ⟨b, hb, hname⟩ := List.mem_map.1 hin
        exact hnot b hb (by simp [hname])
      · refine List.forall_mem_cons.2 ⟨hnew, fun b hb hin => ?_⟩
        exact hnot b hb (List.mem_cons_of_mem _ hin)

/-! ## Composing -/

/-- A generator whose groups are under standard priorities can be enlisted. -/
theorem enlist_of_standard {g : Generator Session} (names : List String) (h : s.order = .standard)
    (hg : g.groups.map Prod.fst = names)
    (hn : names.all PriorityOrder.standard.contains = true) : s.enlist g = .ok (s.enlisted g) := by
  refine Scheduler.enlist_of_known ?_
  unfold Scheduler.unknownPriority?
  rw [h, hg, List.find?_eq_none]
  intro name hin
  simpa using List.all_eq_true.1 hn name hin

theorem enlist_blueprint (h : s.order = .standard) (blueprint : Blueprint) :
    s.enlist (Session.inContext blueprint.generator) =
      .ok (s.enlisted (Session.inContext blueprint.generator)) :=
  enlist_of_standard ["configuring"] h rfl (by decide +kernel)

theorem enlist_bootstrap (h : s.order = .standard) :
    s.enlist (Session.inContext bootstrap) = .ok (s.enlisted (Session.inContext bootstrap)) :=
  enlist_of_standard (Phase.all.map Phase.priority) h rfl (by decide +kernel)

theorem enlist_writer (h : s.order = .standard) (options : WriteOptions) :
    s.enlist (SnapshotWriter.generator options) =
      .ok (s.enlisted (SnapshotWriter.generator options)) :=
  enlist_of_standard ["writingEntities", "postWritingEntities"] h rfl (by decide +kernel)

theorem compose_blueprint (h : s.order = .standard) {blueprint : Blueprint}
    (hn : s.isComposed blueprint.generatorName = false) :
    s.compose (Session.inContext blueprint.generator) =
      (s.enlisted (Session.inContext blueprint.generator), .ok true) :=
  Scheduler.compose_of_independent hn rfl (enlist_blueprint h blueprint)

/-- Of blueprints that load, the first of each name are composed. -/
theorem composeBlueprints_eq {files : FileTree} {paths : List String} {taken : List String}
    (hload : List.Forall₂ (fun path b => Blueprint.load files path = .ok b) paths blueprints)
    (hk : s.order = .standard)
    (ht : ∀ b : Blueprint, s.isComposed b.generatorName = true ↔ b.name ∈ taken) :
    ∃ events, Command.composeBlueprints files s paths =
        (.ok (withBlueprints s (Blueprint.firsts taken blueprints)), events) ∧
      ∀ event ∈ events, ∃ name, event = .blueprintIgnored name := by
  induction hload generalizing s taken with
  | nil => exact ⟨[], rfl, by simp⟩
  | @cons path blueprint paths rest hpath _ ih =>
    unfold Command.composeBlueprints Blueprint.firsts
    rw [hpath]
    dsimp only
    by_cases hin : blueprint.name ∈ taken
    · -- its name is taken
      have hcompose : s.compose (Session.inContext blueprint.generator) = (s, .ok false) := by
        unfold Scheduler.compose
        rw [if_pos]
        exact (ht blueprint).2 hin
      obtain ⟨events, heq, hall⟩ := ih hk ht
      rw [hcompose, if_pos hin]
      simp only [heq]
      exact ⟨_, rfl, by simpa using hall⟩
    · have hn : s.isComposed blueprint.generatorName = false :=
        Bool.eq_false_iff.2 (mt (ht blueprint).1 hin)
      have hnext : ∀ b : Blueprint,
          (s.enlisted (Session.inContext blueprint.generator)).isComposed b.generatorName = true ↔
            b.name ∈ blueprint.name :: taken := by
        intro b
        rw [Scheduler.isComposed_enlisted, ht, List.mem_cons, or_comm]
        exact or_congr_left generatorName_inj
      have hkn : (s.enlisted (Session.inContext blueprint.generator)).order = .standard := hk
      obtain ⟨events, heq, hall⟩ := ih hkn hnext
      rw [compose_blueprint hk hn, if_neg hin]
      simp only [heq]
      exact ⟨_, rfl, hall⟩

/-- The writer is composed after the preparation that it depends on. -/
theorem compose_writer (hcat : s.catalog = Session.scheduler.catalog) (hk : s.order = .standard)
    (hb : s.isComposed bootstrapName = false) (hw : s.isComposed SnapshotWriter.name = false) :
    s.compose (SnapshotWriter.generator options) =
      ((s.enlisted (Session.inContext bootstrap)).enlisted (SnapshotWriter.generator options),
        .ok true) := by
  have hlookup : s.catalog.lookup bootstrapName = some (Session.inContext bootstrap) := by
    rw [hcat]
    rfl
  have hone : Composing.one ⟨s, [SnapshotWriter.name]⟩ (Session.inContext bootstrap) =
      (s.enlisted (Session.inContext bootstrap), .ok ()) := by
    have hbn : s.isComposed (Session.inContext bootstrap).name = false := hb
    have hoff : (Session.inContext bootstrap).name ≠ SnapshotWriter.name := by decide
    have hown : (Session.inContext bootstrap).dependsOn = [] := rfl
    simp [Composing.one, Composing.push, Composing.each, hbn, hoff, hown, Scheduler.composeEach,
      enlist_bootstrap hk]
  have heach : Scheduler.composeEach s.catalog [SnapshotWriter.name] SnapshotWriter.name s
      [bootstrapName] = (s.enlisted (Session.inContext bootstrap), .ok ()) := by
    have hcons :=
      Composing.each_cons ⟨s, [SnapshotWriter.name]⟩ SnapshotWriter.name bootstrapName []
    simp only [hb, hlookup, hone] at hcons
    simpa [Composing.each, Scheduler.composeEach] using hcons
  have hwriter := enlist_writer (s := s.enlisted (Session.inContext bootstrap)) hk options
  have hname : (SnapshotWriter.generator options).name = SnapshotWriter.name := rfl
  have hdepends : (SnapshotWriter.generator options).dependsOn = [bootstrapName] := rfl
  unfold Scheduler.compose
  simp only [hname, hdepends, hw, heach, hwriter]
  rfl

theorem not_isComposed_withBlueprints {name : String}
    (h : ∀ b : Blueprint, b.generatorName ≠ name) (blueprints : List Blueprint) :
    (withBlueprints Session.scheduler blueprints).isComposed name = false := by
  rw [Bool.eq_false_iff, ne_eq, ← Scheduler.mem_generators, withBlueprints_eq]
  simpa [Scheduler.generators, Session.scheduler, Scheduler.standard] using fun b _ => h b

/-- After blueprints, the writer is composed as without them. -/
theorem compose_writer_withBlueprints (blueprints : List Blueprint) (options : WriteOptions) :
    (withBlueprints Session.scheduler blueprints).compose (SnapshotWriter.generator options) =
      (scheduler blueprints options, .ok true) :=
  compose_writer (by rw [withBlueprints_eq]) (by rw [withBlueprints_eq]; rfl)
    (not_isComposed_withBlueprints (fun b => (generatorName_ne b).1) blueprints)
    (not_isComposed_withBlueprints (fun b => (generatorName_ne b).2) blueprints)

/-! ## The order of a generation -/

/-- Composing blueprints of different names keeps a scheduler sound and its generators in layers. -/
theorem sound_withBlueprints (hs : s.Sound ∧ s.Layered) (hk : s.order = .standard)
    (hn : (blueprints.map Blueprint.name).Nodup)
    (hnew : ∀ b ∈ blueprints, s.isComposed b.generatorName = false) :
    (withBlueprints s blueprints).Sound ∧ (withBlueprints s blueprints).Layered := by
  induction blueprints generalizing s with
  | nil => exact hs
  | cons blueprint rest ih =>
    obtain ⟨hfirst, hrest⟩ := List.forall_mem_cons.1 hnew
    rw [List.map_cons, List.nodup_cons] at hn
    have he := enlist_blueprint hk blueprint
    have hnext := And.intro (hs.1.enlist hfirst he)
      (hs.2.enlist (fun _ hd => absurd hd List.not_mem_nil) he)
    refine ih hnext hk hn.2 fun b hb => ?_
    rw [Bool.eq_false_iff, ne_eq, Scheduler.isComposed_enlisted, not_or]
    refine ⟨Bool.eq_false_iff.1 (hrest b hb), fun hname => hn.1 ?_⟩
    exact (generatorName_inj.1 hname) ▸ List.mem_map_of_mem hb

/-- With everything composed, the scheduler is sound and its generators are in layers. -/
theorem sound_scheduler (hn : (blueprints.map Blueprint.name).Nodup) (options : WriteOptions) :
    (scheduler blueprints options).Sound ∧ (scheduler blueprints options).Layered := by
  have hfresh := Scheduler.standard_is_fresh (Session.inContext bootstrap)
  have hlayers : (Session.scheduler.afterAll []).Layered :=
    Scheduler.layered_afterAll hfresh (Scheduler.standard_is_honest _) (by simp)
  have hstart : Session.scheduler.Sound ∧ Session.scheduler.Layered :=
    ⟨Scheduler.sound_afterAll hfresh [], hlayers⟩
  have hblueprints := sound_withBlueprints hstart rfl hn fun b _ => rfl
  have hk : (withBlueprints Session.scheduler blueprints).order = .standard := by
    rw [withBlueprints_eq]
    rfl
  have hboot : (withBlueprints Session.scheduler blueprints).isComposed bootstrapName = false :=
    not_isComposed_withBlueprints (fun b => (generatorName_ne b).1) blueprints
  have hwriter : ((withBlueprints Session.scheduler blueprints).enlisted
      (Session.inContext bootstrap)).isComposed SnapshotWriter.name = false := by
    rw [Bool.eq_false_iff, ne_eq, Scheduler.isComposed_enlisted, not_or]
    refine ⟨Bool.eq_false_iff.1 ?_, by decide⟩
    exact not_isComposed_withBlueprints (fun b => (generatorName_ne b).2) blueprints
  have he := enlist_bootstrap hk
  have hbooted := And.intro (hblueprints.1.enlist hboot he)
    (hblueprints.2.enlist (fun _ hd => absurd hd List.not_mem_nil) he)
  have hprovides : ∀ d ∈ (SnapshotWriter.generator options).dependsOn,
      ((withBlueprints Session.scheduler blueprints).enlisted
        (Session.inContext bootstrap)).Provides d := by
    intro d hd
    rw [List.mem_singleton.1 hd]
    exact Or.inl (Scheduler.isComposed_enlisted.2 (Or.inr rfl))
  have he' := enlist_writer (s := (withBlueprints Session.scheduler blueprints).enlisted
    (Session.inContext bootstrap)) hk options
  exact ⟨hbooted.1.enlist hwriter he', hbooted.2.enlist hprovides he'⟩

/-- The priorities under which preparing and writing take place. -/
def laterPriorities : List String :=
  Phase.all.map Phase.priority ++ ["writingEntities", "postWritingEntities"]

/-- Everything is queued in the order it stands in. -/
theorem arrivedInOrder_scheduler (hn : (blueprints.map Blueprint.name).Nodup)
    (options : WriteOptions) : (scheduler blueprints options).ArrivedInOrder
      (scheduler blueprints options).generators := by
  have hgenerators := (sound_scheduler hn options).1.generators
  have hranks := Scheduler.pairwise_idxOf hgenerators
  rw [generators_scheduler] at hranks ⊢
  have hsecond : ((Session.inContext bootstrap).queued ++
      (SnapshotWriter.generator options).queued).map QueuedGroup.priority = laterPriorities := rfl
  have hqueue : (scheduler blueprints options).queue =
      blueprints.flatMap (fun b => (Session.inContext b.generator).queued) ++
        ((Session.inContext bootstrap).queued ++ (SnapshotWriter.generator options).queued) := by
    unfold scheduler
    rw [withBlueprints_eq]
    simp only [Scheduler.enlisted, List.append_assoc]
    rfl
  have horder : (scheduler blueprints options).order = .standard := by
    unfold scheduler
    rw [withBlueprints_eq]
    rfl
  unfold Scheduler.ArrivedInOrder
  rw [hqueue, horder]
  refine List.pairwise_append.2 ⟨?_, ?_, ?_⟩
  · refine List.pairwise_flatMap.2 ⟨fun b _ => List.pairwise_singleton _ _, ?_⟩
    refine (List.pairwise_map.1 (List.pairwise_append.1 hranks).1).imp ?_
    intro a b hlt first hfirst second hsecond
    rw [List.mem_singleton.1 hfirst, List.mem_singleton.1 hsecond]
    exact Or.inr ⟨rfl, Nat.le_of_lt hlt⟩
  · have hlater : laterPriorities.Pairwise fun a b =>
        PriorityOrder.standard.names.idxOf a < PriorityOrder.standard.names.idxOf b := by
      decide +kernel
    rw [← hsecond] at hlater
    exact (List.pairwise_map.1 hlater).imp Or.inl
  · have hafter : ∀ name ∈ laterPriorities, PriorityOrder.standard.names.idxOf "configuring" <
        PriorityOrder.standard.names.idxOf name := by
      decide +kernel
    intro first hfirst second hin
    obtain ⟨b, _, hb⟩ := List.mem_flatMap.1 hfirst
    rw [List.mem_singleton.1 hb]
    exact Or.inl (hafter _ (hsecond ▸ List.mem_map_of_mem hin))

/-- A run of a generation does its jobs in order. -/
theorem follows_run_scheduler (hn : (blueprints.map Blueprint.name).Nodup)
    (options : WriteOptions) :
    Follows (fun session => ((scheduler blueprints options).run session).2)
      (.forEach Job.run (jobs blueprints options)) := by
  obtain ⟨hsound, hlayered⟩ := sound_scheduler hn options
  rw [← jobs_scheduler]
  exact Scheduler.follows_run_of_arrivedInOrder hsound
    (hlayered.generatorOrder_eq hsound.generators) (arrivedInOrder_scheduler hn options)

end Generating

end EntityPipeline
