-- What a run leaves among the files. Written snapshots stand in one folder, each holding the
-- definition of its entity; elsewhere nothing is changed. Every snapshot, written or left, passes
-- for its definition afterwards.
import EntityPipeline.Proofs.Definition.Agreement
import EntityPipeline.Proofs.Files.Folders
import EntityPipeline.Proofs.Project.Checking

namespace EntityPipeline

open Json

/-! ## Snapshots pass for their definitions -/

namespace Snapshot

variable {definition : EntityDefinition} {directory name : String}

/-- What is written for a definition passes for it. -/
theorem passesFor_render (h : definition.IsStorable) :
    passesFor (render definition) definition = true := by
  unfold passesFor
  rw [h.parse_render]
  exact sameEntity_refl (isSorted_sorted _)

/-! ## The folder of the snapshots -/

/-- The place of the folder that holds the snapshots of a project. -/
def home (directory : String) : Place := Place.ofFolder (Path.join directory folder)

theorem names_folder (directory : String) : Path.names (Path.join directory folder) =
    ((Text.piecesAt '/' (Path.join directory folder).toList).filter (· != [])).map
      String.ofList := by
  unfold Path.names
  rw [getLast?_folder, if_neg (by decide)]

theorem ofPath_folder (directory : String) :
    Place.ofPath (Path.join directory folder) = home directory := by
  unfold Place.ofPath home Place.ofFolder
  rw [names_folder]

/-- The path of a snapshot leads through the folder. -/
theorem walk_folder {files : FileTree} (hname : '/' ∉ name.toList)
    (h : files.isFolder (Path.join directory folder) = true) :
    files.walk (Place.start (path directory name)) (Path.names (path directory name)).dropLast =
        .ok (home directory) ∧ files.at? (home directory) = some .folder := by
  obtain ⟨-, -, hwalk, hat⟩ := FileTree.find_eq_ok.1 (FileTree.isFolder_iff_find.1 h)
  rw [ofPath_folder] at hwalk hat
  refine ⟨?_, hat⟩
  rw [path_eq hname, Place.start_below _ (folder_ne_empty directory),
    Place.names_below _ (file_ne_empty name),
    Path.names_of_not_mem (file_ne_empty name) (slash_not_mem_file hname), List.dropLast_concat,
    ← names_folder]
  exact hwalk

end Snapshot

namespace SnapshotWriter

open Snapshot

variable {path directory : String} {definition : EntityDefinition} {entity : Entity}
  {entities : List Entity} {before after : FileTree} {found : OutputStatus}
  {records : List OutputRecord}

/-- The snapshots of different entities stand in different places. -/
theorem places_ne (hname : ∀ other ∈ entity :: entities, '/' ∉ other.name.toList)
    (hn : ((entity :: entities).map Entity.name).Nodup) : ∀ other ∈ entities,
      Place.ofPath (Snapshot.path directory entity.name) ≠
        Place.ofPath (Snapshot.path directory other.name) := by
  intro other hother hplace
  have hsame := path_injective (hname entity List.mem_cons_self)
    (hname other (List.mem_cons_of_mem _ hother)) hplace
  exact (List.nodup_cons.1 hn).1 (hsame ▸ List.mem_map_of_mem hother)

/-! ## All snapshots pass in the end -/

theorem Settles.passesAt (hstorable : definition.IsStorable)
    (h : Settles path definition before found after) : PassesAt after path definition := by
  cases h with
  | leaving hread hpasses => exact ⟨_, hread, hpasses⟩
  | writing _ _ hwrite => exact ⟨_, FileTree.read_write hwrite, passesFor_render hstorable⟩

theorem PassesAt.elsewhere (h : PassesAt before path definition)
    (hkept : ∀ text, before.read path = .ok text → after.read path = .ok text) :
    PassesAt after path definition :=
  h.imp fun text h => ⟨hkept text h.1, h.2⟩

/-- Once snapshots are taken care of, all of them pass. -/
theorem SettlesAll.allPass (h : SettlesAll directory before entities records after)
    (hn : (entities.map Entity.name).Nodup) (hname : ∀ entity ∈ entities, '/' ∉ entity.name.toList)
    (hstorable : ∀ entity ∈ entities, entity.definition.IsStorable) :
    AllPass directory after entities := by
  induction h with
  | nil => exact List.forall_mem_nil _
  | cons hpath hsettles hall ih =>
    obtain ⟨hfirst, hrest⟩ := List.forall_mem_cons.1 hstorable
    have hpasses := hpath ▸ hsettles.passesAt hfirst
    refine List.forall_mem_cons.2 ⟨hpasses.elsewhere fun _ => ?_, ?_⟩
    · exact hall.read_elsewhere (places_ne hname hn)
    · exact ih (List.nodup_cons.1 hn).2 (List.forall_mem_cons.1 hname).2 hrest

/-! ## What is written -/

/-- Snapshots of entities were written into the folder of a project, and nothing else changed. -/
structure Rewrites (directory : String) (entities : List Entity) (files : List String)
    (before after : FileTree) : Prop where
  refiled : FileTree.Refiled (home directory) files before after
  holds : ∀ file ∈ files, ∃ entity ∈ entities, file = entity.name ++ ".json" ∧
    after.read (Snapshot.path directory entity.name) = .ok (render entity.definition)

theorem SettlesAll.rewrites (h : SettlesAll directory before entities records after)
    (hn : (entities.map Entity.name).Nodup) (hname : ∀ entity ∈ entities, '/' ∉ entity.name.toList)
    (hfolder : before.isFolder (Path.join directory folder) = true) :
    ∃ files, Rewrites directory entities files before after := by
  induction h with
  | nil => exact ⟨[], FileTree.refiled_refl _ _, List.forall_mem_nil _⟩
  | @cons before middle after entity record rest records hpath hsettles hall ih =>
    obtain ⟨hfirst, hrest⟩ := List.forall_mem_cons.1 hname
    have hkept : ∀ text, middle.read (Snapshot.path directory entity.name) = .ok text →
        after.read (Snapshot.path directory entity.name) = .ok text :=
      fun _ => hall.read_elsewhere (places_ne hname hn)
    rw [hpath] at hsettles
    have hothers : ∀ files, Rewrites directory rest files middle after → ∀ file ∈ files,
        ∃ other ∈ entity :: rest, file = other.name ++ ".json" ∧
          after.read (Snapshot.path directory other.name) = .ok (render other.definition) :=
      fun files hrewrites file hfile => (hrewrites.holds file hfile).imp fun _ h =>
        ⟨List.mem_cons_of_mem _ h.1, h.2⟩
    generalize hstatus : record.status = status at hsettles
    cases hsettles with
    | leaving =>
      obtain ⟨files, hrewrites⟩ := ih (List.nodup_cons.1 hn).2 hrest hfolder
      exact ⟨files, hrewrites.refiled, hothers files hrewrites⟩
    | writing _ _ hwrite =>
      obtain ⟨hwalk, hat⟩ := walk_folder hfirst hfolder
      obtain ⟨hfree, hput⟩ := FileTree.write_into hwalk hat hwrite
      rw [ofPath_path hfirst] at hfree hput
      have hnone : FileTree.Refiled (home directory) [] (before.put
          (home directory ++ [entity.name ++ ".json"]) (.text (render entity.definition))) middle :=
        hput ▸ FileTree.refiled_refl _ _
      have hone : FileTree.Refiled (home directory) [entity.name ++ ".json"] before middle :=
        hnone.put hfree
      obtain ⟨files, hrewrites⟩ := ih (List.nodup_cons.1 hn).2 hrest (hone.isFolder_iff.2 hfolder)
      refine ⟨(entity.name ++ ".json") :: files, .put (hput ▸ hrewrites.refiled) hfree,
        List.forall_mem_cons.2 ⟨?_, hothers files hrewrites⟩⟩
      exact ⟨entity, List.mem_cons_self, rfl, hkept _ (FileTree.read_write hwrite)⟩

/-- Whether snapshots are written or only checked, in the end no file but snapshots has changed, and
all snapshots pass. -/
theorem rewrites_of_writeEach {options : WriteOptions} {session : Session}
    (h : (writeEach options entities session).result = .ok records)
    (hn : (entities.map Entity.name).Nodup) (hname : ∀ entity ∈ entities, '/' ∉ entity.name.toList)
    (hstorable : ∀ entity ∈ entities, entity.definition.IsStorable)
    (hfolder : session.files.isFolder (Path.join options.directory folder) = true) :
    (∃ files, Rewrites options.directory entities files session.files
        (writeEach options entities session).state.files) ∧
      AllPass options.directory (writeEach options entities session).state.files entities := by
  cases hcheck : options.check with
  | false =>
    have hall := settlesAll_of_writeEach hcheck h
    exact ⟨hall.rewrites hn hname hfolder, hall.allPass hn hname hstorable⟩
  | true =>
    have hpass := allPass_of_check hcheck h
    have hfiles : (writeEach options entities session).state.files = session.files := by
      rw [writeEach_of_allPass hpass]
      rfl
    rw [hfiles]
    exact ⟨⟨[], FileTree.refiled_refl _ _, List.forall_mem_nil _⟩, hpass⟩

end SnapshotWriter

end EntityPipeline
