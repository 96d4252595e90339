-- Texts that are put into one folder. Where a folder is there, writing into it puts a text under a
-- name and changes nothing else; so whatever leads past these names leads where it led before.
import EntityPipeline.Proofs.Files.FileTree

namespace EntityPipeline

namespace FileTree

variable {tree before after other : FileTree} {folder place target : Place}
  {names steps : List String} {path text name : String} {content : Content}

/-! ## Writing into a folder -/

theorem at?_of_walk (h : tree.walk place steps = .ok target)
    (hat : tree.at? target = some .folder) : tree.at? place = some .folder := by
  cases steps with
  | nil =>
    obtain rfl := Except.ok.inj h
    exact hat
  | cons name rest => exact (walk_cons_eq_ok.1 h).1

/-- Folders that are there are not made. -/
theorem makeFolders_of_walk (h : tree.walk place steps = .ok target)
    (hat : tree.at? target = some .folder) :
    tree.makeFolders place steps = .ok (tree, target) := by
  induction steps generalizing place with
  | nil =>
    obtain rfl := Except.ok.inj h
    rfl
  | cons name rest ih =>
    obtain ⟨_, hname, hrest⟩ := walk_cons_eq_ok.1 h
    unfold makeFolders
    rw [hname, at?_of_walk hrest hat]
    exact ih hrest

/-- A text that is written into a folder that is there is put there, and nothing else is changed. -/
theorem write_into (hwalk : tree.walk (Place.start path) (Path.names path).dropLast = .ok folder)
    (hat : tree.at? folder = some .folder) (h : tree.write path text = .ok other) :
    tree.at? (Place.ofPath path) ≠ some .folder ∧
      other = tree.put (Place.ofPath path) (.text text) := by
  unfold write FileTree.place at h
  dsimp only at h
  split at h
  · cases h
  · rw [makeFolders_of_walk hwalk hat] at h
    dsimp only at h
    split at h
    · cases h
    · rename_i name hlast
      obtain ⟨_, hnames⟩ := List.getLast?_eq_some_iff.1 hlast
      have hplace : folder.step name = Place.ofPath path := by
        rw [walk_eq_ok hwalk, Place.ofPath, ← Place.follow_append, hnames, List.dropLast_concat]
      split at h
      · cases h
      · rw [hplace] at h
        split at h
        · cases h
        · rename_i hnot
          exact ⟨hnot, (Except.ok.inj h).symm⟩

theorem mem_namesIn : name ∈ tree.namesIn path ↔ ∃ place,
    tree.walk (Place.start path) (Path.names path) = .ok place ∧
      place ++ [name] ∈ tree.entries.map Prod.fst := by
  unfold namesIn
  cases hwalk : tree.walk (Place.start path) (Path.names path) with
  | error fault => simp
  | ok place =>
    simp only [List.mem_filterMap, Except.ok.injEq, exists_eq_left', List.mem_map]
    refine exists_congr fun entry => and_congr_right fun _ => ?_
    constructor
    · intro h
      split at h
      · rename_i hcond
        simp only [Bool.and_eq_true, beq_iff_eq] at hcond
        obtain ⟨_, hplace⟩ := List.getLast?_eq_some_iff.1 h
        rw [← hcond.1, hplace, List.dropLast_concat]
      · cases h
    · intro h
      simp [h]

/-! ## Trees that differ in one folder -/

/-- Texts were put into a folder under some names, and nothing else was changed. -/
structure Refiled (folder : Place) (names : List String) (before after : FileTree) : Prop where
  elsewhere : ∀ place, (∀ name ∈ names, place ≠ folder ++ [name]) →
    after.at? place = before.at? place
  free : ∀ name ∈ names, before.at? (folder ++ [name]) ≠ some .folder
  filled : ∀ name ∈ names, after.at? (folder ++ [name]) ≠ some .folder
  listed : ∀ place ∈ after.entries.map Prod.fst,
    place ∈ before.entries.map Prod.fst ∨ ∃ name ∈ names, place = folder ++ [name]
  kept : ∀ place ∈ before.entries.map Prod.fst, place ∈ after.entries.map Prod.fst

theorem refiled_refl (folder : Place) (tree : FileTree) : Refiled folder [] tree tree :=
  ⟨fun _ _ => rfl, List.forall_mem_nil _, List.forall_mem_nil _, fun _ => Or.inl, fun _ => id⟩

theorem mem_places_put : target ∈ (tree.put place content).entries.map Prod.fst ↔
    target ∈ tree.entries.map Prod.fst ∨ target = place := by
  unfold put
  split
  · rename_i hfound
    obtain ⟨old, hold⟩ := Option.isSome_iff_exists.1 hfound
    have hplace : place ∈ tree.entries.map Prod.fst := by
      obtain ⟨_, _, hentries, -⟩ := List.lookup_eq_some_iff.1 hold
      simp [hentries]
    rw [List.map_map]
    exact ⟨Or.inl, fun h => h.elim id fun heq => heq ▸ hplace⟩
  · simp

/-- One more text is put into the folder before the others. -/
theorem Refiled.put (h : Refiled folder names (tree.put (folder ++ [name]) (.text text)) after)
    (hfree : tree.at? (folder ++ [name]) ≠ some .folder) :
    Refiled folder (name :: names) tree after := by
  have hput : (tree.put (folder ++ [name]) (.text text)).at? (folder ++ [name]) =
      some (.text text) := at?_put_self (not_isGiven hfree)
  constructor
  · intro place hplace
    obtain ⟨hfirst, hrest⟩ := List.forall_mem_cons.1 hplace
    rw [h.elsewhere place hrest, at?_put_of_ne hfirst]
  · refine List.forall_mem_cons.2 ⟨hfree, fun other hother => ?_⟩
    by_cases heq : folder ++ [other] = folder ++ [name]
    · rwa [heq]
    · rw [← at?_put_of_ne heq]
      exact h.free other hother
  · refine List.forall_mem_cons.2 ⟨?_, h.filled⟩
    by_cases hin : name ∈ names
    · exact h.filled name hin
    · rw [h.elsewhere _ fun other hother heq => hin ?_, hput]
      · simp
      · obtain rfl : name = other := by simpa using heq
        exact hother
  · intro place hplace
    rcases h.listed place hplace with hold | ⟨other, hother, heq⟩
    · rcases mem_places_put.1 hold with hold | rfl
      · exact Or.inl hold
      · exact Or.inr ⟨name, List.mem_cons_self, rfl⟩
    · exact Or.inr ⟨other, List.mem_cons_of_mem _ hother, heq⟩
  · exact fun place hplace => h.kept place (mem_places_put.2 (Or.inl hplace))

namespace Refiled

variable (h : Refiled folder names before after)
include h

theorem at?_folder_iff : after.at? place = some .folder ↔ before.at? place = some .folder := by
  by_cases hin : ∃ name ∈ names, place = folder ++ [name]
  · obtain ⟨name, hname, rfl⟩ := hin
    exact iff_of_false (h.filled name hname) (h.free name hname)
  · rw [h.elsewhere place fun name hname heq => hin ⟨name, hname, heq⟩]

theorem walk_eq_ok_iff :
    after.walk place steps = .ok target ↔ before.walk place steps = .ok target :=
  ⟨KeepsFolders.walk fun _ => h.at?_folder_iff.1, KeepsFolders.walk fun _ => h.at?_folder_iff.2⟩

/-- What is found elsewhere is found as before. -/
theorem find_eq_ok_iff (hplace : ∀ name ∈ names, Place.ofPath path ≠ folder ++ [name]) :
    after.find path = .ok content ↔ before.find path = .ok content := by
  rw [find_eq_ok, find_eq_ok, h.walk_eq_ok_iff, h.elsewhere _ hplace]

theorem read_eq_ok_iff (hplace : ∀ name ∈ names, Place.ofPath path ≠ folder ++ [name]) :
    after.read path = .ok text ↔ before.read path = .ok text := by
  rw [read_eq_ok_iff_find, read_eq_ok_iff_find, h.find_eq_ok_iff hplace]

theorem contains_eq (hplace : ∀ name ∈ names, Place.ofPath path ≠ folder ++ [name]) :
    after.contains path = before.contains path := by
  unfold contains
  have hiff : ∀ content, after.find path = .ok content ↔ before.find path = .ok content :=
    fun _ => h.find_eq_ok_iff hplace
  cases hafter : after.find path with
  | ok content => rw [(hiff content).1 hafter]
  | error fault =>
    cases hbefore : before.find path with
    | ok content =>
      rw [(hiff content).2 hbefore] at hafter
      cases hafter
    | error fault => rfl

theorem isFolder_iff : after.isFolder path = true ↔ before.isFolder path = true := by
  rw [isFolder_iff_find, isFolder_iff_find, find_eq_ok, find_eq_ok, h.walk_eq_ok_iff,
    h.at?_folder_iff]

/-- Names that stood in a folder still stand there. -/
theorem namesIn_subset : before.namesIn path ⊆ after.namesIn path := by
  intro name hin
  obtain ⟨place, hwalk, hplace⟩ := FileTree.mem_namesIn.1 hin
  exact FileTree.mem_namesIn.2 ⟨place, h.walk_eq_ok_iff.2 hwalk, h.kept _ hplace⟩

/-- A name that stands in a folder stood there before or was put there. -/
theorem mem_namesIn (hin : name ∈ after.namesIn path) :
    name ∈ before.namesIn path ∨ name ∈ names := by
  obtain ⟨place, hwalk, hplace⟩ := FileTree.mem_namesIn.1 hin
  rcases h.listed _ hplace with hold | ⟨other, hother, heq⟩
  · exact Or.inl (FileTree.mem_namesIn.2 ⟨place, h.walk_eq_ok_iff.1 hwalk, hold⟩)
  · obtain ⟨-, hname⟩ := List.append_inj' heq rfl
    obtain rfl : name = other := by simpa using hname
    exact Or.inr hother

end Refiled

end FileTree

end EntityPipeline
