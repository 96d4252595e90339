-- Where snapshots are written. A name without a slash is that of a file in the folder of the
-- snapshots. Any other name is a path of its own, and nothing keeps it inside that folder: a file
-- that stands where it leads is written over.
import EntityPipeline.Proofs.Project.Refiling
import EntityPipeline.Proofs.Project.TwoModes

namespace EntityPipeline

/-! ## Where names lead -/

namespace Snapshot

variable {directory name : String}

theorem home_eq (directory : String) :
    home directory = Place.ofFolder directory ++ [folder] := by
  rw [← ofPath_folder, Place.ofPath_join (by decide) (by decide), Place.step_of_length (by decide)]

/-- One step up from the folder of the snapshots is the project. -/
theorem step_up_home (directory : String) :
    (home directory).step ".." = Place.ofFolder directory := by
  rw [home_eq]
  have hroot : (Place.ofFolder directory ++ [folder] == [Place.root]) = false := by
    rw [beq_eq_false_iff_ne]
    intro heq
    have hlast := congrArg List.getLast? heq
    rw [List.getLast?_concat] at hlast
    exact absurd hlast (by decide)
  have hup : (Place.ofFolder directory ++ [folder]).all (· == "..") = false := by
    rw [List.all_append, Bool.and_eq_false_iff]
    exact Or.inr (by decide)
  unfold Place.step
  rw [if_neg (by decide), if_pos (by decide), hroot, hup, if_neg Bool.false_ne_true,
    if_neg Bool.false_ne_true, List.dropLast_concat]

/-- A snapshot has a path from the root just when the name of its entity begins with a slash. -/
theorem head?_file_iff :
    (name ++ ".json").toList.head? = some '/' ↔ name.toList.head? = some '/' := by
  rw [String.toList_append, List.head?_append]
  cases name.toList with
  | nil => decide
  | cons letter rest => rfl

/-- The place of the snapshot of an entity, by the name of the entity. -/
def placeOf (directory name : String) : Place := Place.ofPath (path directory name)

/-- Where the snapshot of a name is, whatever the name. -/
structure NamesLead (directory : String) : Prop where
  plain : ∀ name, '/' ∉ name.toList →
    placeOf directory name = home directory ++ [name ++ ".json"]
  /-- A name with slashes leads on from the folder as a path does. -/
  onward : ∀ name, name.toList.head? ≠ some '/' →
    placeOf directory name = (home directory).follow (Path.names (name ++ ".json"))
  /-- A name that begins with a slash leads on from the root, whatever the project. -/
  fromRoot : ∀ name, name.toList.head? = some '/' →
    placeOf directory name = Place.follow [Place.root] (Path.names (name ++ ".json"))
  /-- With a step up, a name leads to a file of the project beside the folder. -/
  beside : ∀ name, '/' ∉ name.toList →
    placeOf directory ("../" ++ name) = Place.ofFolder directory ++ [name ++ ".json"]

theorem placeOf_of_relative (h : name.toList.head? ≠ some '/') :
    placeOf directory name = (home directory).follow (Path.names (name ++ ".json")) := by
  have hpath : path directory name = Path.join directory folder ++ "/" ++ (name ++ ".json") :=
    Path.join_eq (getLast?_folder directory) (by decide) (mt head?_file_iff.1 h)
  rw [placeOf, hpath, Place.ofPath_below (folder_ne_empty directory) (file_ne_empty name)]
  rfl

theorem placeOf_of_absolute (h : name.toList.head? = some '/') :
    placeOf directory name = Place.follow [Place.root] (Path.names (name ++ ".json")) := by
  have hhead := head?_file_iff.2 h
  have hpath : path directory name = name ++ ".json" := by
    unfold path Path.join
    rw [if_pos (by simpa using hhead)]
  have hstart : Place.start (name ++ ".json") = [Place.root] := by
    unfold Place.start Path.isAbsolute
    rw [if_pos (by simpa using hhead)]
  rw [placeOf, hpath, Place.ofPath, hstart]

theorem placeOf_beside (h : '/' ∉ name.toList) :
    placeOf directory ("../" ++ name) = Place.ofFolder directory ++ [name ++ ".json"] := by
  have hnames : Path.names ("../" ++ name ++ ".json") = [".."] ++ [name ++ ".json"] := by
    have htext : "../" ++ name ++ ".json" = ".." ++ "/" ++ (name ++ ".json") := by
      rw [String.append_assoc]
      rfl
    rw [htext, Place.names_below ".." (file_ne_empty name),
      Path.names_of_not_mem (file_ne_empty name) (slash_not_mem_file h)]
    rfl
  rw [placeOf_of_relative (by simp [String.toList_append]), hnames]
  show ((home directory).step "..").step (name ++ ".json") = _
  rw [step_up_home, Place.step_of_length (length_file name)]

theorem namesLead (directory : String) : NamesLead directory :=
  ⟨fun _ => ofPath_path, fun _ => placeOf_of_relative, fun _ => placeOf_of_absolute,
    fun _ => placeOf_beside⟩

end Snapshot

/-! ## What is written -/

namespace SnapshotWriter

open Snapshot

variable {options : WriteOptions} {directory : String} {entity : Entity} {entities : List Entity}
  {session : Session} {before after : FileTree} {target : Place}

/-- Snapshots of entities are written one after another. -/
inductive Writes (directory : String) : FileTree → List Entity → FileTree → Prop
  | nil {files : FileTree} : Writes directory files [] files
  | cons {before middle after : FileTree} {entity : Entity} {rest : List Entity} :
      before.write (Snapshot.path directory entity.name) (render entity.definition) = .ok middle →
      Writes directory middle rest after → Writes directory before (entity :: rest) after

/-- A place that the path of an entity's snapshot leads through. -/
def OnTheWay (directory : String) (entity : Entity) (place : Place) : Prop :=
  ∃ front, front <+: (Path.names (Snapshot.path directory entity.name)).dropLast ∧
    place = (Place.start (Snapshot.path directory entity.name)).follow front

/-- What becomes of a place where no snapshot is written: nothing, unless it becomes a folder on the
way to one. -/
def Spared (directory : String) (entities : List Entity) (before after : FileTree)
    (place : Place) : Prop :=
  after.at? place = before.at? place ∨
    before.at? place = none ∧ after.at? place = some .folder ∧
      ∃ entity ∈ entities, OnTheWay directory entity place

/-- Writing a snapshot makes folders on its way and puts its text in its place. -/
theorem puts_of_write
    (h : before.write (Snapshot.path directory entity.name) (render entity.definition) =
      .ok after) :
    after.at? (placeOf directory entity.name) = some (.text (render entity.definition)) ∧
      ∀ place, place ≠ placeOf directory entity.name →
        Spared directory [entity] before after place := by
  obtain ⟨middle, hadds, -, -, -, hnot, rfl⟩ := FileTree.write_eq_ok h
  refine ⟨FileTree.at?_put_self (FileTree.not_isGiven hnot), fun place hne => ?_⟩
  have hput : (middle.put (Place.ofPath (Snapshot.path directory entity.name))
      (.text (render entity.definition))).at? place = middle.at? place :=
    FileTree.at?_put_of_ne hne
  unfold Spared
  rw [hput]
  exact (hadds place).imp_right fun ⟨hnone, hfolder, hway⟩ =>
    ⟨hnone, hfolder, entity, List.mem_singleton_self entity, hway⟩

theorem Spared.trans {middle : FileTree} {rest : List Entity}
    (h : Spared directory [entity] before middle target)
    (h' : Spared directory rest middle after target) :
    Spared directory (entity :: rest) before after target := by
  rcases h with hsame | ⟨hnone, hfolder, other, hother, hway⟩
  · rcases h' with hsame' | ⟨hnone, hfolder, other, hother, hway⟩
    · exact Or.inl (hsame'.trans hsame)
    · exact Or.inr ⟨hsame ▸ hnone, hfolder, other, List.mem_cons_of_mem _ hother, hway⟩
  · obtain rfl := List.mem_singleton.1 hother
    rcases h' with hsame' | ⟨hnone', -, -⟩
    · exact Or.inr ⟨hnone, hsame'.trans hfolder, other, List.mem_cons_self, hway⟩
    · rw [hnone'] at hfolder
      cases hfolder

namespace Writes

theorem spared (h : Writes directory before entities after)
    (hne : ∀ entity ∈ entities, target ≠ placeOf directory entity.name) :
    Spared directory entities before after target := by
  induction h with
  | nil => exact Or.inl rfl
  | cons hwrite _ ih =>
    obtain ⟨hfirst, hrest⟩ := List.forall_mem_cons.1 hne
    exact ((puts_of_write hwrite).2 _ hfirst).trans (ih hrest)

/-- Where a snapshot is written, the last one that is written there stands. -/
theorem stands (h : Writes directory before entities after) (hentity : entity ∈ entities) :
    ∃ last ∈ entities, placeOf directory last.name = placeOf directory entity.name ∧
      after.at? (placeOf directory entity.name) = some (.text (render last.definition)) := by
  induction h generalizing entity with
  | nil => cases hentity
  | @cons before middle after first rest hwrite hwrites ih =>
    by_cases hlater : ∃ other ∈ rest,
        placeOf directory other.name = placeOf directory entity.name
    · obtain ⟨other, hother, hplace⟩ := hlater
      obtain ⟨last, hlast, hsame, hat⟩ := ih hother
      exact ⟨last, List.mem_cons_of_mem _ hlast, hsame.trans hplace, hplace ▸ hat⟩
    · -- nothing is written there any more, and what was written is no folder
      have hne : ∀ other ∈ rest, placeOf directory entity.name ≠ placeOf directory other.name :=
        fun other hother hplace => hlater ⟨other, hother, hplace.symm⟩
      obtain rfl : entity = first := by
        rcases List.mem_cons.1 hentity with rfl | hrest
        · rfl
        · exact absurd ⟨entity, hrest, rfl⟩ hlater
      obtain ⟨hput, -⟩ := puts_of_write hwrite
      refine ⟨entity, List.mem_cons_self, rfl, ?_⟩
      rcases hwrites.spared hne with hsame | ⟨hnone, -⟩
      · rw [hsame, hput]
      · rw [hput] at hnone
        cases hnone

end Writes

/-! ## What a run writes -/

/-- Taking care of one snapshot fails and changes nothing, records it as unchanged, or writes it. -/
theorem writeOne_cases (options : WriteOptions) (entity : Entity) (session : Session) :
    (∃ failure, (writeOne options entity session).result = .error failure ∧
      (writeOne options entity session).state = session) ∨
    ∃ status files, (writeOne options entity session).result =
        .ok ⟨Snapshot.path options.directory entity.name, status⟩ ∧
      (writeOne options entity session).state = recording { session with files }
        [⟨Snapshot.path options.directory entity.name, status⟩] ∧
      (status = .unchanged ∧ files = session.files ∨
        status ≠ .unchanged ∧ options.check = false ∧
          session.files.write (Snapshot.path options.directory entity.name)
            (render entity.definition) = .ok files) := by
  cases hverdict : verdict session.files (Snapshot.path options.directory entity.name)
      entity.definition with
  | error failure => exact Or.inl ⟨failure, writeOne_unjudged options hverdict⟩
  | ok found =>
    by_cases hfound : found = .unchanged
    · subst hfound
      rw [writeOne_of_passesAt (passesAt_iff_verdict.2 hverdict)]
      exact Or.inr ⟨_, session.files, rfl, rfl, Or.inl ⟨rfl, rfl⟩⟩
    cases hcheck : options.check with
    | true => exact Or.inl ⟨_, writeOne_checking options hcheck hfound hverdict⟩
    | false =>
      have hwriting := writeOne_writing options hcheck hfound hverdict
      cases hwrite : session.files.write (Snapshot.path options.directory entity.name)
          (render entity.definition) with
      | error fault =>
        rw [hwrite] at hwriting
        exact Or.inl ⟨_, hwriting⟩
      | ok files =>
        rw [hwrite] at hwriting
        exact Or.inr ⟨found, files, hwriting.1, hwriting.2, Or.inr ⟨hfound, rfl, rfl⟩⟩

/-- A run over entities goes on with the files and records that each of them leaves. -/
theorem state_writeEach {record : OutputRecord}
    (h : (writeOne options entity session).result = .ok record) :
    (writeEach options (entity :: entities) session).state =
      (writeEach options entities (writeOne options entity session).state).state := by
  rw [writeEach, Action.andThen_of_ok h]
  cases hrest : (writeEach options entities (writeOne options entity session).state).result with
  | error failure => rw [Action.andThen_of_error hrest]
  | ok records =>
    rw [Action.andThen_of_ok hrest]
    rfl

/-- A run over entities writes the snapshots of some of them in order, and its records tell of
which. -/
structure WritesSome (options : WriteOptions) (session after : Session)
    (entities written : List Entity) : Prop where
  chosen : written.Sublist entities
  checked : options.check = true → written = []
  writes : Writes options.directory session.files written after.files
  told : ∃ added, after.context.outputs = session.context.outputs ++ added ∧
    (added.filter (·.status != .unchanged)).map OutputRecord.path =
      written.map fun entity => Snapshot.path options.directory entity.name

theorem writesSome_writeEach (options : WriteOptions) (entities : List Entity)
    (session : Session) : ∃ written,
      WritesSome options session (writeEach options entities session).state entities written := by
  induction entities generalizing session with
  | nil => exact ⟨[], .slnil, fun _ => rfl, .nil, [], (List.append_nil _).symm, rfl⟩
  | cons entity rest ih =>
    rcases writeOne_cases options entity session with
      ⟨failure, hresult, hstate⟩ | ⟨status, files, hresult, hstate, hwritten⟩
    · have hrun : (writeEach options (entity :: rest) session).state = session := by
        rw [writeEach, Action.andThen_of_error hresult, hstate]
      rw [hrun]
      exact ⟨[], List.nil_sublist _, fun _ => rfl, .nil, [], (List.append_nil _).symm, rfl⟩
    · rw [state_writeEach hresult, hstate]
      obtain ⟨written, hchosen, hchecked, hwrites, added, houtputs, htold⟩ :=
        ih (recording { session with files }
          [⟨Snapshot.path options.directory entity.name, status⟩])
      have hadded : session.context.outputs ++
          [⟨Snapshot.path options.directory entity.name, status⟩] ++ added =
        session.context.outputs ++
          ⟨Snapshot.path options.directory entity.name, status⟩ :: added := by
        rw [List.append_assoc, List.singleton_append]
      rcases hwritten with ⟨rfl, rfl⟩ | ⟨hne, hcheck, hwrite⟩
      · exact ⟨written, hchosen.cons entity, hchecked, hwrites, _, houtputs.trans hadded, htold⟩
      · refine ⟨entity :: written, hchosen.cons_cons entity, fun h => ?_, .cons hwrite hwrites, _,
          houtputs.trans hadded, ?_⟩
        · rw [hcheck] at h
          cases h
        · rw [List.filter_cons_of_pos (by simpa using hne), List.map_cons, List.map_cons, htold]

/-! ## Inside the folder and out -/

/-- The snapshot of a name is a file in the folder of the snapshots. -/
def StaysHome (directory name : String) : Prop :=
  ∃ file, placeOf directory name = home directory ++ [file]

/-- A run leaves everything alone but files in the folder of the snapshots; folders may be made. -/
def KeepsHome (options : WriteOptions) (session : Session) : Prop := ∀ place,
  (writeSnapshots options session).state.files.at? place = session.files.at? place ∨
    (writeSnapshots options session).state.files.at? place = some .folder ∨
    ∃ file, place = home options.directory ++ [file]

/-- What is true of a run and of the entities whose snapshots it writes. -/
structure WritesWhereNamesLead (options : WriteOptions) (session : Session)
    (written : List Entity) : Prop where
  writesSome : WritesSome options session (writeSnapshots options session).state
    (writtenEntities session.context.entities) written
  /-- Where one of their names leads, there is a snapshot in the end. -/
  stands : ∀ entity ∈ written, ∃ last ∈ written,
    placeOf options.directory last.name = placeOf options.directory entity.name ∧
      (writeSnapshots options session).state.files.at? (placeOf options.directory entity.name) =
        some (.text (render last.definition))
  /-- Where none of their names leads, there is at most a new folder. -/
  spared : ∀ place, (∀ entity ∈ written, place ≠ placeOf options.directory entity.name) →
    Spared options.directory written session.files (writeSnapshots options session).state.files
      place
  home : (∀ entity ∈ written, StaysHome options.directory entity.name) → KeepsHome options session

/-- A snapshot stands where the name of its entity leads, inside the folder of the snapshots or
outside, and no run that writes or checks touches any other file. Whatever the project, each name
without a slash leads into the folder; a run stays in it if all the names do. -/
theorem snapshots_are_written_where_names_lead (options : WriteOptions) (session : Session) :
    NamesLead options.directory ∧ ∃ written, WritesWhereNamesLead options session written := by
  refine ⟨namesLead options.directory, ?_⟩
  obtain ⟨written, hsome⟩ :=
    writesSome_writeEach options (writtenEntities session.context.entities) session
  have hwrites := hsome.writes
  refine ⟨written, hsome, fun _ => hwrites.stands, fun _ => hwrites.spared, fun hstay place => ?_⟩
  by_cases hplace : ∃ entity ∈ written, place = placeOf options.directory entity.name
  · obtain ⟨entity, hentity, rfl⟩ := hplace
    exact Or.inr (Or.inr (hstay entity hentity))
  · rcases hwrites.spared fun entity hentity heq => hplace ⟨entity, hentity, heq⟩ with
      hsame | ⟨-, hfolder, -⟩
    · exact Or.inl hsame
    · exact Or.inr (Or.inl hfolder)

/-- The text of a file beside the folder of the snapshots. -/
def packageText : String := "\x7b\"name\": \"shop\", \"version\": \"1.0.0\"\x7d"

/-- An entity with a step up in its name, prepared in a project that has such a file. -/
def packageSession : Session where
  context := (prepareAll (.ofDefinitions {} [{ name := "../package" }])).state
  files := ⟨[([".jhipster"], .folder), (["package.json"], .text packageText)]⟩

/-- The file beside the folder is written over, and the run succeeds. -/
theorem a_name_leads_over_a_file_beside_the_folder :
    (writeSnapshots {} packageSession).result.toOption =
      some [⟨"./.jhipster/../package.json", .updated⟩] ∧
    packageSession.files.at? ["package.json"] = some (.text packageText) ∧
    (writeSnapshots {} packageSession).state.files.at? ["package.json"] =
      some (.text (render { name := "../package" })) ∧
    ¬KeepsHome {} packageSession := by
  have hbefore : packageSession.files.at? ["package.json"] = some (.text packageText) := rfl
  have hafter : (writeSnapshots {} packageSession).state.files.at? ["package.json"] =
      some (.text (render { name := "../package" })) := by decide +kernel
  refine ⟨by decide +kernel, hbefore, hafter, fun hkeeps => ?_⟩
  rcases hkeeps ["package.json"] with hsame | hfolder | ⟨file, hfile⟩
  · rw [hbefore, hafter] at hsame
    exact absurd hsame (by decide +kernel)
  · rw [hafter] at hfolder
    cases hfolder
  · have hlength := congrArg List.length hfile
    have hhome : home "." = [".jhipster"] := by decide
    rw [hhome] at hlength
    cases hlength

end SnapshotWriter

end EntityPipeline
