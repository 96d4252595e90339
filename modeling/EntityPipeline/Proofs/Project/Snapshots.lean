-- What stands in the snapshots of a project once they are written. A snapshot that is written is read
-- as the definition of its entity; one that was judged unchanged is left with the text it had, even
-- where that text is read as another definition.
import EntityPipeline.Project.SnapshotWriter
import EntityPipeline.Proofs.Definition.Snapshots
import EntityPipeline.Proofs.Files.FileTree

namespace EntityPipeline

/-! ## Where snapshots stand -/

namespace Snapshot

variable {directory name other : String}

theorem getLast?_folder (directory : String) :
    (Path.join directory folder).toList.getLast? = some 'r' := by
  unfold Path.join folder
  split
  · rfl
  · split <;> simp [String.toList_append, List.getLast?_append]

theorem folder_ne_empty (directory : String) : Path.join directory folder ≠ "" := by
  intro hempty
  have hfolder := getLast?_folder directory
  rw [hempty] at hfolder
  cases hfolder

theorem slash_not_mem_file (h : '/' ∉ name.toList) : '/' ∉ (name ++ ".json").toList := by
  simp [String.toList_append, h]

theorem file_ne_empty (name : String) : name ++ ".json" ≠ "" := by simp

theorem path_eq (h : '/' ∉ name.toList) :
    path directory name = Path.join directory folder ++ "/" ++ (name ++ ".json") :=
  Path.join_eq (getLast?_folder directory) (by decide)
    fun hhead => slash_not_mem_file h (List.mem_of_head? hhead)

theorem length_file (name : String) : 2 < (name ++ ".json").length := by
  rw [String.length_append]
  have hlength : ".json".length = 5 := rfl
  omega

/-- A snapshot stands in the folder of the project, in a file of its own. -/
theorem ofPath_path (h : '/' ∉ name.toList) : Place.ofPath (path directory name) =
    Place.ofFolder (Path.join directory folder) ++ [name ++ ".json"] := by
  rw [path_eq h, Place.ofPath_below (folder_ne_empty directory) (file_ne_empty name),
    Path.names_of_not_mem (file_ne_empty name) (slash_not_mem_file h)]
  exact Place.step_of_length (length_file name)

theorem path_injective (h : '/' ∉ name.toList) (h' : '/' ∉ other.toList)
    (hplace : Place.ofPath (path directory name) = Place.ofPath (path directory other)) :
    name = other := by
  rw [ofPath_path h, ofPath_path h', List.append_cancel_left_eq] at hplace
  have hfile : name ++ ".json" = other ++ ".json" := (List.cons.inj hplace).1
  have hletters := congrArg String.toList hfile
  rw [String.toList_append, String.toList_append, List.append_cancel_right_eq] at hletters
  exact String.toList_inj.1 hletters

/-! ## What snapshots tell -/

/-- The text in a file is read as a definition. -/
def Holds (files : FileTree) (path : String) (definition : EntityDefinition) : Prop :=
  ∃ text, files.read path = .ok text ∧ read text = .ok definition

/-- Whether a text passes for the snapshot of a definition, so that it is left as it is. -/
def passesFor (text : String) (definition : EntityDefinition) : Bool :=
  match Json.parse text with
  | .ok existing => existing.sameEntity (canonicalValue definition)
  | .error _ => false

/-- A written snapshot holds its definition, whatever becomes of the other files. -/
theorem holds_of_read {files : FileTree} {path : String} {definition : EntityDefinition}
    (h : definition.IsStorable) (hread : files.read path = .ok (render definition)) :
    Holds files path definition :=
  ⟨_, hread, h.read_render⟩

end Snapshot

/-! ## Taking care of snapshots -/

namespace Action

variable {σ α β : Type} {first : Action σ α} {second : α → Action σ β} {s : σ} {b : β}

theorem andThen_eq_ok (h : (andThen first second s).result = .ok b) :
    ∃ a, (first s).result = .ok a ∧ (second a (first s).state).result = .ok b ∧
      (andThen first second s).state = (second a (first s).state).state := by
  unfold andThen at h ⊢
  dsimp only at h ⊢
  split at h
  · cases h
  · rename_i a ha
    exact ⟨a, ha, h, rfl⟩

end Action

namespace SnapshotWriter

open Snapshot

variable {options : WriteOptions} {path : String} {definition : EntityDefinition} {entity : Entity}
  {session : Session} {before middle after : FileTree} {record : OutputRecord}

/-- What becomes of one snapshot among the files: it passes for the definition and is left, or it
does not and is written anew. -/
inductive Settles (path : String) (definition : EntityDefinition) (before : FileTree) :
    OutputStatus → FileTree → Prop
  | leaving {text : String} : before.read path = .ok text → passesFor text definition = true →
      Settles path definition before .unchanged before
  | writing {status : OutputStatus} {after : FileTree} : status ≠ .unchanged →
      (∀ text, before.read path = .ok text → passesFor text definition = false) →
      before.write path (render definition) = .ok after →
      Settles path definition before status after

theorem status_state : (status path definition session).state = session := by
  unfold status
  split
  · rfl
  · rfl
  · split
    · rfl
    · split <;> rfl

theorem status_eq_ok {found : OutputStatus}
    (h : (status path definition session).result = .ok found) :
    (found = .unchanged ∧ ∃ text, session.files.read path = .ok text ∧
      passesFor text definition = true) ∨
    found ≠ .unchanged ∧ ∀ text, session.files.read path = .ok text →
      passesFor text definition = false := by
  unfold status at h
  split at h
  · rename_i hread
    cases h
    exact Or.inr ⟨by simp, fun text htext => by simp [hread] at htext⟩
  · cases h
  · rename_i text hread
    split at h
    · rename_i hparse
      cases h
      refine Or.inr ⟨by simp, fun other hother => ?_⟩
      obtain rfl := Except.ok.inj (hread.symm.trans hother)
      simp [passesFor, hparse]
    · rename_i existing hparse
      split at h
      · rename_i hsame
        cases h
        exact Or.inl ⟨rfl, text, hread, by simpa [passesFor, hparse] using hsame⟩
      · rename_i hsame
        cases h
        refine Or.inr ⟨by simp, fun other hother => ?_⟩
        obtain rfl := Except.ok.inj (hread.symm.trans hother)
        simpa [passesFor, hparse] using hsame

theorem settle_eq_ok {found : OutputStatus} (hcheck : options.check = false)
    (h : (settle options path definition found session).result = .ok ()) :
    (found = .unchanged ∧ (settle options path definition found session).state = session) ∨
    found ≠ .unchanged ∧ session.files.write path (render definition) =
      .ok (settle options path definition found session).state.files := by
  by_cases hfound : found = .unchanged
  · subst hfound
    exact Or.inl ⟨rfl, rfl⟩
  · refine Or.inr ⟨hfound, ?_⟩
    have hsettle : settle options path definition found session =
        writeFile path (render definition) session := by
      unfold settle
      rw [hcheck, if_neg (by simpa using hfound)]
      rfl
    rw [hsettle] at h ⊢
    unfold writeFile at h ⊢
    split at h
    · cases h
    · assumption

theorem settles_of_writeOne (hcheck : options.check = false)
    (h : (writeOne options entity session).result = .ok record) :
    record.path = Snapshot.path options.directory entity.name ∧
      Settles record.path entity.definition session.files record.status
        (writeOne options entity session).state.files := by
  unfold writeOne at h ⊢
  obtain ⟨found, hstatus, hrest, hstate⟩ := Action.andThen_eq_ok h
  rw [status_state] at hrest hstate
  obtain ⟨_, hsettle, hrecord, hstate'⟩ := Action.andThen_eq_ok hrest
  rw [hstate, hstate']
  cases hrecord
  refine ⟨rfl, ?_⟩
  rcases settle_eq_ok hcheck hsettle with ⟨rfl, hsame⟩ | ⟨hne, hwrite⟩
  · rw [hsame]
    rcases status_eq_ok hstatus with ⟨_, text, hread, hpasses⟩ | ⟨hne, _⟩
    · exact .leaving hread hpasses
    · exact absurd rfl hne
  · rcases status_eq_ok hstatus with ⟨hunchanged, _⟩ | ⟨_, hfails⟩
    · exact absurd hunchanged hne
    · exact .writing hne hfails hwrite

/-- What becomes of the snapshots of entities in order. -/
inductive SettlesAll (directory : String) :
    FileTree → List Entity → List OutputRecord → FileTree → Prop
  | nil {files : FileTree} : SettlesAll directory files [] [] files
  | cons {before middle after : FileTree} {entity : Entity} {record : OutputRecord}
      {rest : List Entity} {records : List OutputRecord} :
      record.path = Snapshot.path directory entity.name →
      Settles record.path entity.definition before record.status middle →
      SettlesAll directory middle rest records after →
      SettlesAll directory before (entity :: rest) (record :: records) after

theorem settlesAll_of_writeEach {entities : List Entity} {records : List OutputRecord}
    (hcheck : options.check = false)
    (h : (writeEach options entities session).result = .ok records) :
    SettlesAll options.directory session.files entities records
      (writeEach options entities session).state.files := by
  induction entities generalizing session records with
  | nil =>
    cases h
    exact .nil
  | cons entity rest ih =>
    unfold writeEach at h ⊢
    obtain ⟨record, hone, hrest, hstate⟩ := Action.andThen_eq_ok h
    obtain ⟨others, hothers, hgive, hstate'⟩ := Action.andThen_eq_ok hrest
    rw [hstate, hstate']
    cases hgive
    obtain ⟨hpath, hsettles⟩ := settles_of_writeOne hcheck hone
    exact .cons hpath hsettles (ih hothers)

/-! ## What is kept -/

theorem Settles.read_elsewhere {found : OutputStatus} {elsewhere text : String}
    (h : Settles path definition before found after)
    (hne : Place.ofPath elsewhere ≠ Place.ofPath path) (hread : before.read elsewhere = .ok text) :
    after.read elsewhere = .ok text := by
  cases h with
  | leaving _ _ => exact hread
  | writing _ _ hwrite => exact FileTree.read_write_elsewhere hwrite hne hread

/-- What is read elsewhere is still read once all snapshots are taken care of. -/
theorem SettlesAll.read_elsewhere {directory elsewhere text : String} {entities : List Entity}
    {records : List OutputRecord} (h : SettlesAll directory before entities records after)
    (hne : ∀ entity ∈ entities,
      Place.ofPath elsewhere ≠ Place.ofPath (Snapshot.path directory entity.name))
    (hread : before.read elsewhere = .ok text) : after.read elsewhere = .ok text := by
  induction h with
  | nil => exact hread
  | cons hpath hsettles _ ih =>
    obtain ⟨hfirst, hrest⟩ := List.forall_mem_cons.1 hne
    exact ih hrest (hsettles.read_elsewhere (hpath ▸ hfirst) hread)

/-! ## What stands in the snapshots -/

/-- What stands in the snapshot of a definition in the end: one that was not unchanged holds the
definition, one that was unchanged a text that passes for it. So where a text stood before, the
snapshot holds the definition unless that text passes for it without being read as it. -/
structure Leaves (before after : FileTree) (definition : EntityDefinition) (record : OutputRecord) :
    Prop where
  written : record.status ≠ .unchanged → Holds after record.path definition
  left : record.status = .unchanged → ∃ text, after.read record.path = .ok text ∧
    passesFor text definition = true
  of_old : ∀ old, before.read record.path = .ok old →
    (Holds after record.path definition ↔
      passesFor old definition = false ∨ Snapshot.read old = .ok definition)

theorem Settles.leaves {start : FileTree} (hstorable : definition.IsStorable)
    (h : Settles record.path definition before record.status middle)
    (hold : ∀ text, start.read record.path = .ok text → before.read record.path = .ok text)
    (hkept : ∀ text, middle.read record.path = .ok text → after.read record.path = .ok text) :
    Leaves start after definition record := by
  obtain ⟨path, found⟩ := record
  cases h with
  | @leaving text hread hpasses =>
    have hafter : after.read path = .ok text := hkept text hread
    refine ⟨fun hne => absurd rfl hne, fun _ => ⟨text, hafter, hpasses⟩, fun old hstart => ?_⟩
    obtain rfl : text = old := Except.ok.inj (hread.symm.trans (hold old hstart))
    constructor
    · rintro ⟨other, hother, hdefinition⟩
      obtain rfl : text = other := Except.ok.inj (hafter.symm.trans hother)
      exact Or.inr hdefinition
    · rintro (hfails | hdefinition)
      · exact absurd hpasses (by simp [hfails])
      · exact ⟨text, hafter, hdefinition⟩
  | writing hne hfails hwrite =>
    have hholds : Holds after path definition :=
      holds_of_read hstorable (hkept _ (FileTree.read_write hwrite))
    exact ⟨fun _ => hholds, fun hunchanged => absurd hunchanged hne, fun old hstart =>
      ⟨fun _ => Or.inl (hfails old (hold old hstart)), fun _ => hholds⟩⟩

theorem SettlesAll.leaves {directory : String} {start : FileTree} {entities : List Entity}
    {records : List OutputRecord} (h : SettlesAll directory before entities records after)
    (hn : (entities.map Entity.name).Nodup) (hname : ∀ entity ∈ entities, '/' ∉ entity.name.toList)
    (hstorable : ∀ entity ∈ entities, entity.definition.IsStorable)
    (hold : ∀ entity ∈ entities, ∀ text, start.read (Snapshot.path directory entity.name) = .ok text →
      before.read (Snapshot.path directory entity.name) = .ok text) :
    List.Forall₂ (fun entity record => record.path = Snapshot.path directory entity.name ∧
      Leaves start after entity.definition record) entities records := by
  induction h with
  | nil => exact .nil
  | @cons before middle after entity record rest records hpath hsettles hall ih =>
    obtain ⟨hnew, hn⟩ := List.nodup_cons.1 hn
    obtain ⟨hfirst, hname⟩ := List.forall_mem_cons.1 hname
    obtain ⟨hdefinition, hstorable⟩ := List.forall_mem_cons.1 hstorable
    obtain ⟨hfirstOld, hold⟩ := List.forall_mem_cons.1 hold
    -- the snapshots of the others stand in other files
    have hne : ∀ other ∈ rest, Place.ofPath (Snapshot.path directory entity.name) ≠
        Place.ofPath (Snapshot.path directory other.name) := by
      intro other hother hplace
      have hsame := path_injective hfirst (hname other hother) hplace
      exact hnew (hsame ▸ List.mem_map_of_mem hother)
    refine .cons ⟨hpath, ?_⟩ (ih hn hname hstorable fun other hother text hread => ?_)
    · exact hsettles.leaves hdefinition (hpath ▸ hfirstOld)
        (hpath ▸ fun text => hall.read_elsewhere hne)
    · have helsewhere := (hne other hother).symm
      exact hsettles.read_elsewhere (hpath ▸ helsewhere) (hold other hother text hread)

/-- Once snapshots are written without a failure, each holds the definition of its entity, unless the
text that stood there passed for the definition and was left. -/
theorem snapshots_hold_unless_they_passed (options : WriteOptions) (session : Session)
    (records : List OutputRecord) (hcheck : options.check = false)
    (hn : ((writtenEntities session.context.entities).map Entity.name).Nodup)
    (hname : ∀ entity ∈ writtenEntities session.context.entities, '/' ∉ entity.name.toList)
    (hstorable : ∀ entity ∈ writtenEntities session.context.entities,
      entity.definition.IsStorable)
    (hok : (writeSnapshots options session).result = .ok records) :
    List.Forall₂ (fun entity record =>
        record.path = Snapshot.path options.directory entity.name ∧
        Leaves session.files (writeSnapshots options session).state.files entity.definition record)
      (writtenEntities session.context.entities) records :=
  (settlesAll_of_writeEach hcheck hok).leaves hn hname hstorable fun _ _ _ hread => hread

/-! ## A change that is not written -/

/-- An order that is to have no fluent methods. -/
def plainOrder : EntityDefinition := { name := "Order", options := { fluentMethods := some false } }

/-- The text of a snapshot of the order from when it had fluent methods. -/
def fluentText : String :=
  "\x7b\"name\": \"Order\", \"fields\": [], \"relationships\": [], \"fluentMethods\": true\x7d"

/-- The order and an invoice, prepared in a project that holds the old snapshot of the order. -/
def orderSession : Session where
  context := (prepareAll (.ofDefinitions {} [plainOrder, { name := "Invoice" }])).state
  files := ⟨[([".jhipster"], .folder), ([".jhipster", "Order.json"], .text fluentText)]⟩

/-- What becomes of the two snapshots. -/
def orderRecords : List OutputRecord :=
  [⟨"./.jhipster/Order.json", .unchanged⟩, ⟨"./.jhipster/Invoice.json", .created⟩]

theorem writeSnapshots_orderSession : (writeSnapshots {} orderSession).result = .ok orderRecords := by
  have h : (writeSnapshots {} orderSession).result.toOption = some orderRecords := by decide +kernel
  cases hresult : (writeSnapshots {} orderSession).result with
  | error e =>
    rw [hresult] at h
    cases h
  | ok records =>
    rw [hresult] at h
    exact congrArg _ (Option.some.inj h)

theorem orders_hold_unless_they_passed :
    (∀ entity ∈ writtenEntities orderSession.context.entities, entity.definition.IsStorable) ∧
    List.Forall₂ (fun entity record => record.path = Snapshot.path "." entity.name ∧
        Leaves orderSession.files (writeSnapshots {} orderSession).state.files entity.definition record)
      (writtenEntities orderSession.context.entities) orderRecords := by
  have hdefinitions : (writtenEntities orderSession.context.entities).map Entity.definition =
      [plainOrder, { name := "Invoice" }] := rfl
  have hnames : (writtenEntities orderSession.context.entities).map Entity.name =
      ["Order", "Invoice"] := rfl
  have horder : plainOrder.IsDeserialised := Or.inr ⟨.object [("name", .string "Order"),
    ("fluentMethods", .bool false)], rfl⟩
  have hinvoice : EntityDefinition.IsDeserialised { name := "Invoice" } :=
    Or.inr ⟨.object [("name", .string "Invoice")], rfl⟩
  have hstorable : ∀ definition ∈ (writtenEntities orderSession.context.entities).map
      Entity.definition, definition.IsStorable := by
    rw [hdefinitions]
    simp only [EntityDefinition.isStorable_iff]
    exact List.forall_mem_cons.2 ⟨⟨horder, by decide +kernel⟩,
      List.forall_mem_singleton.2 ⟨hinvoice, by decide +kernel⟩⟩
  have hseparate : ∀ name ∈ (writtenEntities orderSession.context.entities).map Entity.name,
      '/' ∉ name.toList := by
    rw [hnames]
    decide
  rw [List.forall_mem_map] at hstorable hseparate
  exact ⟨hstorable, snapshots_hold_unless_they_passed {} orderSession orderRecords rfl
    (by rw [hnames]; decide) hseparate hstorable writeSnapshots_orderSession⟩

/-- The old snapshot of the order passes for the new definition, so that the change is not written. -/
theorem fluent_methods_stay_in_the_snapshot :
    (writeSnapshots {} orderSession).result = .ok orderRecords ∧
    ∃ entity ∈ writtenEntities orderSession.context.entities,
      ¬Holds (writeSnapshots {} orderSession).state.files (Snapshot.path "." entity.name)
        entity.definition := by
  have hread : ((writeSnapshots {} orderSession).state.files.read
      "./.jhipster/Order.json").toOption = some fluentText := by decide +kernel
  have hfluent : (Snapshot.read fluentText).toOption.map (·.options.fluentMethods) =
      some (some true) := by decide +kernel
  have hpath : Snapshot.path "." "Order" = "./.jhipster/Order.json" := by decide
  refine ⟨writeSnapshots_orderSession, _, List.mem_cons_self, ?_⟩
  rintro ⟨text, htext, hdefinition⟩
  have hsame : some text = some fluentText := by
    rw [← hread, ← hpath]
    exact (congrArg Except.toOption htext).symm
  obtain rfl := Option.some.inj hsame
  rw [hdefinition] at hfluent
  cases hfluent

end SnapshotWriter

end EntityPipeline
