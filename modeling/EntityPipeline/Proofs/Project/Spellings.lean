-- Snapshots in another spelling. A snapshot whose text is read as the definition of its entity is
-- left alone if the text is spelled out. If it is not, the snapshot is written anew, or fails a run
-- that only checks, although nothing about the definition changed.
import EntityPipeline.Proofs.Definition.Spelling
import EntityPipeline.Proofs.Project.TwoModes

namespace EntityPipeline

/-! ## Texts that are read as a definition -/

namespace Snapshot

variable {text : String} {definition expected : EntityDefinition}

/-- A text that is spelled out: it is a value, and this is spelled out. -/
def IsSpelledOut (text : String) : Prop :=
  ∃ value, Json.parse text = .ok value ∧ EntityDefinition.IsSpelledOut value

/-- Of the texts that are read as a definition, those pass for it that are spelled out. -/
theorem passesFor_iff (hread : read text = .ok definition)
    (hsame : definition.unsigned = expected.unsigned) :
    passesFor text expected = true ↔ IsSpelledOut text := by
  have hproper : definition.IsProper (fun _ => True) (122 + 2) :=
    EntityDefinition.isProper_of_snapshot hread
  have hsorted := EntityDefinition.isSorted_toJson hproper
  have hunsigned : definition.toJson.unsigned = expected.toJson.unsigned := by
    rw [EntityDefinition.unsigned_toJson, EntityDefinition.unsigned_toJson, hsame]
  have hexpected : expected.toJson.IsSorted :=
    Json.isSorted_unsigned.1 (hunsigned ▸ Json.isSorted_unsigned.2 hsorted)
  have hcanonical : canonicalValue expected = expected.toJson := hexpected
  unfold passesFor IsSpelledOut
  cases hparse : Json.parse text with
  | error fault => simp
  | ok value =>
    have hvalue := (Json.fits_of_parse (fun t _ => t.fits_true) hparse).1
    have htaken : Json.IsTaken (EntityDefinition.read .text) definition value :=
      ⟨_, Json.Decoder.read_of_ofText hread, Json.value_of_parse hparse⟩
    simp only [Except.ok.injEq, exists_eq_left']
    rw [hcanonical, Json.sameEntity_comm hvalue hexpected,
      ← Json.sameEntity_congr hsorted hexpected hvalue hunsigned,
      Json.sameEntity_comm hsorted hvalue]
    exact EntityDefinition.sameEntity_iff_isSpelledOut hvalue hproper htaken

/-- A text is read as a definition if what is read from it has the same snapshot and its numbers read
back. -/
theorem read_of_render (h : expected.IsStorable)
    (hnumbers : ∀ t ∈ Json.tokens text, t.Fits Number.ReadsBack)
    (hrender : (read text).toOption.map render = some (render expected)) :
    read text = .ok expected := by
  cases hread : read text with
  | error fault =>
    rw [hread] at hrender
    cases hrender
  | ok definition =>
    rw [hread] at hrender
    have hstorable : definition.IsStorable := EntityDefinition.isProper_of_tokens hnumbers hread
    rw [← h.read_render, ← Option.some.inj hrender, hstorable.read_render]

end Snapshot

namespace SnapshotWriter

open Snapshot

variable {options : WriteOptions} {session other : Session} {entity : Entity}
  {before after rest entities : List Entity} {record : OutputRecord} {records : List OutputRecord}
  {failure : Failure} {elsewhere text : String} {files : FileTree}

/-! ## Runs told by the files -/

/-- What becomes of the snapshot at a path, told by the files: its record or a failure, and the files
then. -/
def turn (check : Bool) (path : String) (definition : EntityDefinition) (files : FileTree) :
    Except Failure OutputRecord × FileTree :=
  match verdict files path definition with
  | .error failure => (.error failure, files)
  | .ok found =>
    if found = .unchanged then (.ok ⟨path, found⟩, files)
    else if check = true then
      (.error (.outside (.generation ("Snapshot would be " ++ found.name ++ ": " ++ path))), files)
    else
      match files.write path (render definition) with
      | .error _ => (.error (.outside .file), files)
      | .ok files => (.ok ⟨path, found⟩, files)

theorem writeOne_turn (options : WriteOptions) (entity : Entity) (session : Session) :
    ((writeOne options entity session).result, (writeOne options entity session).state.files) =
      turn options.check (Snapshot.path options.directory entity.name) entity.definition
        session.files := by
  unfold turn
  cases h : verdict session.files (Snapshot.path options.directory entity.name)
      entity.definition with
  | error failure =>
    obtain ⟨hresult, hstate⟩ := writeOne_unjudged options h
    rw [hresult, hstate]
  | ok found =>
    dsimp only
    split
    · rename_i hfound
      rw [writeOne_of_passesAt (passesAt_iff_verdict.2 (hfound ▸ h)), hfound]
      rfl
    · rename_i hfound
      split
      · rename_i hcheck
        obtain ⟨hresult, hstate⟩ := writeOne_checking options hcheck hfound h
        rw [hresult, hstate]
      · rename_i hcheck
        have hwriting := writeOne_writing options (Bool.eq_false_iff.2 hcheck) hfound h
        split at hwriting <;> rename_i hwrite <;> obtain ⟨hresult, hstate⟩ := hwriting <;>
          rw [hresult, hstate, hwrite]
        rfl

/-- What is read elsewhere is still read behind the turn of a snapshot, however that ends. -/
theorem read_turn_elsewhere {check : Bool} {path : String} {definition : EntityDefinition}
    (hne : Place.ofPath elsewhere ≠ Place.ofPath path) (hread : files.read elsewhere = .ok text) :
    (turn check path definition files).2.read elsewhere = .ok text := by
  unfold turn
  split
  · exact hread
  · split
    · exact hread
    · split
      · exact hread
      · split
        · exact hread
        · rename_i hwrite
          exact FileTree.read_write_elsewhere hwrite hne hread

theorem read_writeOne_elsewhere (hne : Place.ofPath elsewhere ≠
      Place.ofPath (Snapshot.path options.directory entity.name))
    (hread : session.files.read elsewhere = .ok text) :
    (writeOne options entity session).state.files.read elsewhere = .ok text := by
  have hfiles : (writeOne options entity session).state.files = _ :=
    congrArg Prod.snd (writeOne_turn options entity session)
  rw [hfiles]
  exact read_turn_elsewhere hne hread

theorem writeEach_cons_of_error (rest : List Entity)
    (h : (writeOne options entity session).result = .error failure) :
    (writeEach options (entity :: rest) session).result = .error failure ∧
      (writeEach options (entity :: rest) session).state =
        (writeOne options entity session).state := by
  rw [writeEach, Action.andThen_of_error h]
  exact ⟨rfl, rfl⟩

theorem writeEach_cons_of_ok (rest : List Entity)
    (h : (writeOne options entity session).result = .ok record) :
    (writeEach options (entity :: rest) session).result =
        (writeEach options rest (writeOne options entity session).state).result.map
          (record :: ·) ∧
      (writeEach options (entity :: rest) session).state =
        (writeEach options rest (writeOne options entity session).state).state := by
  rw [writeEach, Action.andThen_of_ok h]
  cases hrest : (writeEach options rest (writeOne options entity session).state).result with
  | error failure =>
    rw [Action.andThen_of_error hrest]
    exact ⟨rfl, rfl⟩
  | ok records =>
    rw [Action.andThen_of_ok hrest]
    exact ⟨rfl, rfl⟩

/-- Runs over the same files come to the same. -/
theorem writeEach_congr (options : WriteOptions) (entities : List Entity)
    (h : session.files = other.files) :
    (writeEach options entities session).result = (writeEach options entities other).result ∧
      (writeEach options entities session).state.files =
        (writeEach options entities other).state.files := by
  induction entities generalizing session other with
  | nil => exact ⟨rfl, h⟩
  | cons entity rest ih =>
    have hturn := writeOne_turn options entity session
    rw [h, ← writeOne_turn options entity other, Prod.mk.injEq] at hturn
    cases hone : (writeOne options entity other).result with
    | error failure =>
      obtain ⟨hresult, hstate⟩ := writeEach_cons_of_error rest (hturn.1.trans hone)
      obtain ⟨hresult', hstate'⟩ := writeEach_cons_of_error rest hone
      rw [hresult, hstate, hresult', hstate']
      exact ⟨rfl, hturn.2⟩
    | ok record =>
      obtain ⟨hresult, hstate⟩ := writeEach_cons_of_ok rest (hturn.1.trans hone)
      obtain ⟨hresult', hstate'⟩ := writeEach_cons_of_ok rest hone
      obtain ⟨hrest, hfiles⟩ := ih hturn.2
      rw [hresult, hstate, hresult', hstate', hrest]
      exact ⟨rfl, hfiles⟩

/-- What is read elsewhere is still read behind the turns of all snapshots, however a run ends. -/
theorem read_writeEach_elsewhere (hne : ∀ entity ∈ entities, Place.ofPath elsewhere ≠
      Place.ofPath (Snapshot.path options.directory entity.name))
    (hread : session.files.read elsewhere = .ok text) :
    (writeEach options entities session).state.files.read elsewhere = .ok text := by
  induction entities generalizing session with
  | nil => exact hread
  | cons entity rest ih =>
    obtain ⟨hfirst, hrest⟩ := List.forall_mem_cons.1 hne
    have hone := read_writeOne_elsewhere hfirst hread
    cases hresult : (writeOne options entity session).result with
    | error failure =>
      rw [(writeEach_cons_of_error rest hresult).2]
      exact hone
    | ok record =>
      rw [(writeEach_cons_of_ok rest hresult).2]
      exact ih hrest hone

/-- A run that succeeds over two lists of entities has succeeded over the first, and goes on from
there over the second. -/
theorem writeEach_append_eq_ok
    (h : (writeEach options (before ++ rest) session).result = .ok records) :
    ∃ firsts others, records = firsts ++ others ∧ firsts.length = before.length ∧
      (writeEach options rest (writeEach options before session).state).result = .ok others ∧
      (writeEach options (before ++ rest) session).state =
        (writeEach options rest (writeEach options before session).state).state := by
  induction before generalizing session records with
  | nil => exact ⟨[], records, rfl, rfl, h, rfl⟩
  | cons first before ih =>
    cases hone : (writeOne options first session).result with
    | error failure =>
      have hresult : (writeEach options (first :: (before ++ rest)) session).result = _ :=
        (writeEach_cons_of_error _ hone).1
      cases hresult.symm.trans h
    | ok record =>
      obtain ⟨hresult, hstate⟩ := writeEach_cons_of_ok (before ++ rest) hone
      rw [List.cons_append, hresult] at h
      cases hrest : (writeEach options (before ++ rest)
          (writeOne options first session).state).result with
      | error failure =>
        rw [hrest] at h
        cases h
      | ok records =>
        rw [hrest] at h
        cases h
        obtain ⟨firsts, others, rfl, hlength, hothers, hends⟩ := ih hrest
        refine ⟨record :: firsts, others, rfl, congrArg (· + 1) hlength, ?_, ?_⟩
        · rw [(writeEach_cons_of_ok _ hone).2]
          exact hothers
        · rw [List.cons_append, hstate, (writeEach_cons_of_ok _ hone).2]
          exact hends

/-! ## A snapshot that is left -/

/-- A run leaves the snapshot of an entity: it comes to what it comes to without the entity, save
that the snapshot is reported as unchanged in its place, and the text stands as it did. -/
structure IsLeft (options : WriteOptions) (session : Session) (before : List Entity)
    (entity : Entity) (after : List Entity) (text : String) : Prop where
  reported : (writeSnapshots options session).result =
    (writeEach options (before ++ after) session).result.map
      (·.insertIdx before.length ⟨Snapshot.path options.directory entity.name, .unchanged⟩)
  files : (writeSnapshots options session).state.files =
    (writeEach options (before ++ after) session).state.files
  kept : (writeSnapshots options session).state.files.read
    (Snapshot.path options.directory entity.name) = .ok text

/-- A run over a snapshot that passes comes to what it comes to without it. -/
theorem writeEach_passing (options : WriteOptions) (after : List Entity)
    (hne : ∀ other ∈ before, Place.ofPath (Snapshot.path options.directory entity.name) ≠
      Place.ofPath (Snapshot.path options.directory other.name))
    (htext : session.files.read (Snapshot.path options.directory entity.name) = .ok text)
    (hpasses : passesFor text entity.definition = true) :
    (writeEach options (before ++ entity :: after) session).result =
        (writeEach options (before ++ after) session).result.map
          (·.insertIdx before.length
            ⟨Snapshot.path options.directory entity.name, .unchanged⟩) ∧
      (writeEach options (before ++ entity :: after) session).state.files =
        (writeEach options (before ++ after) session).state.files := by
  induction before generalizing session with
  | nil =>
    have hone : writeOne options entity session = _ := writeOne_of_passesAt ⟨text, htext, hpasses⟩
    have hsame : (writeOne options entity session).state.files = session.files := by
      rw [hone]
      rfl
    obtain ⟨hresult, hstate⟩ := writeEach_cons_of_ok after
      (congrArg Outcome.result hone)
    obtain ⟨hafter, hfiles⟩ := writeEach_congr options after hsame
    rw [List.nil_append, List.nil_append, hresult, hstate, hafter]
    exact ⟨rfl, hfiles⟩
  | cons first before ih =>
    obtain ⟨hfirst, hbefore⟩ := List.forall_mem_cons.1 hne
    rw [List.cons_append, List.cons_append]
    cases hone : (writeOne options first session).result with
    | error failure =>
      obtain ⟨hresult, hstate⟩ := writeEach_cons_of_error (before ++ entity :: after) hone
      obtain ⟨hresult', hstate'⟩ := writeEach_cons_of_error (before ++ after) hone
      rw [hresult, hstate, hresult', hstate']
      exact ⟨rfl, rfl⟩
    | ok record =>
      obtain ⟨hresult, hstate⟩ := writeEach_cons_of_ok (before ++ entity :: after) hone
      obtain ⟨hresult', hstate'⟩ := writeEach_cons_of_ok (before ++ after) hone
      obtain ⟨hrest, hfiles⟩ := ih hbefore (read_writeOne_elsewhere hfirst htext)
      rw [hresult, hstate, hresult', hstate', hrest]
      refine ⟨?_, hfiles⟩
      cases (writeEach options (before ++ after) (writeOne options first session).state).result <;>
        rfl

theorem isLeft_of_passes
    (hentities : writtenEntities session.context.entities = before ++ entity :: after)
    (hplaces : ∀ other ∈ before ++ after,
      Place.ofPath (Snapshot.path options.directory entity.name) ≠
        Place.ofPath (Snapshot.path options.directory other.name))
    (htext : session.files.read (Snapshot.path options.directory entity.name) = .ok text)
    (hpasses : passesFor text entity.definition = true) :
    IsLeft options session before entity after text := by
  obtain ⟨hresult, hfiles⟩ := writeEach_passing options after
    (fun other hother => hplaces other (List.mem_append_left _ hother)) htext hpasses
  rw [← writeSnapshots_eq options hentities] at hresult hfiles
  exact ⟨hresult, hfiles, hfiles ▸ read_writeEach_elsewhere hplaces htext⟩

/-! ## A snapshot that is written anew -/

/-- A run does not leave the snapshot of an entity. One that writes reports it as updated in its
place and puts the definition in its own spelling into the file, once it succeeds; one that only
checks fails, and on this snapshot if those before it pass. -/
structure IsRewritten (options : WriteOptions) (session : Session) (before : List Entity)
    (entity : Entity) : Prop where
  updated : options.check = false → ∀ records,
    (writeSnapshots options session).result = .ok records →
    records[before.length]? = some ⟨Snapshot.path options.directory entity.name, .updated⟩ ∧
      (writeSnapshots options session).state.files.read
        (Snapshot.path options.directory entity.name) = .ok (render entity.definition)
  fails : options.check = true → ∃ failure, (writeSnapshots options session).result = .error failure
  blamed : options.check = true → AllPass options.directory session.files before →
    (writeSnapshots options session).result =
      .error (.outside (.generation ("Snapshot would be updated: " ++
        Snapshot.path options.directory entity.name)))

theorem verdict_of_fails
    (htext : files.read (Snapshot.path options.directory entity.name) = .ok text)
    (hfails : passesFor text entity.definition = false) :
    verdict files (Snapshot.path options.directory entity.name) entity.definition =
      .ok .updated := by
  rw [verdict, htext]
  simp [hfails]

theorem isRewritten_of_fails
    (hentities : writtenEntities session.context.entities = before ++ entity :: after)
    (hplaces : ∀ other ∈ before ++ after,
      Place.ofPath (Snapshot.path options.directory entity.name) ≠
        Place.ofPath (Snapshot.path options.directory other.name))
    (htext : session.files.read (Snapshot.path options.directory entity.name) = .ok text)
    (hfails : passesFor text entity.definition = false) :
    IsRewritten options session before entity := by
  have hrun := writeSnapshots_eq options hentities
  obtain ⟨hbefore, hafter⟩ := List.forall_mem_append.1 hplaces
  refine ⟨fun hcheck records hok => ?_, fun hcheck => ?_, fun hcheck hpass => ?_⟩
  · rw [hrun] at hok ⊢
    obtain ⟨firsts, others, rfl, hlength, hothers, hstate⟩ := writeEach_append_eq_ok hok
    -- when its turn comes, the text is still there
    have htext' := read_writeEach_elsewhere hbefore htext
    have hwriting := writeOne_writing options hcheck (by simp) (verdict_of_fails htext' hfails)
    split at hwriting
    · rename_i written hwrite
      obtain ⟨hone, hwritten⟩ := hwriting
      obtain ⟨hresult, hends⟩ := writeEach_cons_of_ok after hone
      rw [hresult] at hothers
      have hread : (writeOne options entity
          (writeEach options before session).state).state.files.read
            (Snapshot.path options.directory entity.name) = .ok (render entity.definition) := by
        rw [hwritten]
        exact FileTree.read_write hwrite
      refine ⟨?_, by rw [hstate, hends]; exact read_writeEach_elsewhere hafter hread⟩
      cases hlater : (writeEach options after (writeOne options entity
          (writeEach options before session).state).state).result with
      | error failure =>
        rw [hlater] at hothers
        cases hothers
      | ok later =>
        rw [hlater] at hothers
        cases hothers
        simp [← hlength]
    · rw [(writeEach_cons_of_error _ hwriting.1).1] at hothers
      cases hothers
  · cases hresult : (writeSnapshots options session).result with
    | error failure => exact ⟨failure, rfl⟩
    | ok records =>
      have hall := allPass_of_check hcheck (hrun ▸ hresult)
      obtain ⟨found, hfound, hpasses⟩ := hall entity (by simp)
      obtain rfl := Except.ok.inj (htext.symm.trans hfound)
      rw [hfails] at hpasses
      cases hpasses
  · have hverdict : verdict (recording session (untouched options.directory before)).files
        (Snapshot.path options.directory entity.name) entity.definition = .ok .updated :=
      verdict_of_fails htext hfails
    have hone := writeOne_checking options hcheck (by simp) hverdict
    rw [hrun]
    exact (writeEach_of_first_error options after hpass hone.1).1

/-- A snapshot whose text is read as the definition of its entity is left, in either mode, if the
text is spelled out; otherwise it is written anew, or fails a run that only checks. -/
theorem a_snapshot_is_left_if_it_is_spelled_out {definition : EntityDefinition}
    (options : WriteOptions) (session : Session)
    (hentities : writtenEntities session.context.entities = before ++ entity :: after)
    (hplaces : ∀ other ∈ before ++ after,
      Place.ofPath (Snapshot.path options.directory entity.name) ≠
        Place.ofPath (Snapshot.path options.directory other.name))
    (htext : session.files.read (Snapshot.path options.directory entity.name) = .ok text)
    (hread : Snapshot.read text = .ok definition)
    (hsame : definition.unsigned = entity.definition.unsigned) :
    (IsSpelledOut text → IsLeft options session before entity after text) ∧
      (¬ IsSpelledOut text → IsRewritten options session before entity) := by
  have hiff := passesFor_iff hread hsame
  refine ⟨fun hspelled => isLeft_of_passes hentities hplaces htext (hiff.2 hspelled),
    fun hspelled => isRewritten_of_fails hentities hplaces htext ?_⟩
  rw [Bool.eq_false_iff]
  exact fun hpasses => hspelled (hiff.1 hpasses)

/-- A letter with a title, and without fluent methods. -/
def letter : EntityDefinition where
  name := "Letter"
  fields := [{ name := "title", type := "String" }]
  options := { fluentMethods := some false }

/-- The letter out of order, with a null and a word for its flag. -/
def letterText : String :=
  "\x7b\"relationships\": [], \"fluentMethods\": \"no\", \"javadoc\": null, \"name\": \"Letter\",
    \"fields\": [\x7b\"fieldType\": \"String\", \"fieldName\": \"title\"\x7d]\x7d"

/-- A parcel and the letter, prepared in a project that holds a snapshot of the letter. -/
def letterSession : Session where
  context := (prepareAll (.ofDefinitions {} [{ name := "Parcel" }, letter])).state
  files := ⟨[([".jhipster"], .folder), ([".jhipster", "Letter.json"], .text letterText)]⟩

theorem read_letterText : Snapshot.read letterText = .ok letter := by
  have hdeserialised : letter.IsDeserialised := Or.inr ⟨.object [("name", .string "Letter"),
    ("fields", .array [.object [("fieldName", .string "title"), ("fieldType", .string "String")]]),
    ("fluentMethods", .bool false)], rfl⟩
  have hstorable := EntityDefinition.isStorable_iff.2 ⟨hdeserialised, by decide +kernel⟩
  exact read_of_render hstorable (by decide +kernel) (by decide +kernel)

theorem the_letter_is_left : ∃ parcel entity, entity.definition = letter ∧
    IsLeft {} letterSession [parcel] entity [] letterText := by
  have hspelled : IsSpelledOut letterText :=
    (passesFor_iff read_letterText rfl).1 (by decide +kernel)
  have hnames : (writtenEntities letterSession.context.entities).map Entity.name =
      ["Parcel", "Letter"] := rfl
  have hdefinitions : (writtenEntities letterSession.context.entities).map Entity.definition =
      [{ name := "Parcel" }, letter] := rfl
  generalize hentities : writtenEntities letterSession.context.entities = entities
    at hnames hdefinitions
  obtain ⟨parcel, rest, rfl, hparcel, hrest⟩ := List.map_eq_cons_iff.1 hnames
  obtain ⟨entity, rest, rfl, hletter, hrest⟩ := List.map_eq_cons_iff.1 hrest
  obtain rfl := List.map_eq_nil_iff.1 hrest
  have hdefinition : entity.definition = letter := (List.cons.inj (List.cons.inj hdefinitions).2).1
  refine ⟨parcel, entity, hdefinition, (a_snapshot_is_left_if_it_is_spelled_out {} letterSession
    hentities ?_ ?_ read_letterText (by rw [hdefinition])).1 hspelled⟩
  · simp only [List.append_nil, List.forall_mem_singleton, hparcel, hletter]
    decide +kernel
  · rw [hletter]
    decide +kernel

/-! ## A spelling that is not left -/

/-- The text of a snapshot of an order that leaves out its empty lists. -/
def terseText : String := "\x7b\"name\": \"Order\"\x7d"

/-- The order, prepared in a project with this snapshot. -/
def terseSession : Session where
  context := (prepareAll (.ofDefinitions {} [{ name := "Order" }])).state
  files := ⟨[([".jhipster"], .folder), ([".jhipster", "Order.json"], .text terseText)]⟩

/-- The snapshot of the order is read as its definition, and yet a run that writes does not leave it
and one that only checks fails. -/
theorem the_terse_order_is_written_anew :
    Snapshot.read terseText = .ok { name := "Order" } ∧
    (writtenEntities terseSession.context.entities).map Entity.definition = [{ name := "Order" }] ∧
    (writeSnapshots {} terseSession).result.toOption =
      some [⟨"./.jhipster/Order.json", .updated⟩] ∧
    (writeSnapshots { check := true } terseSession).result.toOption = none ∧
    terseSession.files.read "./.jhipster/Order.json" = .ok terseText ∧
    (writeSnapshots {} terseSession).state.files.read "./.jhipster/Order.json" =
      .ok (render { name := "Order" }) ∧
    terseText ≠ render { name := "Order" } := by
  have hdeserialised : EntityDefinition.IsDeserialised { name := "Order" } :=
    Or.inr ⟨.object [("name", .string "Order")], rfl⟩
  have hstorable := EntityDefinition.isStorable_iff.2 ⟨hdeserialised, by decide +kernel⟩
  exact ⟨read_of_render hstorable (by decide +kernel) (by decide +kernel), rfl, by decide +kernel,
    by decide +kernel, by decide +kernel, by decide +kernel, by decide +kernel⟩

end SnapshotWriter

end EntityPipeline
