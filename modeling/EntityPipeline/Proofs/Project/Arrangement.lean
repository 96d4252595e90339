-- The order of the definitions of a project. The entities that the configuration lists come first,
-- all others by date and by name. Definitions of different names never tie, so there is one such
-- order, however they came in and however the folder that holds their files is listed.
import EntityPipeline.Proofs.Project.Reading
import Mathlib.Data.List.Sort
import Mathlib.Data.Prod.Lex
import Mathlib.Data.String.Basic
import Mathlib.Order.WithBot

namespace EntityPipeline

variable {declared : List String} {first second : EntityDefinition}
  {definitions others result : List EntityDefinition}

/-! ## Where a definition stands -/

/-- A date among all dates; to have none comes before every one. -/
def dateRank : Option String → WithBot String
  | none => ⊥
  | some date => date

theorem dateRank_injective : Function.Injective dateRank := by
  intro date other h
  cases date <;> cases other <;> simp_all [dateRank]

theorem dateBefore_iff {date other : Option String} :
    dateBefore date other = true ↔ dateRank date < dateRank other := by
  cases date <;> cases other <;> simp [dateBefore, dateRank]

theorem dateBefore_eq_true {date other : Option String} : dateBefore date other = true ↔
    date = none ∧ other ≠ none ∨
      ∃ early later, date = some early ∧ other = some later ∧ early < later := by
  cases date <;> cases other <;> simp [dateBefore]

namespace EntityDefinition

/-- Where a definition stands: by where its name is first declared, then by its date, then by its
name. A name that is not declared stands behind all that are. -/
def rank (declared : List String) (definition : EntityDefinition) :
    Nat ×ₗ WithBot String ×ₗ String :=
  toLex (declared.idxOf definition.name,
    toLex (dateRank definition.changelogDate, definition.name))

theorem mayPrecede_iff :
    mayPrecede declared first second = true ↔ rank declared first ≤ rank declared second := by
  unfold mayPrecede rank
  simp only [Prod.Lex.toLex_le_toLex, beq_iff_eq]
  split
  · rename_i hplace
    simp only [hplace, lt_irrefl, false_or, true_and]
    split
    · rename_i hdate
      simp [hdate]
    · rename_i hdate
      rw [dateBefore_iff]
      exact (or_iff_left fun h => hdate (dateRank_injective h.1)).symm
  · rename_i hplace
    rw [decide_eq_true_iff]
    exact (or_iff_left fun h => hplace h.1).symm

theorem name_eq_of_rank_eq (h : rank declared first = rank declared second) :
    first.name = second.name := by
  simp only [rank, EmbeddingLike.apply_eq_iff_eq, Prod.mk.injEq] at h
  exact h.2.2

/-- Whether a definition comes before another one by date, those without a date first, and by name
where they have the same. -/
inductive ComesBefore (first second : EntityDefinition) : Prop where
  | undated (hfirst : first.changelogDate = none) (hsecond : second.changelogDate ≠ none)
  | earlier {date later : String} (hfirst : first.changelogDate = some date)
      (hsecond : second.changelogDate = some later) (h : date < later)
  | named (hdate : first.changelogDate = second.changelogDate) (h : first.name < second.name)

theorem comesBefore_iff : ComesBefore first second ↔
    dateBefore first.changelogDate second.changelogDate = true ∨
      first.changelogDate = second.changelogDate ∧ first.name < second.name := by
  constructor
  · rintro (⟨hfirst, hsecond⟩ | ⟨hfirst, hsecond, h⟩ | ⟨hdate, h⟩)
    · exact Or.inl (dateBefore_eq_true.2 (Or.inl ⟨hfirst, hsecond⟩))
    · exact Or.inl (dateBefore_eq_true.2 (Or.inr ⟨_, _, hfirst, hsecond, h⟩))
    · exact Or.inr ⟨hdate, h⟩
  · rintro (h | ⟨hdate, h⟩)
    · obtain ⟨hfirst, hsecond⟩ | ⟨date, later, hfirst, hsecond, h⟩ := dateBefore_eq_true.1 h
      · exact .undated hfirst hsecond
      · exact .earlier hfirst hsecond h
    · exact .named hdate h

/-- A listed entity may come before one of another name that is listed behind it or not at all. -/
theorem mayPrecede_listed (hfirst : first.name ∈ declared) (hname : first.name ≠ second.name) :
    mayPrecede declared first second = true ↔
      declared.idxOf first.name < declared.idxOf second.name := by
  have hplace : declared.idxOf first.name ≠ declared.idxOf second.name :=
    fun h => hname ((List.idxOf_inj hfirst).1 h)
  unfold mayPrecede
  simp [hplace]

/-- An entity that is not listed may come before others of these by date and name. -/
theorem mayPrecede_unlisted (hfirst : first.name ∉ declared) (hsecond : second.name ∉ declared)
    (hname : first.name ≠ second.name) :
    mayPrecede declared first second = true ↔ ComesBefore first second := by
  have hplace : declared.idxOf first.name = declared.idxOf second.name := by
    rw [List.idxOf_eq_length_iff.2 hfirst, List.idxOf_eq_length_iff.2 hsecond]
  have hle : first.name ≤ second.name ↔ first.name < second.name :=
    ⟨fun h => lt_of_le_of_ne h hname, le_of_lt⟩
  rw [comesBefore_iff]
  unfold mayPrecede
  simp only [hplace, beq_self_eq_true, if_true, beq_iff_eq]
  split
  · rename_i hdate
    rw [hdate]
    cases second.changelogDate <;> simp [dateBefore, hle]
  · rename_i hdate
    simp [hdate]

end EntityDefinition

open EntityDefinition

/-! ## Sorting -/

/-- Whether the configuration lists the entity of a definition. -/
def isListed (declared : List String) (definition : EntityDefinition) : Bool :=
  declared.contains definition.name

/-- Definitions in the order of a project: each one of them once, those that are listed by where
they are first listed, then the others by date and name. -/
structure Arranged (declared : List String) (definitions result : List EntityDefinition) :
    Prop where
  each_once : result.Perm definitions
  listed_first : ∃ listed unlisted, result = listed ++ unlisted ∧
    (∀ d ∈ listed, d.name ∈ declared) ∧
    listed.Pairwise (fun first second =>
      declared.idxOf first.name < declared.idxOf second.name) ∧
    (∀ d ∈ unlisted, d.name ∉ declared) ∧ unlisted.Pairwise ComesBefore

theorem pairwise_sortDefinitions (declared : List String) (definitions : List EntityDefinition) :
    (sortDefinitions declared definitions).Pairwise fun first second =>
      mayPrecede declared first second = true := by
  apply List.pairwise_mergeSort
  · intro a b c hab hbc
    rw [mayPrecede_iff] at hab hbc ⊢
    exact hab.trans hbc
  · intro a b
    rw [Bool.or_eq_true, mayPrecede_iff, mayPrecede_iff]
    exact le_total _ _

theorem sortDefinitions_perm (declared : List String) (definitions : List EntityDefinition) :
    (sortDefinitions declared definitions).Perm definitions := List.mergeSort_perm _ _

/-- Definitions of different names are sorted the same however they came in. -/
theorem sortDefinitions_eq_of_perm (hnames : (definitions.map EntityDefinition.name).Nodup)
    (hperm : others.Perm definitions) :
    sortDefinitions declared others = sortDefinitions declared definitions := by
  have hothers := (sortDefinitions_perm declared others).trans hperm
  have hdefinitions := sortDefinitions_perm declared definitions
  refine List.Perm.eq_of_pairwise (fun a b ha hb hab hba => ?_) (pairwise_sortDefinitions _ _)
    (pairwise_sortDefinitions _ _) (hothers.trans hdefinitions.symm)
  have hrank := le_antisymm (mayPrecede_iff.1 hab) (mayPrecede_iff.1 hba)
  exact List.inj_on_of_nodup_map hnames (hothers.mem_iff.1 ha) (hdefinitions.mem_iff.1 hb)
    (name_eq_of_rank_eq hrank)

/-- Definitions that are arranged are in order. -/
theorem Arranged.pairwise (hnames : (definitions.map EntityDefinition.name).Nodup)
    (h : Arranged declared definitions result) :
    result.Pairwise fun first second => mayPrecede declared first second = true := by
  obtain ⟨listed, unlisted, rfl, hlisted, hplaces, hunlisted, hbefore⟩ := h.listed_first
  have hdistinct : (listed ++ unlisted).Pairwise fun first second => first.name ≠ second.name :=
    List.pairwise_map.1 ((h.each_once.map EntityDefinition.name).nodup_iff.2 hnames)
  obtain ⟨hdistinct, hdistinct', hacross⟩ := List.pairwise_append.1 hdistinct
  refine List.pairwise_append.2 ⟨?_, ?_, fun a ha b hb => ?_⟩
  · exact (hplaces.and hdistinct).imp_of_mem fun ha _ h =>
      (mayPrecede_listed (hlisted _ ha) h.2).2 h.1
  · exact (hbefore.and hdistinct').imp_of_mem fun ha hb h =>
      (mayPrecede_unlisted (hunlisted _ ha) (hunlisted _ hb) h.2).2 h.1
  · refine (mayPrecede_listed (hlisted a ha) (hacross a ha b hb)).2 ?_
    rw [List.idxOf_eq_length_iff.2 (hunlisted b hb)]
    exact List.idxOf_lt_length_iff.2 (hlisted a ha)

/-- There is one arrangement of definitions of different names at most. -/
theorem Arranged.eq_sortDefinitions (hnames : (definitions.map EntityDefinition.name).Nodup)
    (h : Arranged declared definitions result) : sortDefinitions declared definitions = result := by
  rw [← sortDefinitions_eq_of_perm hnames h.each_once]
  exact List.mergeSort_of_pairwise (h.pairwise hnames)

/-- Sorted definitions are arranged. The listed and the others of them, one behind the other, make
an arrangement, and so are the whole. -/
theorem arranged_sortDefinitions (declared : List String)
    (hnames : (definitions.map EntityDefinition.name).Nodup) :
    Arranged declared definitions (sortDefinitions declared definitions) := by
  have hperm := sortDefinitions_perm declared definitions
  have hdistinct : (sortDefinitions declared definitions).Pairwise fun first second =>
      first.name ≠ second.name :=
    List.pairwise_map.1 ((hperm.map EntityDefinition.name).nodup_iff.2 hnames)
  have hsorted := (pairwise_sortDefinitions declared definitions).and hdistinct
  have hlisted : ∀ d ∈ (sortDefinitions declared definitions).filter (isListed declared),
      d.name ∈ declared := fun d hd => by simpa [isListed] using List.of_mem_filter hd
  have hunlisted : ∀ d ∈ (sortDefinitions declared definitions).filter (!isListed declared ·),
      d.name ∉ declared := fun d hd => by simpa [isListed] using List.of_mem_filter hd
  have harranged : Arranged declared definitions
      ((sortDefinitions declared definitions).filter (isListed declared) ++
        (sortDefinitions declared definitions).filter (!isListed declared ·)) := by
    refine ⟨(List.filter_append_perm _ _).trans hperm, _, _, rfl, hlisted, ?_, hunlisted, ?_⟩
    · exact (hsorted.filter _).imp_of_mem fun ha _ h =>
        (mayPrecede_listed (hlisted _ ha) h.2).1 h.1
    · exact (hsorted.filter _).imp_of_mem fun ha hb h =>
        (mayPrecede_unlisted (hunlisted _ ha) (hunlisted _ hb) h.2).1 h.1
  rw [harranged.eq_sortDefinitions hnames]
  exact harranged

/-! ## Listing a folder in another order -/

namespace FileTree

variable {files other : FileTree} {place : Place} {names : List String} {path folder : String}

/-- Another tree holds the same and lists one of the folders in any order. -/
structure Relists (folder : String) (files other : FileTree) : Prop where
  same : ∀ place, other.at? place = files.at? place
  listed : (other.namesIn folder).Perm (files.namesIn folder)

theorem walk_congr (h : ∀ place, other.at? place = files.at? place) :
    other.walk place names = files.walk place names := by
  induction names generalizing place with
  | nil => rfl
  | cons name rest ih =>
    unfold walk
    rw [h place, ih]

theorem find_congr (h : ∀ place, other.at? place = files.at? place) :
    other.find path = files.find path := by
  unfold find
  rw [walk_congr h]
  simp only [h]

/-- A tree whose places are named in another order holds the same. -/
theorem lookup_eq_of_perm {α : Type} {entries others : List (Place × α)}
    (hperm : others.Perm entries) (hplaces : (entries.map Prod.fst).Nodup) :
    others.lookup place = entries.lookup place := by
  induction hperm with
  | nil => rfl
  | cons entry hrest ih =>
    rw [List.lookup_cons, List.lookup_cons, ih (List.nodup_cons.1 hplaces).2]
  | swap first second rest =>
    obtain ⟨place1, content1⟩ := first
    obtain ⟨place2, content2⟩ := second
    have hne : place1 ≠ place2 := fun heq => (List.nodup_cons.1 hplaces).1 (by simp [heq])
    simp only [List.lookup_cons]
    cases h1 : place == place1 with
    | false => rfl
    | true =>
      have h2 : (place == place2) = false := by
        rw [beq_eq_false_iff_ne, eq_of_beq h1]
        exact hne
      rw [h2]
  | trans _ hperm ih ih' =>
    rw [ih ((hperm.map Prod.fst).nodup_iff.2 hplaces), ih' hplaces]

theorem relists_of_perm (hperm : other.entries.Perm files.entries)
    (hplaces : (files.entries.map Prod.fst).Nodup) : Relists folder files other := by
  have hsame : ∀ place, other.at? place = files.at? place := fun place => by
    unfold at?
    rw [lookup_eq_of_perm hperm hplaces]
  refine ⟨hsame, ?_⟩
  unfold namesIn
  rw [walk_congr hsame]
  split
  · exact .rfl
  · exact hperm.filterMap _

end FileTree

section Reading

variable {files other : FileTree} {directory : String} {config : ApplicationConfig}

/-- The files that may hold definitions are the same but for their order, and hold the same. -/
theorem readProject_of_relists (hnames : (definitions.map EntityDefinition.name).Nodup)
    (hlists : FileTree.Relists (Path.join directory Snapshot.folder) files other)
    (hread : (readProject files directory config).1 = .ok definitions) :
    (readProject other directory config).1 = .ok definitions := by
  have hfind : ∀ path, other.find path = files.find path := fun _ => FileTree.find_congr hlists.same
  have hholds : ∀ path, DefinitionFile.read other path = DefinitionFile.read files path := by
    intro path
    unfold DefinitionFile.read FileTree.read
    rw [hfind]
  have hpaths : (definitionPaths other directory).Perm (definitionPaths files directory) :=
    (hlists.listed.filter _).map _
  obtain ⟨hfolder, hok, rfl⟩ := readProject_eq_ok.1 hread
  refine readProject_eq_ok.2 ⟨?_, fun path hin hfails => ?_, ?_⟩
  · unfold FileTree.isFolder at hfolder ⊢
    rw [hfind]
    exact hfolder
  · refine hok path (hpaths.mem_iff.1 hin) ?_
    unfold DefinitionFile.Fails at hfails ⊢
    rwa [hholds] at hfails
  · have hdefinition : DefinitionFile.definition? other = DefinitionFile.definition? files := by
      funext path
      unfold DefinitionFile.definition?
      rw [hholds]
    rw [hdefinition]
    refine (sortDefinitions_eq_of_perm ?_ (hpaths.filterMap _)).symm
    exact (((sortDefinitions_perm _ _).map _).nodup_iff).1 hnames

/-- Definitions of different names have one order: the one arrangement in which those that are
listed come first and the others by date and name. They have it however they came in, and a project
that is read has it however the folder of its definitions is listed. -/
theorem definitions_have_one_order (declared : List String)
    (hnames : (definitions.map EntityDefinition.name).Nodup) :
    (∀ result, sortDefinitions declared definitions = result ↔
      Arranged declared definitions result) ∧
    (∀ others, others.Perm definitions →
      sortDefinitions declared others = sortDefinitions declared definitions) ∧
    ∀ files other directory config,
      FileTree.Relists (Path.join directory Snapshot.folder) files other →
      (readProject files directory config).1 = .ok definitions →
      (readProject other directory config).1 = .ok definitions := by
  refine ⟨fun result => ⟨?_, Arranged.eq_sortDefinitions hnames⟩, fun others =>
    sortDefinitions_eq_of_perm hnames, fun files other directory config hlists hread =>
      readProject_of_relists hnames hlists hread⟩
  rintro rfl
  exact arranged_sortDefinitions declared hnames

/-- A shelf with a listed entity, one without a date and one with a date. -/
def shelfProject : FileTree where
  entries := [([".jhipster"], .folder),
    ([".jhipster", "Shelf.json"], .text "\x7b\"changelogDate\":\"20240101000000\"\x7d"),
    ([".jhipster", "Book.json"], .text "\x7b\"changelogDate\":\"20230101000000\"\x7d"),
    ([".jhipster", "Author.json"], .text "\x7b\x7d")]

/-- The shelf that is listed comes first, then the author without a date, then the book, and so they
do in a folder that is listed backwards. -/
theorem shelf_has_one_order :
    ∃ definitions, definitions.map EntityDefinition.name = ["Shelf", "Author", "Book"] ∧
      (readProject shelfProject "." { entities := ["Shelf"] }).1 = .ok definitions ∧
      (readProject ⟨shelfProject.entries.reverse⟩ "." { entities := ["Shelf"] }).1 =
        .ok definitions := by
  obtain ⟨hfolder, hfound⟩ :
      shelfProject.isFolder (Path.join "." Snapshot.folder) = true ∧
      (readDefinitions shelfProject (definitionPaths shelfProject ".")).1.toOption.map
        (List.map fun d => (d.name, d.changelogDate)) =
        some [("Shelf", some "20240101000000"), ("Book", some "20230101000000"),
          ("Author", none)] := by
    decide +kernel
  obtain ⟨found, hfound, hmembers⟩ := Option.map_eq_some_iff.1 hfound
  simp only [List.map_eq_cons_iff, List.map_eq_nil_iff, Prod.mk.injEq] at hmembers
  obtain ⟨shelf, _, rfl, ⟨hshelf, -⟩, book, _, rfl, ⟨hbook, hdate⟩, author, _, rfl,
    ⟨hauthor, hundated⟩, rfl⟩ := hmembers
  obtain ⟨hok, heq⟩ := readDefinitions_eq_ok.1 (toOption_eq_some_iff.1 hfound)
  have hread : (readProject shelfProject "." { entities := ["Shelf"] }).1 =
      .ok (sortDefinitions ["Shelf"] [shelf, book, author]) :=
    readProject_eq_ok.2 ⟨hfolder, hok, congrArg (sortDefinitions ["Shelf"]) heq⟩
  have harranged : Arranged ["Shelf"] [shelf, book, author] [shelf, author, book] := by
    refine ⟨.cons _ (.swap _ _ _), [shelf], [author, book], rfl, ?_, ?_, ?_, ?_⟩
    · simp [hshelf]
    · exact List.pairwise_singleton _ _
    · simp [hbook, hauthor]
    · exact List.pairwise_pair.2 (.undated hundated (by simp [hdate]))
  have hsorted := ((definitions_have_one_order ["Shelf"]
    (by simp [hshelf, hbook, hauthor])).1 _).2 harranged
  rw [hsorted] at hread
  refine ⟨[shelf, author, book], by simp [hshelf, hbook, hauthor], hread, ?_⟩
  have hlists : FileTree.Relists (Path.join "." Snapshot.folder) shelfProject
      ⟨shelfProject.entries.reverse⟩ :=
    FileTree.relists_of_perm shelfProject.entries.reverse_perm (by decide)
  exact (definitions_have_one_order ["Shelf"] (by simp [hshelf, hbook, hauthor])).2.2
    _ _ _ _ hlists hread

end Reading

end EntityPipeline
