-- Reading and writing in a tree of files. A text that is written under a path is read under it,
-- and what is read under a path that leads elsewhere stays readable: new folders only come where
-- nothing was, and no folder is ever replaced.
import EntityPipeline.Files.FileTree

namespace EntityPipeline

/-! ## Where paths lead -/

namespace Place

/-- The place that names lead to from a place, whatever is there. -/
def follow (place : Place) (names : List String) : Place := names.foldl step place

/-- The place that a path leads to, whatever is there. -/
def ofPath (path : String) : Place := (start path).follow (Path.names path)

theorem follow_append (place : Place) (names : List String) (name : String) :
    place.follow (names ++ [name]) = (place.follow names).step name := by
  simp [follow]

theorem isGiven_start (path : String) : (start path).isGiven = true := by
  unfold start
  split <;> rfl

end Place

/-! ## Files below a folder -/

namespace Text

theorem piecesAt_ne_nil (separator : Char) (text : List Char) :
    piecesAt separator text ≠ [] := by
  cases text with
  | nil => simp [piecesAt]
  | cons c rest =>
    unfold piecesAt
    split
    · simp
    · split <;> simp

theorem piecesAt_of_not_mem {separator : Char} {text : List Char} (h : separator ∉ text) :
    piecesAt separator text = [text] := by
  induction text with
  | nil => rfl
  | cons c rest ih =>
    rw [List.mem_cons, not_or] at h
    unfold piecesAt
    rw [ih h.2]
    simp [Ne.symm h.1]

theorem piecesAt_cons {separator c : Char} {text piece : List Char} {others : List (List Char)}
    (h : piecesAt separator text = piece :: others) : piecesAt separator (c :: text) =
      if c == separator then [] :: piece :: others else (c :: piece) :: others := by
  rw [piecesAt, h]

/-- A separator parts the pieces before it from those behind it. -/
theorem piecesAt_append (separator : Char) (before after : List Char) :
    piecesAt separator (before ++ separator :: after) =
      piecesAt separator before ++ piecesAt separator after := by
  induction before with
  | nil =>
    obtain ⟨piece, others, hafter⟩ := List.exists_cons_of_ne_nil (piecesAt_ne_nil separator after)
    rw [List.nil_append, piecesAt_cons hafter, if_pos (beq_self_eq_true separator), hafter]
    rfl
  | cons c rest ih =>
    obtain ⟨piece, others, hrest⟩ := List.exists_cons_of_ne_nil (piecesAt_ne_nil separator rest)
    rw [hrest] at ih
    rw [List.cons_append, piecesAt_cons ih, piecesAt_cons hrest]
    split <;> rfl

end Text

namespace Path

/-- A path below a folder stands behind a slash of its own. -/
theorem join_eq {folder file : String} {last : Char} (hfolder : folder.toList.getLast? = some last)
    (hlast : last ≠ '/') (hfile : file.toList.head? ≠ some '/') :
    join folder file = folder ++ "/" ++ file := by
  have hnonempty : folder ≠ "" := by
    rintro rfl
    cases hfolder
  unfold join
  rw [if_neg (by simpa using hfile), hfolder, if_neg (by simp [hnonempty, hlast])]

/-- A name by itself is the only one of its path. -/
theorem names_of_not_mem {file : String} (hfile : file ≠ "") (hname : '/' ∉ file.toList) :
    names file = [file] := by
  have hlast : file.toList.getLast? ≠ some '/' := fun h => hname (List.mem_of_getLast? h)
  have hletters : file.toList ≠ [] := by simpa using hfile
  unfold names
  rw [Text.piecesAt_of_not_mem hname]
  simp [hlast, hletters]

end Path

namespace Place

/-- The place of a folder, by the path to it. -/
def ofFolder (path : String) : Place :=
  (start path).follow (((Text.piecesAt '/' path.toList).filter (· != [])).map String.ofList)

theorem start_append {folder : String} (rest : String) (hfolder : folder ≠ "") :
    start (folder ++ rest) = start folder := by
  have hletters : folder.toList ≠ [] := by simpa using hfolder
  obtain ⟨c, others, hcons⟩ := List.exists_cons_of_ne_nil hletters
  unfold start Path.isAbsolute
  rw [String.toList_append, hcons]
  rfl

theorem start_below {folder : String} (file : String) (hfolder : folder ≠ "") :
    start (folder ++ "/" ++ file) = start folder := by
  rw [String.append_assoc, start_append _ hfolder]

/-- The names of a path behind a folder come after those of the folder. -/
theorem names_below (folder : String) {file : String} (hfile : file ≠ "") :
    Path.names (folder ++ "/" ++ file) =
      ((Text.piecesAt '/' folder.toList).filter (· != [])).map String.ofList ++
        Path.names file := by
  have hletters : file.toList ≠ [] := by simpa using hfile
  have htext : (folder ++ "/" ++ file).toList = folder.toList ++ '/' :: file.toList := by
    simp [String.toList_append]
  have hend : (folder.toList ++ '/' :: file.toList).getLast? = file.toList.getLast? := by
    rw [List.getLast?_append, List.getLast?_cons_of_ne_nil hletters,
      List.getLast?_eq_some_getLast hletters, Option.some_or]
  unfold Path.names
  rw [htext, Text.piecesAt_append, hend]
  simp only [List.filter_append, List.map_append]
  split
  · rw [List.append_assoc]
  · rfl

/-- A path behind a folder leads on from it. -/
theorem ofPath_below {folder file : String} (hfolder : folder ≠ "") (hfile : file ≠ "") :
    ofPath (folder ++ "/" ++ file) = (ofFolder folder).follow (Path.names file) := by
  unfold ofPath ofFolder follow
  rw [start_below file hfolder, names_below folder hfile, List.foldl_append]

/-- A name that is joined to a path leads one step on. -/
theorem ofPath_join {folder file : String} (hfile : file ≠ "") (hname : '/' ∉ file.toList) :
    ofPath (Path.join folder file) = (ofFolder folder).step file := by
  have hhead : file.toList.head? ≠ some '/' := fun h => hname (List.mem_of_head? h)
  have hnames := Path.names_of_not_mem hfile hname
  unfold Path.join
  rw [if_neg (by simpa using hhead)]
  by_cases hempty : folder = ""
  · subst hempty
    rw [if_pos (by simp), String.empty_append]
    unfold ofPath ofFolder start Path.isAbsolute
    rw [hnames]
    simp [hhead, follow, Text.piecesAt]
  by_cases hslash : folder.toList.getLast? = some '/'
  · obtain ⟨letters, heq⟩ := List.getLast?_eq_some_iff.1 hslash
    have hfolder : folder = String.ofList letters ++ "/" := by
      apply String.toList_inj.1
      rw [heq, String.toList_append, String.toList_ofList]
      rfl
    rw [if_pos (by simp [hslash])]
    unfold ofPath ofFolder
    rw [start_append _ hempty, hfolder, names_below _ hfile, hnames, follow_append, ← hfolder, heq,
      Text.piecesAt_append]
    simp [Text.piecesAt]
  · rw [if_neg (by simp [hempty, hslash]), ofPath_below hempty hfile, hnames]
    rfl

/-- A step to a longer name is a step down. -/
theorem step_of_length {place : Place} {name : String} (h : 2 < name.length) :
    place.step name = place ++ [name] := by
  unfold step
  have hdot : name ≠ "." := by
    rintro rfl
    exact absurd h (by decide)
  have hdots : name ≠ ".." := by
    rintro rfl
    exact absurd h (by decide)
  simp [hdot, hdots]

end Place

namespace FileTree

variable {tree other : FileTree} {place target : Place} {names : List String} {path text : String}
  {content : Content}

theorem at?_given (h : place.isGiven = true) : tree.at? place = some .folder := by
  unfold at?
  rw [if_pos h]

theorem not_isGiven (h : tree.at? place ≠ some .folder) : place.isGiven = false :=
  Bool.eq_false_iff.2 fun hgiven => h (at?_given hgiven)

theorem at?_put_self (h : place.isGiven = false) :
    (tree.put place content).at? place = some content := by
  unfold at?
  rw [h, if_neg Bool.false_ne_true, lookup_put_self]

theorem at?_put_of_ne (h : target ≠ place) :
    (tree.put place content).at? target = tree.at? target := by
  unfold at?
  rw [lookup_put_of_ne tree content h]

/-! ## Trees that grow -/

/-- What is in a tree is in another one as well. -/
def Within (tree other : FileTree) : Prop :=
  ∀ place content, tree.at? place = some content → other.at? place = some content

/-- The folders of a tree are folders of another one. -/
def KeepsFolders (tree other : FileTree) : Prop :=
  ∀ place, tree.at? place = some .folder → other.at? place = some .folder

theorem Within.keepsFolders (h : tree.Within other) : tree.KeepsFolders other :=
  fun place => h place .folder

theorem KeepsFolders.trans {third : FileTree} (h : tree.KeepsFolders other)
    (h' : other.KeepsFolders third) : tree.KeepsFolders third :=
  fun place hat => h' place (h place hat)

theorem keepsFolders_put (h : tree.at? place ≠ some .folder) :
    tree.KeepsFolders (tree.put place content) := by
  intro target hat
  rw [at?_put_of_ne (by rintro rfl; exact h hat), hat]

/-! ## Walking -/

theorem walk_cons_eq_ok {name : String} : tree.walk place (name :: names) = .ok target ↔
    tree.at? place = some .folder ∧ isName name = true ∧
      tree.walk (place.step name) names = .ok target := by
  conv =>
    lhs
    unfold walk
  split
  · rename_i hat
    simp [hat]
  · rename_i hat
    split <;> simp_all
  · rename_i hne hat
    simp [hat]
    intro h
    exact absurd h hne

/-- Walking leads where the names lead. -/
theorem walk_eq_ok (h : tree.walk place names = .ok target) : target = place.follow names := by
  induction names generalizing place with
  | nil => exact (Except.ok.inj h).symm
  | cons name rest ih => exact ih (walk_cons_eq_ok.1 h).2.2

theorem KeepsFolders.walk (hkeeps : tree.KeepsFolders other)
    (h : tree.walk place names = .ok target) : other.walk place names = .ok target := by
  induction names generalizing place with
  | nil => exact h
  | cons name rest ih =>
    obtain ⟨hat, hname, hrest⟩ := walk_cons_eq_ok.1 h
    exact walk_cons_eq_ok.2 ⟨hkeeps place hat, hname, ih hrest⟩

theorem walk_append {name : String} (h : tree.walk place names = .ok target)
    (hat : tree.at? target = some .folder) (hname : isName name = true) :
    tree.walk place (names ++ [name]) = .ok (target.step name) := by
  induction names generalizing place with
  | nil =>
    obtain rfl := Except.ok.inj h
    exact walk_cons_eq_ok.2 ⟨hat, hname, rfl⟩
  | cons first rest ih =>
    obtain ⟨hfirst, hlength, hrest⟩ := walk_cons_eq_ok.1 h
    exact walk_cons_eq_ok.2 ⟨hfirst, hlength, ih hrest⟩

/-! ## Making folders -/

/-- Folders were made along names where nothing was, and nothing else was changed. -/
def AddsFolders (place : Place) (names : List String) (tree other : FileTree) : Prop :=
  ∀ target, other.at? target = tree.at? target ∨
    tree.at? target = none ∧ other.at? target = some .folder ∧
      ∃ front, front <+: names ∧ target = place.follow front

theorem AddsFolders.within (h : AddsFolders place names tree other) : tree.Within other := by
  intro target content hat
  rcases h target with hsame | ⟨hnone, -, -⟩
  · rw [hsame, hat]
  · simp [hnone] at hat

/-- Folders beyond one step are made along all the names. -/
theorem AddsFolders.step {name : String} (h : AddsFolders (place.step name) names tree other) :
    AddsFolders place (name :: names) tree other := by
  intro target
  refine (h target).imp_right fun ⟨hnone, hfolder, front, hfront, htarget⟩ => ?_
  exact ⟨hnone, hfolder, name :: front, List.cons_prefix_cons.2 ⟨rfl, hfront⟩, htarget⟩

/-- The folder that a step leads to is made first. -/
theorem AddsFolders.put {name : String} (hnone : tree.at? (place.step name) = none)
    (h : AddsFolders place (name :: names) (tree.put (place.step name) .folder) other) :
    AddsFolders place (name :: names) tree other := by
  intro target
  by_cases htarget : target = place.step name
  · subst htarget
    have hnot : tree.at? (place.step name) ≠ some .folder := by simp [hnone]
    have hput : (tree.put (place.step name) .folder).at? (place.step name) = some .folder :=
      at?_put_self (not_isGiven hnot)
    have hother : other.at? (place.step name) = some .folder := by
      rcases h (place.step name) with hsame | ⟨-, hfolder, -⟩
      · rw [hsame, hput]
      · exact hfolder
    exact Or.inr ⟨hnone, hother, [name], List.prefix_append [name] names, rfl⟩
  · have hput : (tree.put (place.step name) .folder).at? target = tree.at? target :=
      at?_put_of_ne htarget
    rw [← hput]
    exact h target

/-- Folders are made where nothing was, and the last of them can be walked to. -/
theorem makeFolders_eq_ok (hplace : tree.at? place = some .folder)
    (h : tree.makeFolders place names = .ok (other, target)) :
    AddsFolders place names tree other ∧ other.walk place names = .ok target ∧
      other.at? target = some .folder := by
  induction names generalizing tree place with
  | nil =>
    cases h
    exact ⟨fun _ => Or.inl rfl, rfl, hplace⟩
  | cons name rest ih =>
    unfold makeFolders at h
    split at h
    · cases h
    · rename_i hname
      rw [Bool.not_eq_true', Bool.not_eq_false] at hname
      split at h
      · rename_i hstep
        obtain ⟨hadds, hrest, hlast⟩ := ih hstep h
        exact ⟨hadds.step, walk_cons_eq_ok.2 ⟨hadds.within _ _ hplace, hname, hrest⟩, hlast⟩
      · cases h
      · rename_i hnone
        have hnot : tree.at? (place.step name) ≠ some .folder := by simp [hnone]
        obtain ⟨hadds, hrest, hlast⟩ := ih (at?_put_self (not_isGiven hnot)) h
        have hall := hadds.step.put hnone
        exact ⟨hall, walk_cons_eq_ok.2 ⟨hall.within _ _ hplace, hname, hrest⟩, hlast⟩

/-! ## Reading and writing -/

theorem find_eq_ok : tree.find path = .ok content ↔ path ≠ "" ∧ isUsable path = true ∧
    tree.walk (Place.start path) (Path.names path) = .ok (Place.ofPath path) ∧
    tree.at? (Place.ofPath path) = some content := by
  unfold find
  constructor
  · intro h
    split at h
    · cases h
    · rename_i hpath
      split at h
      · cases h
      · rename_i husable
        split at h
        · cases h
        · rename_i target hwalk
          obtain rfl : target = Place.ofPath path := walk_eq_ok hwalk
          split at h
          · cases h
          · rename_i found hat
            obtain rfl := Except.ok.inj h
            exact ⟨by simpa using hpath, by simpa using husable, hwalk, hat⟩
  · rintro ⟨hpath, husable, hwalk, hat⟩
    rw [if_neg (by simpa using hpath), if_neg (by simpa using husable), hwalk]
    simp only [hat]

theorem read_eq_ok_iff_find : tree.read path = .ok text ↔ tree.find path = .ok (.text text) := by
  unfold read
  cases tree.find path with
  | error fault => simp
  | ok content => cases content <;> simp

theorem isFolder_iff_find : tree.isFolder path = true ↔ tree.find path = .ok .folder := by
  unfold isFolder
  cases tree.find path with
  | error fault => simp
  | ok content => cases content <;> simp

theorem read_eq_ok : tree.read path = .ok text ↔ path ≠ "" ∧ isUsable path = true ∧
    tree.walk (Place.start path) (Path.names path) = .ok (Place.ofPath path) ∧
    tree.at? (Place.ofPath path) = some (.text text) :=
  read_eq_ok_iff_find.trans find_eq_ok

/-- Writing a text makes folders as needed and then puts the text where the path leads. -/
theorem write_eq_ok (h : tree.write path text = .ok other) : ∃ middle,
    AddsFolders (Place.start path) (Path.names path).dropLast tree middle ∧
    path ≠ "" ∧ isUsable path = true ∧
    middle.walk (Place.start path) (Path.names path) = .ok (Place.ofPath path) ∧
    middle.at? (Place.ofPath path) ≠ some .folder ∧
    other = middle.put (Place.ofPath path) (.text text) := by
  unfold write FileTree.place at h
  dsimp only at h
  split at h
  · cases h
  · rename_i husable
    rw [Bool.not_eq_true', Bool.not_eq_false] at husable
    split at h
    · cases h
    · rename_i middle folder hfolders
      have hstart : tree.at? (Place.start path) = some .folder :=
        at?_given (Place.isGiven_start path)
      obtain ⟨hadds, hwalk, hat⟩ := makeFolders_eq_ok hstart hfolders
      split at h
      · cases h
      · rename_i name hlast
        split at h
        · cases h
        · rename_i hname
          rw [Bool.not_eq_true', Bool.not_eq_false] at hname
          have hto := walk_append hwalk hat hname
          obtain ⟨_, hnames⟩ := List.getLast?_eq_some_iff.1 hlast
          rw [hnames, List.dropLast_concat, ← hnames] at hto
          have hplace : folder.step name = Place.ofPath path := walk_eq_ok hto
          rw [hplace] at h hto
          have hpath : path ≠ "" := by
            rintro rfl
            cases hlast
          split at h
          · cases h
          · rename_i hnot
            exact ⟨middle, hadds, hpath, husable, hto, hnot, (Except.ok.inj h).symm⟩

/-- What was written is read. -/
theorem read_write (h : tree.write path text = .ok other) : other.read path = .ok text := by
  obtain ⟨middle, _, hpath, husable, hwalk, hnot, rfl⟩ := write_eq_ok h
  exact read_eq_ok.2 ⟨hpath, husable, (keepsFolders_put hnot).walk hwalk,
    at?_put_self (not_isGiven hnot)⟩

/-- What is read elsewhere is still read after something was written. -/
theorem read_write_elsewhere {elsewhere old : String} (h : tree.write path text = .ok other)
    (hne : Place.ofPath elsewhere ≠ Place.ofPath path) (hold : tree.read elsewhere = .ok old) :
    other.read elsewhere = .ok old := by
  obtain ⟨middle, hadds, _, _, _, hnot, rfl⟩ := write_eq_ok h
  obtain ⟨hpath, husable, hwalk, hat⟩ := read_eq_ok.1 hold
  have hkeeps : tree.KeepsFolders (middle.put (Place.ofPath path) (.text text)) :=
    hadds.within.keepsFolders.trans (keepsFolders_put hnot)
  refine read_eq_ok.2 ⟨hpath, husable, hkeeps.walk hwalk, ?_⟩
  rw [at?_put_of_ne hne]
  exact hadds.within _ _ hat

end FileTree

end EntityPipeline
