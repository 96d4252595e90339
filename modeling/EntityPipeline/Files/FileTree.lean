-- Files and folders as a value. A place is a list of names from where the run takes place; it may
-- begin with steps up from there, or with the root. Every file that is put into a tree lies in
-- folders of that tree.
import EntityPipeline.Context
import EntityPipeline.Files.Path

namespace EntityPipeline

/-- What is at a place. -/
inductive Content where
  | text (text : String)
  | binary
  | folder
deriving DecidableEq, Repr, Inhabited

/-- Why a path cannot be used. -/
inductive FileFault where
  | absent
  | blocked
deriving DecidableEq, Repr, Inhabited

/-- The names that lead to a file or folder. -/
abbrev Place := List String

namespace Place

/-- The root as the first name of a place. -/
def root : String := "/"

/-- Whether a place is there without being put into a tree: the root, where the run takes place
and everything above. -/
def isGiven (place : Place) : Bool := place == [root] || place.all (· == "..")

/-- The place that a name leads to from a folder. -/
def step (place : Place) (name : String) : Place :=
  if name == "." then place
  else if name == ".." then
    if place == [root] then place
    else if place.all (· == "..") then place ++ [name]
    else place.dropLast
  else place ++ [name]

/-- The place that a path starts from. -/
def start (path : String) : Place := if Path.isAbsolute path then [root] else []

end Place

/-- Files and folders by their places. -/
structure FileTree where
  entries : List (Place × Content) := []
deriving Repr, Inhabited

namespace FileTree

/-- What is at a place. -/
def at? (tree : FileTree) (place : Place) : Option Content :=
  if place.isGiven then some .folder else tree.entries.lookup place

/-- Puts something at a place, in place of what was there. -/
def put (tree : FileTree) (place : Place) (content : Content) : FileTree :=
  if (tree.entries.lookup place).isSome then
    ⟨tree.entries.map fun (other, old) => (other, if other == place then content else old)⟩
  else ⟨tree.entries ++ [(place, content)]⟩

/-- What is put at a place is found there. -/
theorem lookup_put_self (tree : FileTree) (place : Place) (content : Content) :
    (tree.put place content).entries.lookup place = some content := by
  unfold put
  split
  · rename_i h
    generalize tree.entries = entries at h
    induction entries with
    | nil => simp at h
    | cons entry rest ih =>
      obtain ⟨other, old⟩ := entry
      by_cases ho : place = other
      · simp [ho]
      · have : (place == other) = false := by simpa using ho
        simp only [List.lookup_cons, this] at h
        simp only [List.map_cons, List.lookup_cons, this]
        exact ih h
  · rename_i h
    rw [Bool.not_eq_true, Option.isSome_eq_false_iff, Option.isNone_iff_eq_none] at h
    simp [List.lookup_append, h]

/-- What is put at a place leaves the other places alone. -/
theorem lookup_put_of_ne (tree : FileTree) {place other : Place} (content : Content)
    (h : other ≠ place) :
    (tree.put place content).entries.lookup other = tree.entries.lookup other := by
  unfold put
  split
  · generalize tree.entries = entries
    induction entries with
    | nil => rfl
    | cons entry rest ih =>
      obtain ⟨here, old⟩ := entry
      by_cases ho : other = here
      · subst ho; simp [h]
      · have : (other == here) = false := by simpa using ho
        simpa only [List.map_cons, List.lookup_cons, this] using ih
  · have : (other == place) = false := by simpa using h
    simp [List.lookup_append, List.lookup_cons, this]

/-- Whether a name is short enough for a file; there are at most 255 bytes in one. -/
def isName (name : String) : Bool := name.utf8ByteSize ≤ 255

/-- Whether a path is short enough and free of the character that ends a text. -/
def isUsable (path : String) : Bool :=
  path.utf8ByteSize < 4096 && !path.toList.contains (Char.ofNat 0)

/-! ## Reading -/

/-- The place that names lead to from a place. All but the last must lead through folders. -/
def walk (tree : FileTree) (place : Place) : List String → Except FileFault Place
  | [] => .ok place
  | name :: rest =>
    match tree.at? place with
    | none => .error .absent
    | some .folder =>
      if isName name then tree.walk (place.step name) rest else .error .blocked
    | some _ => .error .blocked

/-- What a path leads to. -/
def find (tree : FileTree) (path : String) : Except FileFault Content :=
  if path == "" then .error .absent
  else if !isUsable path then .error .blocked
  else match tree.walk (Place.start path) (Path.names path) with
    | .error fault => .error fault
    | .ok place =>
      match tree.at? place with
      | none => .error .absent
      | some content => .ok content

/-- Whether a path leads to anything. -/
def contains (tree : FileTree) (path : String) : Bool :=
  match tree.find path with
  | .ok _ => true
  | .error _ => false

/-- Whether a path leads to a folder. -/
def isFolder (tree : FileTree) (path : String) : Bool :=
  match tree.find path with
  | .ok .folder => true
  | _ => false

/-- The text of a file. -/
def read (tree : FileTree) (path : String) : Except FileFault String :=
  match tree.find path with
  | .ok (.text text) => .ok text
  | .ok _ => .error .blocked
  | .error fault => .error fault

/-- The names in a folder. -/
def namesIn (tree : FileTree) (path : String) : List String :=
  match tree.walk (Place.start path) (Path.names path) with
  | .error _ => []
  | .ok place =>
    tree.entries.filterMap fun (other, _) =>
      if other.dropLast == place && other.length == place.length + 1 then other.getLast? else none

/-- The files below where the run takes place, as paths in order. -/
def files (tree : FileTree) : List String :=
  let places := tree.entries.filter fun (place, content) =>
    content != .folder && place.head? != some ".." && place.head? != some Place.root
  (places.map fun (place, _) => "/".intercalate place).mergeSort fun a b => a ≤ b

/-! ## Writing -/

/-- The tree with the folders that names lead through, and the last of them. -/
def makeFolders (tree : FileTree) (place : Place) :
    List String → Except FileFault (FileTree × Place)
  | [] => .ok (tree, place)
  | name :: rest =>
    if !isName name then .error .blocked
    else match tree.at? (place.step name) with
      | some .folder => tree.makeFolders (place.step name) rest
      | some _ => .error .blocked
      | none => (tree.put (place.step name) .folder).makeFolders (place.step name) rest

/-- The tree with something at a path, in folders that are made as needed. A folder is never
replaced. -/
def place (tree : FileTree) (path : String) (content : Content) : Except FileFault FileTree :=
  let names := Path.names path
  if !isUsable path then .error .blocked
  else match tree.makeFolders (Place.start path) names.dropLast with
    | .error fault => .error fault
    | .ok (tree, folder) =>
      match names.getLast? with
      | none => .error .blocked
      | some name =>
        if !isName name then .error .blocked
        else match tree.at? (folder.step name) with
          | some .folder => if content == .folder then .ok tree else .error .blocked
          | _ => .ok (tree.put (folder.step name) content)

/-- The tree with a text in a file. -/
def write (tree : FileTree) (path text : String) : Except FileFault FileTree :=
  tree.place path (.text text)

/-- The tree without what a path leads to. -/
def remove (tree : FileTree) (path : String) : FileTree :=
  match tree.walk (Place.start path) (Path.names path) with
  | .error _ => tree
  | .ok place => ⟨tree.entries.filter fun (other, _) => !place.isPrefixOf other⟩

end FileTree

end EntityPipeline
