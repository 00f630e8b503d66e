/-
**File trees.**

A `FileTree` is a file system small enough to reason about: directories, text files and devices at
places below one root, and a current directory, which may have been removed. It says what becomes
of a path that a program opens.

* `FileTree.locate`: the place of a path, whose directories must all exist.
* `FileTree.read`, `FileTree.write`: what opening a path for reading or for writing does.
-/

import TypeChart.Path

namespace TypeChart

/-- What a program gets of a path that it opens for reading. -/
inductive FileReading where
  /-- The path cannot be opened. -/
  | unopened
  /-- It is open, but its reading breaks off, as that of a directory does. -/
  | broken
  /-- It is read to its end. -/
  | text (content : String)
  deriving DecidableEq, Repr

/-- A place in a file tree: the names on the way from the root. -/
abbrev Place := List String

/-- What can stand at a place. -/
inductive FileTree.Entry where
  | directory
  | file (text : String)
  /-- A device reads as an empty text; it takes every text, or none but the empty one. -/
  | device (isFull : Bool)
  deriving DecidableEq, Repr

/-- A file system with a current directory. -/
structure FileTree where
  /-- What stands below the root; of several entries for one place, the first counts. -/
  entries : List (Place × FileTree.Entry) := []
  current : Place := []
  deriving DecidableEq, Repr, Inhabited

namespace FileTree

def get? (tree : FileTree) (place : Place) : Option Entry :=
  if place = [] then some .directory else tree.entries.lookup place

/-- The tree with an entry put at a place. -/
def put (tree : FileTree) (place : Place) (entry : Entry) : FileTree :=
  { tree with entries := (place, entry) :: tree.entries.filter fun other => other.1 != place }

theorem get?_put_same {tree : FileTree} {place : Place} {entry : Entry} (below : place ≠ []) :
    (tree.put place entry).get? place = some entry := by
  simp [get?, put, below]

theorem lookup_without {place other : Place} (apart : other ≠ place)
    (entries : List (Place × Entry)) :
    (entries.filter fun entry => entry.1 != place).lookup other = entries.lookup other := by
  induction entries with
  | nil => rfl
  | cons first rest ih =>
    by_cases same : first.1 = place
    · have missed : (other == first.1) = false := beq_false_of_ne (same ▸ apart)
      rw [List.filter_cons_of_neg (by simp [same]), List.lookup_cons, missed]
      exact ih
    · rw [List.filter_cons_of_pos (by simp [same]), List.lookup_cons, List.lookup_cons, ih]

theorem get?_put_other {tree : FileTree} {place other : Place} {entry : Entry}
    (apart : other ≠ place) : (tree.put place entry).get? other = tree.get? other := by
  have missed : (other == place) = false := beq_false_of_ne apart
  simp only [get?, put, List.lookup_cons, missed, lookup_without apart]

/-! ### Paths -/

/-- The longest name that can be given to an entry, in bytes. -/
def nameLimit : Nat := 255

/-- The longest path that can be opened, in bytes. -/
def pathLimit : Nat := 4095

/-- The directory that names lead to from a directory. Every name must be that of a directory;
an empty name and `.` stay, and `..` goes up as far as the root. -/
def walk (tree : FileTree) (place : Place) : List String → Option Place
  | [] => some place
  | name :: rest =>
    if name = "" ∨ name = "." then tree.walk place rest
    else if name = ".." then tree.walk place.dropLast rest
    else if tree.get? (place ++ [name]) = some .directory then tree.walk (place ++ [name]) rest
    else none

/-- The place that an opened path means. A path whose last name can only be a directory's means
none. -/
def locate (tree : FileTree) (path : String) : Option Place :=
  let path := Path.taken path
  let names := Path.names path
  let start := if Path.isAbsolute path then [] else tree.current
  let last := Path.lastName path
  if path.utf8ByteSize > pathLimit ∨ last.utf8ByteSize > nameLimit then none
  else if last = "" ∨ last = "." ∨ last = ".." then none
  else (tree.walk start names.dropLast).map fun directory => directory ++ [last]

/-- The place that a path means stands in the directory that the names before the last one lead
to, and it ends in the last one. -/
theorem exists_parent_of_locate {tree : FileTree} {path : String} {place : Place}
    (located : tree.locate path = some place) :
    ∃ parent,
      tree.walk (if Path.isAbsolute (Path.taken path) then [] else tree.current)
          (Path.names (Path.taken path)).dropLast = some parent ∧
        place = parent ++ [Path.lastName (Path.taken path)] := by
  unfold locate at located
  dsimp only at located
  split at located
  · cases located
  · split at located
    · cases located
    · obtain ⟨parent, leads, rfl⟩ := Option.map_eq_some_iff.mp located
      exact ⟨parent, leads, rfl⟩

/-- The directory that a path leads to. -/
def directoryAt? (tree : FileTree) (path : String) : Option Place :=
  tree.walk (if Path.isAbsolute path then [] else tree.current) (Path.names path)

/-- Whether a path can be opened as that of a directory. -/
def opensDirectory (tree : FileTree) (path : String) : Bool :=
  path ≠ "" && path.utf8ByteSize ≤ pathLimit && (tree.directoryAt? path).isSome

/-! ### Files -/

/-- What reading a path gives. A directory can be opened, by any path that leads to it, but not
read. -/
def read (tree : FileTree) (path : String) : FileReading :=
  match tree.locate path with
  | some place =>
    match tree.get? place with
    | some (.file text) => .text text
    | some (.device _) => .text ""
    | some .directory => .broken
    | none => .unopened
  | none => if tree.opensDirectory (Path.taken path) then .broken else .unopened

/-- The text of the file at a path, which must be a file and no device. -/
def fileText? (tree : FileTree) (path : String) : Option String := do
  let place ← tree.locate path
  match tree.get? place with
  | some (.file text) => some text
  | _ => none

/-- Writing a text to a path: whether that succeeds, and the tree after it. A file gets the text in
place of its own, and where nothing stands a file is made if its directory exists. -/
def write (tree : FileTree) (path text : String) : Bool × FileTree :=
  match tree.locate path with
  | none => (false, tree)
  | some place =>
    match tree.get? place with
    | some .directory => (false, tree)
    | some (.device isFull) => (!isFull || text.isEmpty, tree)
    | some (.file _) => (true, tree.put place (.file text))
    | none =>
      if tree.get? place.dropLast = some .directory then (true, tree.put place (.file text))
      else (false, tree)

end FileTree

end TypeChart
