/-
**Writing to a file tree.**

A text that was written can be read back from where it was written, unless that is a device, which
keeps nothing. But where it was written need not be where the path says: the system takes a path
only up to its first null character, and no file has a path with one in it. Writing makes no
directory and removes none, so a path means the same place before and after, and whatever stands at
any other place stays as it was.

* `FileTree.fileText?_of_write`: what was written is there.
* `FileTree.holds_iff_of_write`: when it is in a file of the path that was given.
* `FileTree.get?_of_write`: nothing else has changed.
-/

import TypeChart.FileTree

namespace TypeChart.FileTree

/-- A path that leads to a device. -/
def IsDevice (tree : FileTree) (path : String) : Prop :=
  ∃ place isFull, tree.locate path = some place ∧ tree.get? place = some (.device isFull)

/-- There is a file of this path, and it holds exactly this text. No file has a null character in
its path. -/
def Holds (tree : FileTree) (path text : String) : Prop :=
  '\x00' ∉ path.toList ∧ tree.fileText? path = some text

variable {tree after : FileTree} {place : Place} {path text : String}

/-- A file that is put where no directory stands hides no directory. -/
theorem get?_put_file_eq_directory_iff (below : place ≠ [])
    (noDirectory : tree.get? place ≠ some .directory) (other : Place) :
    (tree.put place (.file text)).get? other = some .directory ↔
      tree.get? other = some .directory := by
  by_cases same : other = place
  · rw [same, get?_put_same below]
    exact ⟨nofun, fun isDirectory => absurd isDirectory noDirectory⟩
  · rw [get?_put_other same]

theorem walk_put_file (below : place ≠ []) (noDirectory : tree.get? place ≠ some .directory)
    (start : Place) (names : List String) :
    (tree.put place (.file text)).walk start names = tree.walk start names := by
  induction names generalizing start with
  | nil => rfl
  | cons name rest ih =>
    simp only [walk, ih, get?_put_file_eq_directory_iff below noDirectory]

theorem locate_put_file (below : place ≠ []) (noDirectory : tree.get? place ≠ some .directory)
    (path : String) : (tree.put place (.file text)).locate path = tree.locate path := by
  simp only [locate, walk_put_file below noDirectory]
  rfl

/-- What a path means ends in a name, and so is not the root. -/
theorem ne_nil_of_locate (located : tree.locate path = some place) : place ≠ [] := by
  obtain ⟨parent, _, rfl⟩ := exists_parent_of_locate located
  exact List.append_ne_nil_of_right_ne_nil parent (List.cons_ne_nil _ _)

/-- Where nothing stands, a file is made if its directory exists. -/
theorem write_of_free (located : tree.locate path = some place) (free : tree.get? place = none)
    (inside : tree.get? place.dropLast = some .directory) (text : String) :
    tree.write path text = (true, tree.put place (.file text)) := by
  rw [write, located]
  simp only [free, inside, if_true]

/-- The three ways in which writing can go: it is refused, it goes to a device, or it makes a file
of the text. Only the last one changes the tree. -/
theorem write_cases (tree : FileTree) (path text : String) :
    tree.write path text = (false, tree) ∨
    (tree.IsDevice path ∧ (tree.write path text).2 = tree) ∨
    (∃ place, tree.locate path = some place ∧ tree.get? place ≠ some .directory ∧
      tree.write path text = (true, tree.put place (.file text))) := by
  unfold write
  cases located : tree.locate path with
  | none => exact .inl rfl
  | some place =>
    dsimp only
    cases found : tree.get? place with
    | some entry =>
      cases entry with
      | directory => exact .inl rfl
      | device isFull => exact .inr (.inl ⟨⟨place, isFull, located, found⟩, rfl⟩)
      | file old => exact .inr (.inr ⟨place, rfl, by simp [found], rfl⟩)
    | none =>
      dsimp only
      split
      · exact .inr (.inr ⟨place, rfl, by simp [found], rfl⟩)
      · exact .inl rfl

theorem fileText?_of_isDevice (device : tree.IsDevice path) : tree.fileText? path = none := by
  obtain ⟨place, isFull, located, found⟩ := device
  rw [fileText?, located, Option.bind_eq_bind, Option.bind_some, found]

/-- **A text that was written is there**, unless it went to a device. -/
theorem fileText?_of_write (written : tree.write path text = (true, after))
    (noDevice : ¬ tree.IsDevice path) : after.fileText? path = some text := by
  rcases tree.write_cases path text with
    refused | ⟨device, _⟩ | ⟨place, located, noDirectory, made⟩
  · rw [refused] at written
    cases written
  · exact absurd device noDevice
  · have below := ne_nil_of_locate located
    obtain ⟨_, rfl⟩ := Prod.mk.inj (made.symm.trans written)
    rw [fileText?, locate_put_file below noDirectory, located, Option.bind_eq_bind,
      Option.bind_some, get?_put_same below]

/-- Writing to a device leaves the tree as it is. -/
theorem eq_of_write_of_isDevice {isWritten : Bool}
    (written : tree.write path text = (isWritten, after)) (device : tree.IsDevice path) :
    after = tree := by
  obtain ⟨place, isFull, located, found⟩ := device
  rw [write, located] at written
  simp only [found] at written
  exact (Prod.mk.inj written).2.symm

/-- **A file of the path that was given holds what was written** exactly if the path has no null
character and no device is there. -/
theorem holds_iff_of_write (written : tree.write path text = (true, after)) :
    after.Holds path text ↔ '\x00' ∉ path.toList ∧ ¬ tree.IsDevice path := by
  constructor
  · rintro ⟨clean, isText⟩
    refine ⟨clean, fun device => ?_⟩
    rw [eq_of_write_of_isDevice written device, fileText?_of_isDevice device] at isText
    cases isText
  · rintro ⟨clean, noDevice⟩
    exact ⟨clean, fileText?_of_write written noDevice⟩

/-- **Writing changes nothing elsewhere.** -/
theorem get?_of_write {isWritten : Bool} (written : tree.write path text = (isWritten, after))
    (apart : tree.locate path ≠ some place) : after.get? place = tree.get? place := by
  rcases tree.write_cases path text with
    refused | ⟨_, kept⟩ | ⟨target, located, _, made⟩
  · obtain ⟨_, rfl⟩ := Prod.mk.inj (refused.symm.trans written)
    rfl
  · rw [written] at kept
    exact congrArg (get? · place) kept
  · obtain ⟨_, rfl⟩ := Prod.mk.inj (made.symm.trans written)
    refine get?_put_other fun same => apart ?_
    rw [located, same]

end TypeChart.FileTree
