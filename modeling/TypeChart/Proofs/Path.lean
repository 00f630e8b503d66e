/-
**Names below directories.**

A path that is joined of a directory and a name should lead to that name in that directory. As a
text it does so, up to slashes at the end of the directory, exactly if there is no slash in the
name: an absolute name replaces the directory, and any other slash makes the name lead further, down
or up.

* `Path.IsChild`: what is expected of a joined path.
* `Path.isChild_join_iff`: a name is a child of every directory exactly if it has no slash.
* `Path.slash_notMem_stem`: the stem of a path has none.
* `Path.taken_join`: what the system takes of a joined path.
-/

import Mathlib.Data.List.DropRight
import TypeChart.Path

namespace TypeChart.Path

/-! ### Definitions -/

/-- A path without the slashes at its end; if there is nothing else in it, one slash stays. -/
def trimmed (path : String) : String :=
  let kept := path.toList.rdropWhile (· == '/')
  String.ofList (if kept = [] then path.toList.take 1 else kept)

/-- What a path is below of: all before its last name, without slashes at the end. -/
def parent (path : String) : String :=
  trimmed (String.ofList (path.toList.rdropWhile (· != '/')))

/-- A path leads to a direct child of a directory, as far as can be told from the texts. -/
structure IsChild (directory name path : String) : Prop where
  parent_eq : parent path = trimmed directory
  lastName_eq : lastName path = name

/-- A directory as a path begins that leads below it. -/
def lead (directory : String) : String :=
  if directory.isEmpty || directory.toList.getLast? == some '/' then directory
  else directory ++ "/"

variable {directory name path : String}

/-! ### The last name -/

theorem names_of_bare (bare : '/' ∉ name.toList) : names name = [name] := by
  rw [names, List.splitOn_eq_singleton bare, List.map_singleton, String.ofList_toList]

/-- The names of a path up to a slash and those from there on. -/
theorem names_append_slash (front back : String) :
    names (front ++ "/" ++ back) = names front ++ names back := by
  have letters : (front ++ "/" ++ back).toList = front.toList ++ '/' :: back.toList := by
    simp [String.toList_append]
  rw [names, letters, List.splitOn_append_cons_self, List.map_append, names, names]

theorem slash_notMem_of_mem_splitOn {letters piece : List Char}
    (isPiece : piece ∈ letters.splitOn '/') : '/' ∉ piece := by
  induction letters generalizing piece with
  | nil =>
    rw [List.splitOn_nil, List.mem_singleton] at isPiece
    rw [isPiece]
    exact List.not_mem_nil
  | cons c rest ih =>
    rw [List.splitOn_cons_eq_if_modifyHead] at isPiece
    by_cases slash : c = '/'
    · rw [if_pos (beq_iff_eq.mpr slash)] at isPiece
      rcases List.mem_cons.mp isPiece with rfl | later
      · exact List.not_mem_nil
      · exact ih later
    · -- the letter comes in front of the first piece of the rest
      rw [if_neg (by simpa using slash)] at isPiece
      cases pieces : rest.splitOn '/' with
      | nil => exact absurd pieces (List.splitOn_ne_nil _ _)
      | cons first later =>
        rw [pieces] at ih isPiece
        rcases List.mem_cons.mp isPiece with rfl | isLater
        · intro member
          rcases List.mem_cons.mp member with same | inFirst
          · exact slash same.symm
          · exact ih List.mem_cons_self inFirst
        · exact ih (List.mem_cons_of_mem first isLater)

/-- There is no slash in the last name of a path. -/
theorem slash_notMem_lastName (path : String) : '/' ∉ (lastName path).toList := by
  unfold lastName
  cases isLast : (names path).getLast? with
  | none => simp
  | some piece =>
    obtain ⟨letters, isPiece, rfl⟩ := List.mem_map.mp (List.mem_of_getLast? isLast)
    rw [Option.getD_some, String.toList_ofList]
    exact slash_notMem_of_mem_splitOn isPiece

theorem mem_of_mem_withoutExtension {c : Char} (member : c ∈ (withoutExtension name).toList) :
    c ∈ name.toList := by
  unfold withoutExtension at member
  dsimp only at member
  split at member
  · exact member
  · split at member
    · rename_i first rest cut
      rw [String.toList_ofList, List.mem_reverse] at member
      have inDropped := List.mem_cons_of_mem '.' member
      rw [← cut] at inDropped
      exact List.mem_reverse.mp (List.mem_of_mem_drop inDropped)
    · exact member

/-- There is no slash in the stem of a path. -/
theorem slash_notMem_stem (path : String) : '/' ∉ (stem path).toList :=
  fun member => slash_notMem_lastName path (mem_of_mem_withoutExtension member)

/-! ### Joining -/

theorem isAbsolute_of_bare (bare : '/' ∉ name.toList) : isAbsolute name = false := by
  unfold isAbsolute
  cases letters : name.toList with
  | nil => rfl
  | cons first rest =>
    rw [letters] at bare
    rw [List.head?_cons]
    exact beq_false_of_ne fun same => bare (Option.some.inj same ▸ List.mem_cons_self)

/-- A name without a slash is joined to a directory by writing it behind. -/
theorem join_of_bare (bare : '/' ∉ name.toList) : join directory name = lead directory ++ name := by
  have relative : isAbsolute name ≠ true := by
    rw [isAbsolute_of_bare bare]
    exact nofun
  rw [join, if_neg relative, lead]
  split <;> rfl

/-- There are three kinds of directories: an empty one, one that ends in a slash, and one that is
to be followed by a slash. -/
theorem lead_cases (directory : String) :
    (directory = "" ∧ lead directory = "") ∨
    (∃ front, directory = front ++ "/" ∧ lead directory = front ++ "/") ∨
    (directory ≠ "" ∧ lead directory = directory ++ "/") := by
  by_cases empty : directory = ""
  · subst empty
    exact .inl ⟨rfl, rfl⟩
  · by_cases slash : directory.toList.getLast? = some '/'
    · obtain ⟨front, letters⟩ := List.getLast?_eq_some_iff.mp slash
      have cut : directory = String.ofList front ++ "/" := by
        rw [← String.toList_inj, String.toList_append, String.toList_ofList, letters]
        rfl
      refine .inr (.inl ⟨String.ofList front, cut, ?_⟩)
      rw [lead, if_pos (by simp [slash]), ← cut]
    · exact .inr (.inr ⟨empty, by rw [lead, if_neg (by simp [slash, empty])]⟩)

theorem lastName_of_bare (bare : '/' ∉ name.toList) : lastName name = name := by
  rw [lastName, names_of_bare bare]
  rfl

theorem lastName_append_slash (bare : '/' ∉ name.toList) (front : String) :
    lastName (front ++ "/" ++ name) = name := by
  rw [lastName, names_append_slash, names_of_bare bare, List.getLast?_concat, Option.getD_some]

/-- Slashes at the end of a path do not count, unless there is nothing else. -/
theorem trimmed_append_slash (nonempty : path ≠ "") : trimmed (path ++ "/") = trimmed path := by
  have letters : (path ++ "/").toList = path.toList ++ ['/'] := String.toList_append
  have shorter : path.toList ≠ [] := fun empty => nonempty (String.toList_eq_nil_iff.mp empty)
  rw [trimmed, trimmed, letters, List.rdropWhile_concat_pos _ _ _ (by rfl),
    List.take_append_of_le_length (List.length_pos_of_ne_nil shorter)]

/-- The last name of a path is taken away as a whole. -/
theorem rdropWhile_append_of_bare {letters : List Char} (bare : '/' ∉ letters)
    (front : List Char) :
    (front ++ letters).rdropWhile (· != '/') = front.rdropWhile (· != '/') := by
  have ofName : ∀ c ∈ letters.reverse, (c != '/') = true := fun c member =>
    bne_iff_ne.mpr fun same => bare (same ▸ List.mem_reverse.mp member)
  rw [List.rdropWhile, List.reverse_append, List.dropWhile_append_of_pos ofName, List.rdropWhile]

theorem parent_append_slash (bare : '/' ∉ name.toList) (front : String) :
    parent (front ++ "/" ++ name) = trimmed (front ++ "/") := by
  have letters : (front ++ "/").toList = front.toList ++ ['/'] := String.toList_append
  rw [parent, String.toList_append, rdropWhile_append_of_bare bare, letters,
    List.rdropWhile_concat_neg _ _ _ (by decide), ← letters, String.ofList_toList]

theorem parent_of_bare (bare : '/' ∉ name.toList) : parent name = trimmed "" := by
  have dropped := rdropWhile_append_of_bare bare []
  rw [List.nil_append] at dropped
  rw [parent, dropped]
  rfl

/-- **A name is a child of a directory exactly if it has no slash.** -/
theorem isChild_join_iff : IsChild directory name (join directory name) ↔ '/' ∉ name.toList := by
  constructor
  · intro child
    rw [← child.lastName_eq]
    exact slash_notMem_lastName _
  · intro bare
    rw [join_of_bare bare]
    rcases lead_cases directory with ⟨rfl, leads⟩ | ⟨front, rfl, leads⟩ | ⟨nonempty, leads⟩
    · rw [leads, String.empty_append]
      exact ⟨parent_of_bare bare, lastName_of_bare bare⟩
    · rw [leads]
      exact ⟨parent_append_slash bare front, lastName_append_slash bare front⟩
    · rw [leads]
      exact ⟨(parent_append_slash bare directory).trans (trimmed_append_slash nonempty),
        lastName_append_slash bare directory⟩

/-! ### What the system takes of a path -/

theorem taken_append {front : String} (clean : '\x00' ∉ front.toList) (back : String) :
    taken (front ++ back) = front ++ taken back := by
  have before : ∀ c ∈ front.toList, (c != '\x00') = true := fun c member =>
    bne_iff_ne.mpr fun same => clean (same ▸ member)
  rw [taken, taken, String.toList_append, List.takeWhile_append_of_pos before, String.ofList_append,
    String.ofList_toList]

theorem taken_of_clean (clean : '\x00' ∉ path.toList) : taken path = path := by
  have whole := taken_append clean ""
  have none : taken "" = "" := rfl
  rwa [none, String.append_empty] at whole

theorem slash_notMem_taken (bare : '/' ∉ name.toList) : '/' ∉ (taken name).toList := by
  intro member
  rw [taken, String.toList_ofList] at member
  exact bare ((List.takeWhile_prefix _).subset member)

theorem clean_lead (clean : '\x00' ∉ directory.toList) : '\x00' ∉ (lead directory).toList := by
  unfold lead
  split
  · exact clean
  · simpa [String.toList_append] using clean

/-- Below a directory the system takes as much of a name as it would take of the name alone. -/
theorem taken_join (bare : '/' ∉ name.toList) (clean : '\x00' ∉ directory.toList) :
    taken (join directory name) = join directory (taken name) := by
  rw [join_of_bare bare, join_of_bare (slash_notMem_taken bare), taken_append (clean_lead clean)]

theorem isAbsolute_append {front : String} (nonempty : front ≠ "") (back : String) :
    isAbsolute (front ++ back) = isAbsolute front := by
  rw [isAbsolute, isAbsolute, String.toList_append, List.head?_append_of_ne_nil]
  exact fun empty => nonempty (String.toList_eq_nil_iff.mp empty)

theorem isAbsolute_join (bare : '/' ∉ name.toList) (directory : String) :
    isAbsolute (join directory name) = isAbsolute directory := by
  rw [join_of_bare bare]
  rcases lead_cases directory with ⟨rfl, leads⟩ | ⟨front, rfl, leads⟩ | ⟨nonempty, leads⟩
  · rw [leads, String.empty_append, isAbsolute_of_bare bare]
    rfl
  · rw [leads]
    exact isAbsolute_append (by simp) name
  · rw [leads, String.append_assoc]
    exact isAbsolute_append nonempty _

end TypeChart.Path
