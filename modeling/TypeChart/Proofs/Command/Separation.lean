/-
**Runs that keep apart.**

A run writes one file, below one directory, and its name is made of the project and the options. A
name below a directory means a place that ends in this name. So a run leaves alone what another
project, or the same project with other options, has in the directory, as long as the two projects
are plain: an underscore could stand for an option, a slash lead to another directory, and the
system would cut the name at a null character.

* `FileTree.getLast?_of_locate_join`: a place below a directory ends in the name that is joined.
* `Command.WritesOnce.keeps_neighbour`: what one write leaves alone.
* `FileSystem.run_keeps_apart`: names tell projects and options, and runs keep their files apart.
-/

import TypeChart.Proofs.Command.Destination

namespace TypeChart

/-! ### Places and names -/

/-- A place below a directory ends in the name that is joined to it. -/
theorem FileTree.getLast?_of_locate_join {tree : FileTree} {place : Place}
    {directory name : String} (bare : '/' ∉ name.toList) (nameClean : '\x00' ∉ name.toList)
    (clean : '\x00' ∉ directory.toList)
    (located : tree.locate (Path.join directory name) = some place) :
    place.getLast? = some name := by
  obtain ⟨parent, _, rfl⟩ := exists_parent_of_locate located
  rw [List.getLast?_concat, Path.taken_join bare clean, Path.taken_of_clean nameClean,
    (Path.isChild_join_iff.mpr bare).lastName_eq]

/-! ### Files of other projects -/

/-- A name that stays one name in a path, and has no underscore. -/
def IsPlainName (name : String) : Prop :=
  '_' ∉ name.toList ∧ '/' ∉ name.toList ∧ '\x00' ∉ name.toList

instance (name : String) : Decidable (IsPlainName name) :=
  inferInstanceAs (Decidable (_ ∧ _))

/-- A place below a directory tells the plain project and the options that its file is named
after. -/
theorem FileTree.getLast?_of_locate_fileName {tree : FileTree} {place : Place}
    {directory project : String} {options : Options} (plain : IsPlainName project)
    (clean : '\x00' ∉ directory.toList)
    (located : tree.locate (Path.join directory (options.fileName project)) = some place) :
    place.getLast? = some (options.fileName project) := by
  obtain ⟨_, bare, projectClean⟩ := plain
  refine getLast?_of_locate_join ?_ ?_ clean located
  · rwa [Options.mem_fileName_iff (by decide)]
  · rwa [Options.mem_fileName_iff (by decide)]

namespace Command

variable {parser : Json.Parser} {tree after : FileTree} {command : Command} {snapshot : Snapshot} {directory : String}

/-- **A run leaves the files of others alone**: what is named after another plain project, or after
the same with other options. -/
theorem WritesOnce.keeps_neighbour (once : command.WritesOnce parser FileTree.system tree after)
    (loaded : command.snapshot? parser FileTree.system tree = some snapshot)
    (found : command.directory? FileTree.system tree = some directory)
    (clean : '\x00' ∉ directory.toList) (plain : IsPlainName (command.project snapshot))
    {options : Options} {project : String} (otherPlain : IsPlainName project)
    (apart : ¬ (project = command.project snapshot ∧ options = command.options)) {place : Place}
    (located : tree.locate (Path.join directory (options.fileName project)) = some place) :
    after.get? place = tree.get? place := by
  obtain ⟨_, written⟩ := once.somewhere snapshot directory loaded found
  dsimp only [FileTree.system] at written
  refine FileTree.get?_of_write written fun same => apart ?_
  have own := FileTree.getLast?_of_locate_fileName plain clean same
  have others := FileTree.getLast?_of_locate_fileName otherPlain clean located
  have names := Option.some.inj (others.symm.trans own)
  exact (Options.fileName_eq_iff otherPlain.1 plain.1).mp names

end Command

namespace FileSystem

/-- **Runs keep their files apart.** Of projects without an underscore, whatever else is in their
names, two names of files are the same exactly if the projects are, and all five options. In a file
tree, a run with a plain project leaves alone every place in its directory that is named after
another plain project, or after the same project with other options. -/
theorem run_keeps_apart :
    (∀ (first second : Options) (project other : String), '_' ∉ project.toList →
      '_' ∉ other.toList →
      (first.fileName project = second.fileName other ↔ project = other ∧ first = second)) ∧
    ∀ (parser : Json.Parser) (tree : FileTree) (argument : String) (arguments : List String)
      (snapshot : Snapshot) (directory : String),
      let command := Command.ofArguments argument arguments
      command.snapshot? parser FileTree.system tree = some snapshot →
      command.directory? FileTree.system tree = some directory →
      '\x00' ∉ directory.toList → IsPlainName (command.project snapshot) →
      ∀ (options : Options) (project : String), IsPlainName project →
        ¬ (project = command.project snapshot ∧ options = command.options) →
        ∀ place, tree.locate (Path.join directory (options.fileName project)) = some place →
          (FileTree.system.run parser tree (argument :: arguments)).2.get? place = tree.get? place := by
  refine ⟨fun _ _ _ _ => Options.fileName_eq_iff, ?_⟩
  intro parser tree argument arguments snapshot directory command loaded found clean plain options project
    otherPlain apart place located
  exact (Command.takes_execute parser FileTree.system tree command).writesOnce.keeps_neighbour loaded found
    clean plain otherPlain apart located

end FileSystem

namespace Sample

/-- A place to work at, where documents of the sample and of another project lie already. -/
def archive : FileTree where
  entries :=
    [(["work"], .directory), (["work", "Sample_NoEnums.md"], .file "without enumerations"),
      (["work", "Sample.md.md"], .file "of Sample.md")]
  current := ["work"]

end Sample

namespace FileSystem

open Sample

/-- The sample is drawn with all its kinds of box. What was drawn of it without enumerations stays,
and so does the document of a project that is called as its file. -/
theorem run_keeps_apart_archive :
    ({} : Options).fileName "Sample.md" ≠ ({} : Options).fileName "Sample" ∧
    (FileTree.system.run Json.parser archive ["--sample"]).2.get? ["work", "Sample_NoEnums.md"] =
      some (.file "without enumerations") ∧
    (FileTree.system.run Json.parser archive ["--sample"]).2.get? ["work", "Sample.md.md"] =
      some (.file "of Sample.md") := by
  obtain ⟨names, files⟩ := run_keeps_apart
  have loaded : (Command.ofArguments "--sample" []).snapshot? Json.parser FileTree.system archive =
      some zoo := rfl
  have found : (Command.ofArguments "--sample" []).directory? FileTree.system archive =
      some "/work" := by decide +kernel
  have keeps := files Json.parser archive "--sample" [] zoo "/work" loaded found (by decide) (by decide +kernel)
  refine ⟨fun same => ?_, ?_, ?_⟩
  · exact absurd ((names {} {} "Sample.md" "Sample" (by decide) (by decide)).mp same).1 (by decide)
  · have kept := keeps { hideEnums := true } "Sample" (by decide) (by decide +kernel)
      ["work", "Sample_NoEnums.md"] (by decide +kernel)
    exact kept.trans (by decide +kernel)
  · have kept := keeps {} "Sample.md" (by decide) (by decide +kernel)
      ["work", "Sample.md.md"] (by decide +kernel)
    exact kept.trans (by decide +kernel)

end FileSystem

end TypeChart
