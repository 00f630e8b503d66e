/-
**Where a run writes.**

A run writes at most one file, and the path of it is joined of the directory that the command means
and a name made of the project's. The name of a project that comes from the input path, or from the
sample, has no slash, and so the file is a direct child of the directory. The name that a document
gives to its project is taken as it stands: if there is a slash in it, then the file is no child of
the directory, and `../` leads out of it.

* `Command.slash_mem_project_iff`: only a document can bring a slash into the name.
* `FileTree.locate_join`: the place of a name without a slash is right below its directory.
* `Command.StaysBelow`: in a file tree, no place outside the directory has changed.
* `FileSystem.run_destination`: where a run writes, and when that is in the directory.
-/

import TypeChart.Json.Reader
import TypeChart.Proofs.Command.Courses
import TypeChart.Proofs.Mermaid.FileName
import TypeChart.Proofs.Path
import TypeChart.Proofs.Writing

namespace TypeChart

/-! ### Names of files -/

namespace Command

/-- What is added to the name of a project brings no slash. -/
theorem slash_mem_fileName_iff (options : Options) (project : String) :
    '/' ∈ (options.fileName project).toList ↔ '/' ∈ project.toList :=
  Options.mem_fileName_iff (by decide) options project

/-- The name of a project has a slash only if its document gives it one. -/
theorem slash_mem_project_iff (command : Command) (snapshot : Snapshot) :
    '/' ∈ (command.project snapshot).toList ↔ '/' ∈ snapshot.project.toList := by
  unfold project
  split
  · exact Iff.rfl
  · rename_i unnamed
    rw [not_not.mp unnamed]
    split
    · simp
    · exact iff_of_false (Path.slash_notMem_stem command.input) (by simp)

end Command

/-! ### Places below directories -/

namespace FileTree

variable {tree : FileTree} {place : Place} {directory name : String}

/-- An empty name at the end leads no further. -/
theorem walk_concat_empty (place : Place) (names : List String) :
    tree.walk place (names ++ [""]) = tree.walk place names := by
  induction names generalizing place with
  | nil => simp [walk]
  | cons name rest ih => simp only [List.cons_append, walk, ih]

theorem walk_names_join (bare : '/' ∉ name.toList) (start : Place) :
    tree.walk start (Path.names (Path.join directory name)).dropLast =
      tree.walk start (Path.names directory) := by
  have empty : Path.names "" = [""] := Path.names_of_bare (by simp)
  rw [Path.join_of_bare bare]
  rcases Path.lead_cases directory with ⟨rfl, leads⟩ | ⟨front, rfl, leads⟩ | ⟨_, leads⟩
  · rw [leads, String.empty_append, Path.names_of_bare bare, empty]
    exact (walk_concat_empty start []).symm
  · have slash : front ++ "/" = front ++ "/" ++ "" := String.append_empty.symm
    rw [leads, Path.names_append_slash, Path.names_of_bare bare, List.dropLast_concat]
    rw [slash, Path.names_append_slash, empty, walk_concat_empty]
  · rw [leads, Path.names_append_slash, Path.names_of_bare bare, List.dropLast_concat]

/-- A name without a slash that is joined to a directory means a place right below it. -/
theorem locate_join (bare : '/' ∉ name.toList) (clean : '\x00' ∉ directory.toList)
    (located : tree.locate (Path.join directory name) = some place) :
    tree.directoryAt? directory = some place.dropLast := by
  -- a null character can only cut the name, and what is left of that has no slash either
  have bareTaken := Path.slash_notMem_taken bare
  obtain ⟨parent, leads, rfl⟩ := exists_parent_of_locate located
  rw [Path.taken_join bare clean, walk_names_join bareTaken, Path.isAbsolute_join bareTaken]
    at leads
  rw [List.dropLast_concat]
  exact leads

end FileTree

/-! ### Every run -/

namespace Command

variable {σ : Type} {parser : Json.Parser} {files : FileSystem σ} {state after : σ} {command : Command}
  {outcome : Outcome}

/-- A run of a command writes nothing, or one document to one path. -/
structure WritesOnce (parser : Json.Parser) (files : FileSystem σ) (state : σ) (command : Command)
    (after : σ) : Prop where
  nowhere : command.snapshot? parser files state = none ∨ command.directory? files state = none →
    after = state
  somewhere : ∀ snapshot directory, command.snapshot? parser files state = some snapshot →
    command.directory? files state = some directory →
    ∃ isWritten, files.write state
      (Path.join directory (command.options.fileName (command.project snapshot)))
      (command.documentText snapshot) = (isWritten, after)

theorem Takes.writesOnce (takes : command.Takes parser files state outcome after) :
    command.WritesOnce parser files state after where
  nowhere := takes.after_eq_of_none
  somewhere _ _ := takes.exists_write_eq

/-- A command writes the document of a snapshot to a direct child of a directory. -/
def WritesChild (command : Command) (directory : String) (snapshot : Snapshot) : Prop :=
  Path.IsChild directory (command.options.fileName (command.project snapshot))
    (Path.join directory (command.options.fileName (command.project snapshot)))

/-- Where a document goes is a direct child of the directory exactly if it gives its project a name
without a slash. -/
theorem writesChild_iff (command : Command) (directory : String) (snapshot : Snapshot) :
    command.WritesChild directory snapshot ↔ '/' ∉ snapshot.project.toList := by
  rw [WritesChild, Path.isChild_join_iff, slash_mem_fileName_iff, slash_mem_project_iff]

/-- In a file tree, what does not stand right below the directory of a command is as it was. -/
def StaysBelow (tree : FileTree) (command : Command) (after : FileTree) : Prop :=
  ∀ directory, command.directory? FileTree.system tree = some directory →
    ∀ place, tree.directoryAt? directory ≠ some place.dropLast →
      after.get? place = tree.get? place

/-- A document can only lead a run elsewhere by a slash in the name of its project. -/
theorem WritesOnce.staysBelow {tree after : FileTree}
    (once : command.WritesOnce parser FileTree.system tree after)
    (bare : ∀ snapshot, command.snapshot? parser FileTree.system tree = some snapshot →
      '/' ∉ snapshot.project.toList)
    (clean : ∀ directory, command.directory? FileTree.system tree = some directory →
      '\x00' ∉ directory.toList) : command.StaysBelow tree after := by
  intro directory found place elsewhere
  cases loaded : command.snapshot? parser FileTree.system tree with
  | none => rw [once.nowhere (.inl loaded)]
  | some snapshot =>
    obtain ⟨_, written⟩ := once.somewhere snapshot directory loaded found
    dsimp only [FileTree.system] at written
    refine FileTree.get?_of_write written fun located => elsewhere ?_
    refine FileTree.locate_join ?_ (clean directory found) located
    rw [slash_mem_fileName_iff, slash_mem_project_iff]
    exact bare snapshot loaded

end Command

namespace FileSystem

/-- **Where a run writes.** It writes to one path or not at all, and what that path leads to is a
direct child of the directory exactly if the project has a name without a slash; in a file tree no
other place than those right below the directory is changed then. -/
theorem run_destination {σ : Type} (parser : Json.Parser) (files : FileSystem σ) (state : σ)
    (tree : FileTree) (first : String) (rest : List String) :
    (files.run parser state []).2 = state ∧
    (Command.ofArguments first rest).WritesOnce parser files state
      (files.run parser state (first :: rest)).2 ∧
    (∀ (directory : String) (snapshot : Snapshot),
      (Command.ofArguments first rest).WritesChild directory snapshot ↔
        '/' ∉ snapshot.project.toList) ∧
    ((∀ snapshot,
        (Command.ofArguments first rest).snapshot? parser FileTree.system tree = some snapshot →
        '/' ∉ snapshot.project.toList) →
      (∀ directory,
        (Command.ofArguments first rest).directory? FileTree.system tree = some directory →
        '\x00' ∉ directory.toList) →
      (Command.ofArguments first rest).StaysBelow tree
        (FileTree.system.run parser tree (first :: rest)).2) :=
  ⟨rfl, (Command.takes_execute parser files state _).writesOnce, Command.writesChild_iff _,
    (Command.takes_execute parser FileTree.system tree _).writesOnce.staysBelow⟩

end FileSystem

/-! ### A project that stays, and one that leads out -/

namespace Sample

/-- A document whose project has a name that leads out of a directory. -/
def upwardText : String :=
  "\x7b\"project\":\"../up\",\"sources\":[]\x7d"

/-- The snapshot that the document means. -/
def upward : Snapshot where
  project := "../up"

theorem read_upwardText : Snapshot.read Json.parser upwardText = .ok upward := by
  have value : Json.readValue
      ['\x7b', '"', 'p', 'r', 'o', 'j', 'e', 'c', 't', '"', ':', '"', '.', '.', '/', 'u', 'p', '"',
        ',', '"', 's', 'o', 'u', 'r', 'c', 'e', 's', '"', ':', '[', ']', '\x7d'] =
      .ok (.object
        [(String.ofList ['p', 'r', 'o', 'j', 'e', 'c', 't'],
            .string (String.ofList ['.', '.', '/', 'u', 'p'])),
          (String.ofList ['s', 'o', 'u', 'r', 'c', 'e', 's'], .array [])], ⟨[], by simp⟩) := by
    cbv
  have isRead : Json.read upwardText = .ok _ :=
    Json.read_of_readValue (by simp [upwardText, Json.skipBlanks, Json.isBlank]) value rfl
  rw [Snapshot.read_of_ok (Json.parser_eq_ok isRead)]
  rfl

/-- A place to work at, with that document and a directory for the output. -/
def office : FileTree where
  entries :=
    [(["work"], .directory), (["work", "out"], .directory),
      (["work", "in.json"], .file upwardText)]
  current := ["work"]

/-- The command that draws the document into that directory. -/
def upwardCommand : Command :=
  Command.ofArguments "in.json" ["--outputDir", "out"]

theorem snapshot?_upwardCommand :
    upwardCommand.snapshot? Json.parser FileTree.system office = some upward := by
  have opened : FileTree.system.read office upwardCommand.input = .text upwardText := by
    decide +kernel
  rw [Command.snapshot?_of_text rfl opened, read_upwardText]
  rfl

end Sample

namespace FileSystem

open Sample

/-- The sample has a project without a slash, and what stands beside the directory for the output
stays as it is. -/
theorem run_destination_office :
    upwardCommand.WritesChild "out" zoo ∧
    (FileTree.system.run Json.parser office ["--sample", "--outputDir", "out"]).2.get? ["work", "in.json"] =
      some (.file upwardText) := by
  obtain ⟨_, _, children, _⟩ :=
    run_destination Json.parser FileTree.system office office "in.json" ["--outputDir", "out"]
  obtain ⟨_, _, _, below⟩ :=
    run_destination Json.parser FileTree.system office office "--sample" ["--outputDir", "out"]
  have kept := below
    (fun snapshot isLoaded => by
      obtain rfl := Option.some.inj isLoaded
      decide +kernel)
    (fun directory isFound => by
      obtain rfl := Option.some.inj isFound
      decide +kernel)
    "out" (by decide +kernel) ["work", "in.json"] (by decide +kernel)
  exact ⟨(children "out" zoo).mpr (by decide +kernel), kept.trans (by decide +kernel)⟩

/-- The document is not written to a child of the directory for the output, but beside it. -/
theorem run_upward :
    upwardCommand.outputPath "out" upward = "out/../up.md" ∧
    ¬ upwardCommand.WritesChild "out" upward ∧
    office.directoryAt? "out" = some ["work", "out"] ∧
    office.get? ["work", "up.md"] = none ∧
    (FileTree.system.run Json.parser office ["in.json", "--outputDir", "out"]).2.get? ["work", "up.md"] =
      some (.file (upwardCommand.documentText upward)) := by
  have isPath : upwardCommand.outputPath "out" upward = "out/../up.md" := by decide +kernel
  have located : office.locate "out/../up.md" = some ["work", "up.md"] := by decide +kernel
  have free : office.get? ["work", "up.md"] = none := by decide +kernel
  have inside : office.get? ["work"] = some .directory := by decide +kernel
  have found : upwardCommand.directory? FileTree.system office = some "out" := by decide +kernel
  refine ⟨isPath, ?_, by decide +kernel, free, ?_⟩
  · rw [Command.writesChild_iff]
    exact not_not.mpr (by decide +kernel)
  · obtain ⟨_, written⟩ := (Command.takes_execute Json.parser FileTree.system office upwardCommand)
      |>.exists_write_eq snapshot?_upwardCommand found
    rw [isPath] at written
    show ((upwardCommand.execute Json.parser FileTree.system.host).run office).run.2.get? _ = _
    rw [← congrArg Prod.snd written]
    show (office.write "out/../up.md" _).2.get? _ = _
    rw [FileTree.write_of_free located free inside]
    exact FileTree.get?_put_same (by simp)

end FileSystem

end TypeChart
