/-
**What a run says and what it does.**

Of a run four things can be seen: its exit code, the error stream, the log and the file that it
leaves. They tell one story on every run, whatever the file system and the parser answer, except on
those whose input breaks off: a run succeeds exactly if its log holds no error, and then the log
ends in the path where the document went; it fails exactly if its log ends in an error; and one that
fails before there is anything to draw has changed nothing. An input that can be opened but not
read, such as a directory, aborts the run: it has changed nothing either, but it says nothing at
all, and its exit code is neither that of success nor that of failure.

The path at the end of the log is the one that was asked for. There is a file of this path, with the
document in it, unless the name of the project has brought a null character into the path, where the
system cuts it, or a device stands there.

* `Event.level_of_mem_document`: drawing a snapshot reports nothing grave.
* `Command.Accord`: what the four things agree in.
* `Command.Takes.accord`, `Command.not_accord_of_aborted`: in which courses they agree.
* `FileSystem.run_accord`: on which runs they agree, and when the file is where the log says.
-/

import TypeChart.Json.Reader
import TypeChart.Proofs.Command.Courses
import TypeChart.Proofs.Roster.Unresolved
import TypeChart.Proofs.Writing

namespace TypeChart

/-! ### Logs -/

/-- A log without an error. -/
def IsCalm (log : List Event) : Prop :=
  ∀ event ∈ log, event.level ≠ .error

/-- A log whose last event is an error. -/
def EndsInError (log : List Event) : Prop :=
  ∃ event, log.getLast? = some event ∧ event.level = .error

theorem isCalm_nil : IsCalm [] :=
  fun _ none => absurd none List.not_mem_nil

theorem EndsInError.not_isCalm {log : List Event} (ends : EndsInError log) : ¬ IsCalm log := by
  obtain ⟨event, isLast, isError⟩ := ends
  intro calm
  exact calm event (List.mem_of_getLast? isLast) isError

/-- What is shown of a log ends as the log does, unless that is hidden. -/
theorem getLast?_shownEvents {last : Event} (shown : last.level ≠ .debug) (verbose : Bool)
    (front : List Event) : (shownEvents verbose (front ++ [last])).getLast? = some last := by
  have kept : (verbose || last.level != .debug) = true := by simp [shown]
  rw [shownEvents, List.filter_append, List.filter_cons_of_pos (by exact kept), List.filter_nil,
    List.getLast?_concat]

theorem mem_of_mem_shownEvents {verbose : Bool} {log : List Event} {event : Event}
    (shown : event ∈ shownEvents verbose log) : event ∈ log :=
  (List.mem_filter.mp shown).1

namespace Event

/-- Drawing a snapshot has nothing to report but the types that are passed over. -/
theorem level_of_mem_document {snapshot : Snapshot} {options : Options} {event : Event}
    (reported : event ∈ (snapshot.document options).2) : event.level = .debug := by
  have ofClassifiers : event ∈ (snapshot.classifiers options.allAncestors).2 := reported
  rw [Snapshot.events_classifiers] at ofClassifiers
  rcases List.mem_append.mp ofClassifiers with ofType | ofTotal
  · obtain ⟨_, _, rfl⟩ := List.mem_map.mp ofType
    rfl
  · split at ofTotal
    · cases ofTotal
    · rw [List.mem_singleton.mp ofTotal]
      rfl

/-- No complaint reads like the announcement of a drawing. -/
theorem message_ne_drawing {event : Event} (grave : event.level = .warning ∨ event.level = .error)
    (project : String) : event.message ≠ (Event.drawing project).message := by
  intro same
  -- the announcement begins with a letter that no complaint begins with
  have first : event.message.toList.head? = some 'G' := by
    rw [same]
    show ("Generating Mermaid UML for project: " ++ project).toList.head? = some 'G'
    rw [String.toList_append]
    simp
  cases event with
  | unresolved | unresolvedTotal | drawing | saved => simp [level] at grave
  | _ =>
    unfold message at first
    simp [String.toList_append] at first

end Event

variable {σ : Type} {parser : Json.Parser} {files : FileSystem σ} {before after : σ}
  {outcome : Outcome}

namespace Command

variable {command : Command}

/-! ### The accord -/

/-- What the outcome of a run, and the state that it leaves, agree in with the command and with the
state that the run began in. -/
structure Accord (parser : Json.Parser) (files : FileSystem σ) (before : σ) (command : Command)
    (outcome : Outcome) (after : σ) : Prop where
  /-- Nothing is printed on the error stream. -/
  silent : outcome.ending.errorText = ""
  succeeds_iff : outcome.ending.exitCode = 0 ↔ IsCalm outcome.log
  fails_iff : outcome.ending.exitCode = 1 ↔ EndsInError outcome.log
  /-- Success means that the document of the right snapshot went to the right path, that this was
  the only writing, and that the path is the last word. -/
  saved : outcome.ending.exitCode = 0 → ∃ snapshot directory path,
    command.snapshot? parser files before = some snapshot ∧
    command.directory? files before = some directory ∧
    path = Path.join directory (command.options.fileName
      (if snapshot.project ≠ "" then snapshot.project
        else if command.useSample then "Sample"
        else Path.stem command.input)) ∧
    outcome.log.getLast?.map Event.message = some ("UML diagram saved to: " ++ path) ∧
    files.write before path (snapshot.document command.options).1 = (true, after)
  /-- Nothing but the three known causes makes a run fail. -/
  succeeds : ∀ snapshot directory,
    command.snapshot? parser files before = some snapshot →
    command.directory? files before = some directory →
    (files.write before (command.outputPath directory snapshot)
      (command.documentText snapshot)).1 = true →
    outcome.ending.exitCode = 0
  /-- A run with nothing to draw, or with no place for it, draws nothing and changes nothing. -/
  untouched : command.snapshot? parser files before = none ∨ command.directory? files before = none →
    outcome.ending.exitCode = 1 ∧ after = before ∧
    ∀ event ∈ outcome.log, ∀ project,
      event.message ≠ "Generating Mermaid UML for project: " ++ project

theorem isCalm_drawingEvents (snapshot : Snapshot) : IsCalm (command.drawingEvents snapshot) := by
  intro event reported
  rcases List.mem_cons.mp reported with rfl | ofDocument
  · exact nofun
  · rw [Event.level_of_mem_document ofDocument]
    exact nofun

/-- A run that ends in an error is in accord if there was nothing that could have been written, and
if it was quiet as long as there was nothing to draw. -/
theorem accord_of_error {ending : Ending} {front : List Event} {last : Event}
    (fails : ending.exitCode = 1) (silent : ending.errorText = "") (isError : last.level = .error)
    (unwritten : ∀ snapshot directory, command.snapshot? parser files before = some snapshot →
      command.directory? files before = some directory →
      (files.write before (command.outputPath directory snapshot)
        (command.documentText snapshot)).1 = false)
    (untouched : command.snapshot? parser files before = none ∨ command.directory? files before = none →
      after = before ∧ ∀ event ∈ front ++ [last], event.level = .warning ∨ event.level = .error) :
    command.Accord parser files before ⟨ending, shownEvents command.verbose (front ++ [last])⟩ after := by
  have shown : last.level ≠ .debug := by
    rw [isError]
    exact nofun
  have ends : EndsInError (shownEvents command.verbose (front ++ [last])) :=
    ⟨last, getLast?_shownEvents shown command.verbose front, isError⟩
  have notZero : ending.exitCode ≠ 0 := by
    rw [fails]
    exact nofun
  refine ⟨silent, iff_of_false notZero ends.not_isCalm, iff_of_true fails ends,
    fun zero => absurd zero notZero, fun snapshot directory loaded found written => ?_,
    fun missing => ?_⟩
  · rw [unwritten snapshot directory loaded found] at written
    cases written
  · rcases untouched missing with ⟨same, grave⟩
    exact ⟨fails, same, fun event shown =>
      Event.message_ne_drawing (grave event (mem_of_mem_shownEvents shown))⟩

/-- **In every course but one the four things agree.** -/
theorem Takes.accord (takes : command.Takes parser files before outcome after)
    (whole : ¬ command.BreaksOff files before) :
    command.Accord parser files before
      { outcome with log := shownEvents command.verbose outcome.log } after := by
  cases takes with
  | aborted breaks => exact absurd breaks whole
  | unloaded _ missing grave =>
    refine accord_of_error rfl rfl rfl (fun snapshot directory loaded => ?_) fun _ =>
      ⟨rfl, fun event reported => ?_⟩
    · rw [missing] at loaded
      cases loaded
    · rcases List.mem_append.mp reported with ofReader | isLast
      · exact grave event ofReader
      · rw [List.mem_singleton.mp isLast]
        exact .inr rfl
  | @homeless _ reason loaded missing =>
    show command.Accord parser files before
      ⟨.homeless, shownEvents command.verbose ([] ++ [.noDirectory reason])⟩ before
    refine accord_of_error rfl rfl rfl (fun snapshot directory _ found => ?_) fun _ =>
      ⟨rfl, fun event reported => ?_⟩
    · rw [missing] at found
      cases found
    · rw [List.mem_singleton.mp reported]
      exact .inr rfl
  | unwritten loaded found refused =>
    refine accord_of_error rfl rfl rfl (fun snapshot directory isLoaded isFound => ?_)
      fun missing => absurd missing (not_missing loaded found)
    obtain rfl := Option.some.inj (loaded.symm.trans isLoaded)
    obtain rfl := Option.some.inj (found.symm.trans isFound)
    rw [refused]
  | @saved snapshot directory after loaded found written =>
    have calm : IsCalm (shownEvents command.verbose (command.drawingEvents snapshot ++
        [.saved (command.outputPath directory snapshot)])) := by
      intro event shown
      rcases List.mem_append.mp (mem_of_mem_shownEvents shown) with ofDrawing | isLast
      · exact isCalm_drawingEvents snapshot event ofDrawing
      · rw [List.mem_singleton.mp isLast]
        exact nofun
    refine ⟨rfl, iff_of_true rfl calm,
      iff_of_false Nat.zero_ne_one fun ends => ends.not_isCalm calm,
      fun _ => ⟨snapshot, directory, _, loaded, found, rfl, ?_, written⟩, fun _ _ _ _ _ => rfl,
      fun missing => absurd missing (not_missing loaded found)⟩
    have shown : (Event.saved (command.outputPath directory snapshot)).level ≠ .debug := nofun
    rw [getLast?_shownEvents shown]
    rfl

/-- A silent run that does not succeed is in no accord. -/
theorem not_accord_of_aborted :
    ¬ command.Accord parser files before ⟨.aborted, []⟩ after := by
  intro accord
  exact absurd (accord.succeeds_iff.mpr isCalm_nil) (by decide)

/-- What a run that succeeds leaves in a file tree. The path that is logged last is that of a file
with the document, exactly if the path has no null character and no device is there; and whatever
the path does not lead to is as it was. -/
def Leaves (parser : Json.Parser) (tree : FileTree) (command : Command) (outcome : Outcome)
    (after : FileTree) : Prop :=
  outcome.ending.exitCode = 0 → ∃ snapshot path,
    command.snapshot? parser FileTree.system tree = some snapshot ∧
    outcome.log.getLast?.map Event.message = some ("UML diagram saved to: " ++ path) ∧
    (after.Holds path (snapshot.document command.options).1 ↔
      '\x00' ∉ path.toList ∧ ¬ tree.IsDevice path) ∧
    ∀ place, tree.locate path ≠ some place → after.get? place = tree.get? place

theorem Accord.leaves {tree after : FileTree}
    (accord : command.Accord parser FileTree.system tree outcome after) :
    command.Leaves parser tree outcome after := by
  intro succeeds
  obtain ⟨snapshot, _, path, loaded, _, _, isLast, written⟩ := accord.saved succeeds
  dsimp only [FileTree.system] at written
  exact ⟨snapshot, path, loaded, isLast, FileTree.holds_iff_of_write written,
    fun _ => FileTree.get?_of_write written⟩

/-- A run that is aborted leaves nothing, since it does not succeed. -/
theorem leaves_of_aborted {tree after : FileTree} :
    command.Leaves parser tree ⟨.aborted, []⟩ after :=
  fun succeeds => absurd succeeds (by decide)

end Command

/-! ### Every run -/

namespace FileSystem

variable (parser : Json.Parser) (files : FileSystem σ) (before : σ) (first : String)
  (rest : List String)

theorem run_accord_of_whole (whole : ¬ (Command.ofArguments first rest).BreaksOff files before) :
    (Command.ofArguments first rest).Accord parser files before
      (files.run parser before (first :: rest)).1 (files.run parser before (first :: rest)).2 :=
  (Command.takes_execute parser files before _).accord whole

theorem run_of_breaksOff (breaks : (Command.ofArguments first rest).BreaksOff files before) :
    files.run parser before (first :: rest) = (⟨.aborted, []⟩, before) := by
  rw [run_cons]
  dsimp only
  rw [Command.run_execute_of_breaksOff breaks]
  rfl

/-- **Exit code, log, usage text and file agree on every run whose input does not break off**, and
on no other. In a file tree, the file is where the log says exactly if the path is one that a file
can have. -/
theorem run_accord (tree : FileTree) :
    ((files.run parser before []).1.ending.errorText = usage ++ "\n" ∧
      (files.run parser before []).1.ending.exitCode = 1 ∧
      (files.run parser before []).1.log = [] ∧ (files.run parser before []).2 = before) ∧
    ((Command.ofArguments first rest).Accord parser files before
        (files.run parser before (first :: rest)).1 (files.run parser before (first :: rest)).2 ↔
      ¬ (Command.ofArguments first rest).BreaksOff files before) ∧
    ((Command.ofArguments first rest).BreaksOff files before →
      (files.run parser before (first :: rest)).1.ending.exitCode = 134 ∧
      (files.run parser before (first :: rest)).1.ending.errorText = "" ∧
      (files.run parser before (first :: rest)).1.log = [] ∧
      (files.run parser before (first :: rest)).2 = before) ∧
    (Command.ofArguments first rest).Leaves parser tree
      (FileTree.system.run parser tree (first :: rest)).1
      (FileTree.system.run parser tree (first :: rest)).2 := by
  refine ⟨⟨rfl, rfl, rfl, rfl⟩, ⟨fun accord breaks => ?_, ?_⟩, fun breaks => ?_, ?_⟩
  · rw [run_of_breaksOff parser files before first rest breaks] at accord
    exact Command.not_accord_of_aborted accord
  · exact run_accord_of_whole parser files before first rest
  · rw [run_of_breaksOff parser files before first rest breaks]
    exact ⟨rfl, rfl, rfl, rfl⟩
  · by_cases breaks : (Command.ofArguments first rest).BreaksOff FileTree.system tree
    · rw [run_of_breaksOff parser FileTree.system tree first rest breaks]
      exact Command.leaves_of_aborted
    · exact (run_accord_of_whole parser FileTree.system tree first rest breaks).leaves

end FileSystem

namespace Sample

/-- A place to work at: a directory for the output, and some file. -/
def desk : FileTree where
  entries := [(["out"], .directory), (["notes"], .file "remember")]

/-- A document whose project has a name that ends in a null character. -/
def cutText : String :=
  "\x7b\"project\":\"x\\u0000\",\"sources\":[]\x7d"

/-- The snapshot that the document means. -/
def cut : Snapshot where
  project := "x\x00"

theorem read_cutText : Snapshot.read Json.parser cutText = .ok cut := by
  -- a step at a time, because of the escape
  have name (rest : List Char) :
      Json.readName ('"' :: 'p' :: 'r' :: 'o' :: 'j' :: 'e' :: 'c' :: 't' :: '"' :: ':' :: '"' ::
          rest) =
        .ok (String.ofList ['p', 'r', 'o', 'j', 'e', 'c', 't'],
          ⟨'"' :: rest, by simp only [List.length_cons]; omega⟩) := by
    simp [Json.readName, Json.readString, Json.Rest.widen, bind, Except.bind, pure, Except.pure]
    rfl
  have null (rest : List Char) :
      Json.readEscape ('u' :: '0' :: '0' :: '0' :: '0' :: rest) =
        .ok ('\x00', ⟨rest, by simp only [List.length_cons]; omega⟩) := rfl
  have value (rest : List Char) :
      Json.readValue ('"' :: 'x' :: '\\' :: 'u' :: '0' :: '0' :: '0' :: '0' :: '"' :: rest) =
        .ok (.string (String.ofList ['x', '\x00']),
          ⟨rest, by simp only [List.length_cons]; omega⟩) := by
    simp [Json.readValue, Json.readString, null, Json.Rest.widen, bind, Except.bind, pure,
      Except.pure]
  have others : Json.readMembers (Json.skipBlanks
      ['"', 's', 'o', 'u', 'r', 'c', 'e', 's', '"', ':', '[', ']', '\x7d']) =
      .ok ([(String.ofList ['s', 'o', 'u', 'r', 'c', 'e', 's'], .array [])], ⟨[], by decide⟩) := by
    cbv
  obtain ⟨_, members, ofMembers⟩ := Json.readMembers_cons (name _) (value (',' :: _)) rfl others
  obtain ⟨_, object, ofObject⟩ := Json.readValue_object cutText.toList.tail
    (by simp [cutText, Json.skipBlanks, Json.isBlank]) members
  have isRead : Json.read cutText = .ok _ :=
    Json.read_of_readValue (by simp [cutText, Json.skipBlanks, Json.isBlank]) object
      (by rw [ofObject, ofMembers]; rfl)
  rw [Snapshot.read_of_ok (Json.parser_eq_ok isRead)]
  rfl

/-- A place to work at, with that document and a directory. -/
def cabinet : FileTree where
  entries :=
    [(["work"], .directory), (["work", "d"], .directory), (["work", "in.json"], .file cutText)]
  current := ["work"]

end Sample

namespace FileSystem

open Sample

/-- At the desk the sample is saved in the directory that is named, and the file is as it was. A run
on a file that is not there fails and changes nothing; one on a directory is aborted. -/
theorem run_accord_desk :
    (FileTree.system.run Json.parser desk ["--sample", "--outputDir", "out"]).1.ending.exitCode =
      0 ∧
    (FileTree.system.run Json.parser desk ["--sample", "--outputDir", "out"]).2.Holds
      "out/Sample.md" (zoo.document {}).1 ∧
    (FileTree.system.run Json.parser desk ["--sample", "--outputDir", "out"]).2.get? ["notes"] =
      some (.file "remember") ∧
    (FileTree.system.run Json.parser desk ["absent"]).1.ending.exitCode = 1 ∧
    (FileTree.system.run Json.parser desk ["absent"]).2 = desk ∧
    (FileTree.system.run Json.parser desk ["out"]).1.ending.exitCode = 134 := by
  obtain ⟨_, _, _, leaves⟩ :=
    run_accord Json.parser FileTree.system desk "--sample" ["--outputDir", "out"] desk
  obtain ⟨_, onAbsent, _⟩ := run_accord Json.parser FileTree.system desk "absent" [] desk
  obtain ⟨_, _, onDirectory, _⟩ := run_accord Json.parser FileTree.system desk "out" [] desk
  have succeeds : (FileTree.system.run Json.parser desk
      ["--sample", "--outputDir", "out"]).1.ending.exitCode = 0 := by
    decide +kernel
  have log : (FileTree.system.run Json.parser desk
      ["--sample", "--outputDir", "out"]).1.log.getLast?.map Event.message =
        some ("UML diagram saved to: " ++ "out/Sample.md") := by
    decide +kernel
  obtain ⟨snapshot, path, loaded, isLast, holds, kept⟩ := leaves succeeds
  obtain rfl := Option.some.inj loaded
  obtain rfl := (String.append_right_inj _).mp (Option.some.inj (log.symm.trans isLast))
  have noDevice : ¬ desk.IsDevice "out/Sample.md" := by
    rintro ⟨place, isFull, located, device⟩
    have free : (desk.locate "out/Sample.md").bind desk.get? = none := by
      decide +kernel
    rw [located, Option.bind_some, device] at free
    cases free
  have whole : ¬ (Command.ofArguments "absent" []).BreaksOff FileTree.system desk :=
    Command.not_breaksOff (by decide +kernel)
  have missing :
      (Command.ofArguments "absent" []).snapshot? Json.parser FileTree.system desk = none := by
    decide +kernel
  have breaks : (Command.ofArguments "out" []).BreaksOff FileTree.system desk :=
    ⟨rfl, by decide +kernel⟩
  have untouched := (onAbsent.mpr whole).untouched (.inl missing)
  exact ⟨succeeds, holds.mpr ⟨by decide, noDevice⟩, (kept ["notes"] (by decide +kernel)).trans rfl,
    untouched.1, untouched.2.1, (onDirectory breaks).1⟩

/-- In the cabinet, a run on the directory ends neither well nor in an error, and says nothing. A run
on the document ends well, and says that it has saved a file of which there is none: the document is
in another one. -/
theorem not_accord_cabinet :
    (FileTree.system.run Json.parser cabinet ["d"]).1.ending.exitCode = 134 ∧
    IsCalm (FileTree.system.run Json.parser cabinet ["d"]).1.log ∧
    ¬ (Command.ofArguments "d" []).Accord Json.parser FileTree.system cabinet
      (FileTree.system.run Json.parser cabinet ["d"]).1
      (FileTree.system.run Json.parser cabinet ["d"]).2 ∧
    (FileTree.system.run Json.parser cabinet ["in.json"]).1.ending.exitCode = 0 ∧
    (FileTree.system.run Json.parser cabinet ["in.json"]).1.log.getLast?.map Event.message =
      some ("UML diagram saved to: " ++ "/work/x\x00.md") ∧
    ¬ (FileTree.system.run Json.parser cabinet ["in.json"]).2.Holds "/work/x\x00.md"
      (cut.document {}).1 ∧
    (FileTree.system.run Json.parser cabinet ["in.json"]).2.get? ["work", "x"] =
      some (.file (cut.document {}).1) := by
  have breaks : (Command.ofArguments "d" []).BreaksOff FileTree.system cabinet :=
    ⟨rfl, by decide +kernel⟩
  have aborted := run_of_breaksOff Json.parser FileTree.system cabinet "d" [] breaks
  have opened : FileTree.system.read cabinet (Command.ofArguments "in.json" []).input =
      .text cutText := by decide +kernel
  have whole : ¬ (Command.ofArguments "in.json" []).BreaksOff FileTree.system cabinet :=
    Command.not_breaksOff (by decide +kernel)
  have loaded : (Command.ofArguments "in.json" []).snapshot? Json.parser FileTree.system cabinet =
      some cut := by
    rw [Command.snapshot?_of_text rfl opened, read_cutText]
    rfl
  have found : (Command.ofArguments "in.json" []).directory? FileTree.system cabinet =
      some "/work" := by decide +kernel
  have isPath : (Command.ofArguments "in.json" []).outputPath "/work" cut = "/work/x\x00.md" := by
    decide +kernel
  have located : cabinet.locate "/work/x\x00.md" = some ["work", "x"] := by decide +kernel
  have free : cabinet.get? ["work", "x"] = none := by decide +kernel
  have inside : cabinet.get? ["work"] = some .directory := by decide +kernel
  have made := FileTree.write_of_free located free inside (cut.document {}).1
  have accord := run_accord_of_whole Json.parser FileTree.system cabinet "in.json" [] whole
  have succeeds := accord.succeeds cut "/work" loaded found (by
    rw [isPath]
    exact congrArg Prod.fst made)
  obtain ⟨snapshot, directory, path, isLoaded, isFound, joined, isLast, written⟩ :=
    accord.saved succeeds
  obtain rfl := Option.some.inj (loaded.symm.trans isLoaded)
  obtain rfl := Option.some.inj (found.symm.trans isFound)
  obtain rfl := joined.trans isPath
  have after := (Prod.mk.inj (made.symm.trans written)).2
  refine ⟨by rw [aborted]; rfl, ?_, ?_, succeeds, isLast, fun holds => ?_, ?_⟩
  · rw [aborted]
    exact isCalm_nil
  · rw [aborted]
    exact Command.not_accord_of_aborted
  · exact absurd holds.1 (by decide)
  · rw [← after]
    exact FileTree.get?_put_same (by simp)

end FileSystem

end TypeChart
