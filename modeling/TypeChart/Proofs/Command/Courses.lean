/-
**The courses of a run.**

A run meets the outside at no more than three points: it reads its input, it asks for the current
directory, and it writes one file. The file system may answer anything there, and so may the parser
to the text of the input. There are five courses that a run can take, and each is decided by three
questions, whether the input breaks off and which snapshot and which directory the command means,
and by how the writing goes.

* `Command.run_load_of_text` and its siblings: what the loader of a run comes to.
* `Command.Takes`: the five courses, each with what is reported and with the state after it.
* `Command.takes_execute`: a run takes one of them.
-/

import TypeChart.Command.Run
import TypeChart.Proofs.Snapshot.Guarded

namespace TypeChart

/-- What is reported of a document that is refused is grave. -/
theorem Refusal.level_of_mem_events {refusal : Refusal} {event : Event}
    (reported : event ∈ refusal.events) : event.level = .warning ∨ event.level = .error := by
  cases refusal with
  | malformed fault =>
    rw [List.mem_singleton.mp reported]
    exact .inr rfl
  | shape => cases reported
  | nameless path =>
    rw [List.mem_singleton.mp reported]
    exact .inl rfl

variable {σ : Type}

namespace Command

variable (parser : Json.Parser) (files : FileSystem σ) (state : σ) (command : Command)

/-! ### What a command means -/

/-- The input of a command can be opened, but its reading breaks off. -/
def BreaksOff : Prop :=
  command.useSample = false ∧ files.read state command.input = .broken

/-- The snapshot that a command means: the sample, or what its input file says. -/
def snapshot? : Option Snapshot :=
  if command.useSample then some Sample.zoo
  else
    match files.read state command.input with
    | .text text => (Snapshot.read parser text).toOption
    | .unopened | .broken => none

/-- The directory that a command means: the one that is given, or the current one. -/
def directory? : Option String :=
  match command.outputDirectory with
  | some path => some path
  | none => (files.currentDirectory state).toOption

/-- The text that a command should write of a snapshot. -/
def documentText (snapshot : Snapshot) : String :=
  (snapshot.document command.options).1

/-! ### The courses -/

/-- What is reported before the document of a snapshot is written. -/
def drawingEvents (snapshot : Snapshot) : List Event :=
  .drawing (command.project snapshot) :: (snapshot.document command.options).2

/-- The courses of a run: the outcome with its whole report, and the state after it. -/
inductive Takes : Outcome → σ → Prop
  /-- The input breaks off, and the run with it, without a word. -/
  | aborted (breaks : command.BreaksOff files state) : Takes ⟨.aborted, []⟩ state
  /-- Nothing is loaded, and after whatever the reader had to say that is the last word. -/
  | unloaded {reader : List Event} (whole : ¬ command.BreaksOff files state)
      (missing : command.snapshot? parser files state = none)
      (grave : ∀ event ∈ reader, event.level = .warning ∨ event.level = .error) :
      Takes ⟨.unloaded, reader ++ [.noSnapshot command.input]⟩ state
  /-- There is no directory to write to. -/
  | homeless {snapshot : Snapshot} {reason : String}
      (loaded : command.snapshot? parser files state = some snapshot)
      (missing : command.directory? files state = none) :
      Takes ⟨.homeless, [.noDirectory reason]⟩ state
  /-- The document is not written, whatever that has done to the file. -/
  | unwritten {snapshot : Snapshot} {directory : String} {after : σ}
      (loaded : command.snapshot? parser files state = some snapshot)
      (found : command.directory? files state = some directory)
      (refused : files.write state (command.outputPath directory snapshot)
        (command.documentText snapshot) = (false, after)) :
      Takes ⟨.unwritten, command.drawingEvents snapshot ++
        [.unwritable (command.outputPath directory snapshot)]⟩ after
  /-- The document is written. -/
  | saved {snapshot : Snapshot} {directory : String} {after : σ}
      (loaded : command.snapshot? parser files state = some snapshot)
      (found : command.directory? files state = some directory)
      (written : files.write state (command.outputPath directory snapshot)
        (command.documentText snapshot) = (true, after)) :
      Takes ⟨.saved, command.drawingEvents snapshot ++
        [.saved (command.outputPath directory snapshot)]⟩ after

/-! ### Every run takes one of them -/

section Loading

variable {parser files state command}

theorem not_breaksOff (opened : files.read state command.input ≠ .broken) :
    ¬ command.BreaksOff files state :=
  fun breaks => opened breaks.2

/-- An input that breaks off says nothing. -/
theorem snapshot?_of_breaksOff (breaks : command.BreaksOff files state) :
    command.snapshot? parser files state = none := by
  rw [snapshot?, breaks.1, breaks.2]
  rfl

theorem run_load_of_sample (sample : command.useSample = true) :
    (command.load parser files.host).run state =
      pure (.returned (some Sample.zoo) [], state) := by
  simp [load, sample]

variable (noSample : command.useSample = false)
include noSample

theorem snapshot?_of_unopened (opened : files.read state command.input = .unopened) :
    command.snapshot? parser files state = none := by
  rw [snapshot?, noSample, opened]
  rfl

theorem snapshot?_of_text {text : String} (opened : files.read state command.input = .text text) :
    command.snapshot? parser files state = (Snapshot.read parser text).toOption := by
  rw [snapshot?, noSample, opened]
  rfl

theorem run_load_of_unopened (opened : files.read state command.input = .unopened) :
    (command.load parser files.host).run state =
      pure (.returned none [.unreadable command.input], state) := by
  simp [load, noSample, FileSystem.host, opened]

theorem run_load_of_broken (opened : files.read state command.input = .broken) :
    (command.load parser files.host).run state = pure (.raised, state) := by
  simp [load, noSample, FileSystem.host, opened]

/-- A run takes from the loader what it makes of the text of the input, and its report with it. -/
theorem run_load_of_text {text : String} (opened : files.read state command.input = .text text) :
    (command.load parser files.host).run state =
      pure (.returned (Snapshot.loadText parser text).1 (Snapshot.loadText parser text).2,
        state) := by
  simp [load, noSample, FileSystem.host, opened]

end Loading

/-- Loading looks at the input file and leaves all as it is. -/
theorem load_cases :
    (∃ snapshot, command.snapshot? parser files state = some snapshot ∧
      (command.load parser files.host).run state = pure (.returned (some snapshot) [], state)) ∨
    (∃ reader, ¬ command.BreaksOff files state ∧ command.snapshot? parser files state = none ∧
      (∀ event ∈ reader, event.level = .warning ∨ event.level = .error) ∧
      (command.load parser files.host).run state = pure (.returned none reader, state)) ∨
    (command.BreaksOff files state ∧
      (command.load parser files.host).run state = pure (.raised, state)) := by
  cases sample : command.useSample with
  | true => exact .inl ⟨Sample.zoo, if_pos sample, run_load_of_sample sample⟩
  | false =>
    cases opened : files.read state command.input with
    | unopened =>
      refine .inr (.inl ⟨[.unreadable command.input], not_breaksOff (by rw [opened]; exact nofun),
        snapshot?_of_unopened sample opened, fun event member => ?_,
        run_load_of_unopened sample opened⟩)
      rw [List.mem_singleton.mp member]
      exact .inr rfl
    | broken => exact .inr (.inr ⟨⟨sample, opened⟩, run_load_of_broken sample opened⟩)
    | text text =>
      have loaded : (command.load parser files.host).run state = _ :=
        run_load_of_text sample opened
      rw [snapshot?_of_text sample opened]
      cases understood : Snapshot.read parser text with
      | ok snapshot =>
        rw [Snapshot.loadText, understood] at loaded
        exact .inl ⟨snapshot, rfl, loaded⟩
      | error refusal =>
        rw [Snapshot.loadText, understood] at loaded
        exact .inr (.inl ⟨refusal.events, not_breaksOff (by rw [opened]; exact nofun), rfl,
          fun _ => Refusal.level_of_mem_events, loaded⟩)

/-- Finding the directory leaves all as it is. -/
theorem directory_cases :
    (∃ directory, command.directory? files state = some directory ∧
      (command.directory files.host).run state = pure (.ok directory, state)) ∨
    (∃ reason, command.directory? files state = none ∧
      (command.directory files.host).run state = pure (.error reason, state)) := by
  unfold directory directory?
  cases command.outputDirectory with
  | some path => exact .inl ⟨path, rfl, rfl⟩
  | none =>
    cases current : files.currentDirectory state with
    | ok path =>
      refine .inl ⟨path, rfl, ?_⟩
      simp [FileSystem.host, current]
    | error reason =>
      refine .inr ⟨reason, rfl, ?_⟩
      simp [FileSystem.host, current]

/-- Drawing writes the document once, and ends as the writing does. -/
theorem run_draw {directory : String} {snapshot : Snapshot} {isWritten : Bool} {after : σ}
    (answer : files.write state (command.outputPath directory snapshot)
      (command.documentText snapshot) = (isWritten, after)) :
    (command.draw files.host directory snapshot).run state =
      pure (if isWritten then
          ⟨.saved, command.drawingEvents snapshot ++
            [.saved (command.outputPath directory snapshot)]⟩
        else
          ⟨.unwritten, command.drawingEvents snapshot ++
            [.unwritable (command.outputPath directory snapshot)]⟩, after) := by
  rw [documentText] at answer
  cases isWritten with
  | true => simp [draw, FileSystem.host, drawingEvents, answer]
  | false => simp [draw, FileSystem.host, drawingEvents, answer]

theorem run_execute_of_breaksOff {parser : Json.Parser} {files : FileSystem σ} {state : σ}
    {command : Command} (breaks : command.BreaksOff files state) :
    ((command.execute parser files.host).run state).run = (⟨.aborted, []⟩, state) := by
  unfold execute
  rw [StateT.run_bind, run_load_of_broken breaks.1 breaks.2, pure_bind]
  rfl

/-- **A run takes one of the five courses.** -/
theorem takes_execute :
    command.Takes parser files state ((command.execute parser files.host).run state).run.1
      ((command.execute parser files.host).run state).run.2 := by
  unfold execute
  rw [StateT.run_bind]
  rcases command.load_cases parser files state with
    ⟨snapshot, loaded, isLoaded⟩ | ⟨reader, whole, missing, grave, isLoaded⟩ |
      ⟨breaks, isLoaded⟩
  · rw [isLoaded, pure_bind]
    dsimp only
    rw [StateT.run_bind]
    rcases command.directory_cases files state with
      ⟨directory, found, isFound⟩ | ⟨reason, missing, isFound⟩
    · rw [isFound, pure_bind]
      dsimp only
      rw [StateT.run_bind]
      cases answer : files.write state (command.outputPath directory snapshot)
          (command.documentText snapshot) with
      | mk isWritten after =>
        rw [run_draw files state command answer, pure_bind]
        cases isWritten with
        | true => exact .saved loaded found answer
        | false => exact .unwritten loaded found answer
    · rw [isFound, pure_bind]
      exact .homeless loaded missing
  · rw [isLoaded, pure_bind]
    exact .unloaded whole missing grave
  · rw [isLoaded, pure_bind]
    exact .aborted breaks

/-! ### What a run changes -/

variable {parser files state command} {outcome : Outcome} {after : σ}

theorem not_missing {snapshot : Snapshot} {directory : String}
    (loaded : command.snapshot? parser files state = some snapshot)
    (found : command.directory? files state = some directory) :
    ¬ (command.snapshot? parser files state = none ∨ command.directory? files state = none) := by
  rw [loaded, found]
  simp

theorem Takes.after_eq_of_none (takes : command.Takes parser files state outcome after)
    (missing : command.snapshot? parser files state = none ∨ command.directory? files state = none) :
    after = state := by
  cases takes with
  | aborted => rfl
  | unloaded => rfl
  | homeless => rfl
  | unwritten loaded found => exact absurd missing (not_missing loaded found)
  | saved loaded found => exact absurd missing (not_missing loaded found)

/-- With a snapshot and a directory, a run leaves what writing the document leaves. -/
theorem Takes.exists_write_eq (takes : command.Takes parser files state outcome after)
    {snapshot : Snapshot} {directory : String}
    (isLoaded : command.snapshot? parser files state = some snapshot)
    (isFound : command.directory? files state = some directory) :
    ∃ isWritten, files.write state (command.outputPath directory snapshot)
      (command.documentText snapshot) = (isWritten, after) := by
  cases takes with
  | aborted breaks =>
    rw [snapshot?_of_breaksOff breaks] at isLoaded
    cases isLoaded
  | unloaded _ missing =>
    rw [missing] at isLoaded
    cases isLoaded
  | homeless _ missing =>
    rw [missing] at isFound
    cases isFound
  | unwritten loaded found refused =>
    obtain rfl := Option.some.inj (loaded.symm.trans isLoaded)
    obtain rfl := Option.some.inj (found.symm.trans isFound)
    exact ⟨false, refused⟩
  | saved loaded found written =>
    obtain rfl := Option.some.inj (loaded.symm.trans isLoaded)
    obtain rfl := Option.some.inj (found.symm.trans isFound)
    exact ⟨true, written⟩

end Command

/-- The run of the program on arguments is that of the command which they mean, with as much of its
report as it asks for. -/
theorem FileSystem.run_cons (parser : Json.Parser) (files : FileSystem σ) (state : σ)
    (first : String) (rest : List String) :
    files.run parser state (first :: rest) =
      let command := Command.ofArguments first rest
      let (outcome, after) := ((command.execute parser files.host).run state).run
      ({ outcome with log := shownEvents command.verbose outcome.log }, after) :=
  rfl

/-- What is grave is always shown. -/
theorem shownEvents_of_grave {log : List Event}
    (grave : ∀ event ∈ log, event.level = .warning ∨ event.level = .error) (verbose : Bool) :
    shownEvents verbose log = log := by
  refine List.filter_eq_self.mpr fun event listed => ?_
  rcases grave event listed with isWarning | isError
  · rw [isWarning]
    exact Bool.or_true verbose
  · rw [isError]
    exact Bool.or_true verbose

/-- The log of a run whose input is refused: what the loader reports, and that nothing was loaded. -/
theorem FileSystem.log_run_of_refused {parser : Json.Parser} {files : FileSystem σ} {state : σ}
    {first text : String} {rest : List String} {refusal : Refusal}
    (noSample : (Command.ofArguments first rest).useSample = false)
    (opened : files.read state (Command.ofArguments first rest).input = .text text)
    (refused : Snapshot.read parser text = .error refusal) :
    (files.run parser state (first :: rest)).1.log =
      refusal.events ++ [.noSnapshot (Command.ofArguments first rest).input] := by
  have loaded :
      ((Command.ofArguments first rest).load parser files.host).run state = _ :=
    Command.run_load_of_text noSample opened
  rw [Snapshot.loadText, refused] at loaded
  rw [run_cons]
  dsimp only
  rw [Command.execute, StateT.run_bind, loaded, pure_bind]
  refine shownEvents_of_grave (fun event reported => ?_) _
  rcases List.mem_append.mp reported with ofReader | isLast
  · exact Refusal.level_of_mem_events ofReader
  · rw [List.mem_singleton.mp isLast]
    exact .inr rfl

end TypeChart
