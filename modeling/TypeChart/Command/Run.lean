/-
**Runs of the program.**

A run reads a snapshot, draws it and writes the document. All that it needs of the outside is a
`Host`: reading a file, writing a file and the current directory; and it is given a parser of JSON
texts. How it ended is an `Ending`, from which the exit code and the text on the error stream
follow; what it reports is the log.

* `Command.load`: the loader, with what it reports; it may break off.
* `Command.run`: the run of a command that was understood.
* `run`: the run of the program on its arguments.
* `FileSystem`, `FileTree.system`: the outside as something with a state.
-/

import TypeChart.Command.Arguments
import TypeChart.FileTree
import TypeChart.Snapshot.Loader
import TypeChart.Snapshot.Sample

namespace TypeChart

/-- What a run needs of the outside. -/
structure Host (m : Type → Type) where
  /-- What opening and reading a file gives. -/
  read : String → m FileReading
  /-- Whether a text could be written to a file. -/
  write : String → String → m Bool
  /-- The current directory, or the reason why there is none. -/
  currentDirectory : m (Except String String)

/-- The reason that is given when the current directory was removed. -/
def removedReason : String :=
  "No such file or directory"

/-- The ways in which a run ends. -/
inductive Ending where
  /-- There were no arguments. -/
  | unasked
  /-- The reading of the input broke off, and the run with it. -/
  | aborted
  /-- No snapshot could be loaded. -/
  | unloaded
  /-- There was no directory to write to. -/
  | homeless
  /-- The document could not be written. -/
  | unwritten
  /-- The document was written. -/
  | saved
  deriving DecidableEq, Repr

/-- A run succeeds when its document is written. One that is aborted never comes to an exit code of
its own: the system gives it that of its signal. -/
def Ending.exitCode : Ending → Nat
  | saved => 0
  | unasked | unloaded | homeless | unwritten => 1
  | aborted => 134

/-- What a run itself prints on the error stream. -/
def Ending.errorText : Ending → String
  | unasked => usage ++ "\n"
  | aborted | unloaded | homeless | unwritten | saved => ""

/-- How a run ended, and what it reported. -/
structure Outcome where
  ending : Ending
  log : List Event
  deriving DecidableEq, Repr

/-- What comes of loading a snapshot. -/
inductive Loaded where
  /-- A snapshot or none, with what was reported of it. -/
  | returned (snapshot : Option Snapshot) (report : List Event)
  /-- The input broke off while it was read, and nothing stops that from leaving the loader. -/
  | raised

namespace Command

/-- Loads the snapshot that a command asks for. -/
def load {m : Type → Type} [Monad m] (parser : Json.Parser) (host : Host m) (command : Command) :
    m Loaded := do
  if command.useSample then
    return .returned (some Sample.zoo) []
  else
    match ← host.read command.input with
    | .unopened => return .returned none [.unreadable command.input]
    | .broken => return .raised
    | .text text =>
      let (snapshot, report) := Snapshot.loadText parser text
      return .returned snapshot report

/-- The directory that the document goes to, or the reason why there is none. -/
def directory {m : Type → Type} [Monad m] (host : Host m) (command : Command) :
    m (Except String String) :=
  match command.outputDirectory with
  | some path => return .ok path
  | none => host.currentDirectory

/-- The name of the project: that of the snapshot, else of the sample, else of the file. -/
def project (command : Command) (snapshot : Snapshot) : String :=
  if snapshot.project ≠ "" then snapshot.project
  else if command.useSample then "Sample"
  else Path.stem command.input

def outputPath (command : Command) (directory : String) (snapshot : Snapshot) : String :=
  Path.join directory (command.options.fileName (command.project snapshot))

/-- Draws a snapshot and writes the document below a directory. -/
def draw {m : Type → Type} [Monad m] (host : Host m) (command : Command) (directory : String)
    (snapshot : Snapshot) : m Outcome := do
  let path := command.outputPath directory snapshot
  let (document, events) := snapshot.document command.options
  let report := .drawing (command.project snapshot) :: events
  if ← host.write path document then
    return { ending := .saved, log := report ++ [.saved path] }
  else
    return { ending := .unwritten, log := report ++ [.unwritable path] }

/-- The run of a command with its whole report. -/
def execute {m : Type → Type} [Monad m] (parser : Json.Parser) (host : Host m)
    (command : Command) : m Outcome := do
  match ← command.load parser host with
  | .raised => return { ending := .aborted, log := [] }
  | .returned none report =>
    return { ending := .unloaded, log := report ++ [.noSnapshot command.input] }
  | .returned (some snapshot) report =>
    match ← command.directory host with
    | .error reason => return { ending := .homeless, log := report ++ [.noDirectory reason] }
    | .ok directory =>
      let outcome ← command.draw host directory snapshot
      return { outcome with log := report ++ outcome.log }

/-- The run of a command, with as much of its report as it asks for. -/
def run {m : Type → Type} [Monad m] (parser : Json.Parser) (host : Host m) (command : Command) :
    m Outcome := do
  let outcome ← command.execute parser host
  return { outcome with log := shownEvents command.verbose outcome.log }

end Command

/-- The run of the program on its arguments. -/
def run {m : Type → Type} [Monad m] (parser : Json.Parser) (host : Host m) :
    List String → m Outcome
  | [] => return { ending := .unasked, log := [] }
  | first :: rest => (Command.ofArguments first rest).run parser host

/-! ### Outsides with a state -/

/-- The outside of a run, state by state. Looking at it changes nothing; whether a text could be
written, and what has become of the state then, is for the file system to say. -/
structure FileSystem (σ : Type) where
  /-- What opening and reading a file gives. -/
  read : σ → String → FileReading
  /-- The current directory, or the reason why there is none. -/
  currentDirectory : σ → Except String String
  /-- Whether a text could be written to a file, and the state after that. -/
  write : σ → String → String → Bool × σ

namespace FileSystem

variable {σ : Type}

/-- A file system as the outside of a run. -/
def host (files : FileSystem σ) : Host (StateM σ) where
  read path := return files.read (← get) path
  write path text := modifyGet fun state => files.write state path text
  currentDirectory := return files.currentDirectory (← get)

/-- The run of the program on arguments: its outcome, and the state after it. -/
def run (parser : Json.Parser) (files : FileSystem σ) (state : σ) (arguments : List String) :
    Outcome × σ :=
  ((TypeChart.run parser files.host arguments).run state).run

end FileSystem

namespace FileTree

def pathOf (place : Place) : String :=
  "/" ++ "/".intercalate place

/-- The path of the current directory, unless that was removed. -/
def currentPath (tree : FileTree) : Except String String :=
  if tree.get? tree.current = some .directory then .ok (pathOf tree.current)
  else .error removedReason

/-- A file tree is a file system. -/
def system : FileSystem FileTree where
  read := read
  currentDirectory := currentPath
  write := write

end FileTree

end TypeChart
