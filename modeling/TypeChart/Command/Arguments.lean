/-
**Arguments of the command line.**

The first argument names the snapshot file, or asks for the sample. The others are read from left
to right as `Argument`s: a switch, a directory with its value, or something of no meaning, which is
ignored. `Command.ofArguments` gathers what they ask for.
-/

import TypeChart.Mermaid.Document

namespace TypeChart

/-- What an argument can switch on. -/
inductive Switch where
  | hideClasses
  | hideInterfaces
  | hideEnums
  | allAncestors
  | byNamespace
  | verbose
  | sample
  deriving DecidableEq, Repr

def Switch.spelling : Switch → String
  | hideClasses => "--disableClasses"
  | hideInterfaces => "--disableInterfaces"
  | hideEnums => "--disableEnums"
  | allAncestors => "--enableNestedInheritance"
  | byNamespace => "--enableNamespaces"
  | verbose => "--verbose"
  | sample => "--sample"

def Switch.all : List Switch :=
  [hideClasses, hideInterfaces, hideEnums, allAncestors, byNamespace, verbose, sample]

def Switch.ofSpelling? (text : String) : Option Switch :=
  Switch.all.find? fun known => known.spelling == text

/-- No two switches have one spelling. -/
@[simp]
theorem Switch.ofSpelling?_spelling (known : Switch) :
    Switch.ofSpelling? known.spelling = some known := by
  cases known <;> decide

/-- What the command line is made of after its first argument. -/
inductive Argument where
  | switch (on : Switch)
  | outputDirectory (path : String)
  /-- The last argument announces a directory that does not follow. -/
  | missingDirectory
  /-- An argument of no meaning. -/
  | unknown (text : String)
  deriving DecidableEq, Repr

namespace Argument

/-- The spelling that announces the output directory. -/
def outputSpelling : String :=
  "--outputDir"

/-- A single argument that announces nothing. -/
def single (text : String) : Argument :=
  match Switch.ofSpelling? text with
  | some known => .switch known
  | none => .unknown text

/-- The arguments that texts make. Whatever follows the announcement of the output directory is
that directory, even if it is spelled like a switch. -/
def scan : List String → List Argument
  | [] => []
  | [text] => if text = outputSpelling then [.missingDirectory] else [single text]
  | text :: next :: rest =>
    if text = outputSpelling then .outputDirectory next :: scan rest
    else single text :: scan (next :: rest)

end Argument

/-- What a command line asks for. -/
structure Command where
  /-- The snapshot file; it is not looked at when the sample is asked for. -/
  input : String := ""
  useSample : Bool := false
  outputDirectory : Option String := none
  verbose : Bool := false
  options : Options := {}
  deriving DecidableEq, Repr, Inhabited

namespace Command

/-- The command of a first argument alone. -/
def ofFirst (first : String) : Command :=
  if first = Switch.sample.spelling then { useSample := true } else { input := first }

def turnOn (command : Command) : Switch → Command
  | .hideClasses => { command with options := { command.options with hideClasses := true } }
  | .hideInterfaces => { command with options := { command.options with hideInterfaces := true } }
  | .hideEnums => { command with options := { command.options with hideEnums := true } }
  | .allAncestors => { command with options := { command.options with allAncestors := true } }
  | .byNamespace => { command with options := { command.options with byNamespace := true } }
  | .verbose => { command with verbose := true }
  | .sample => { command with useSample := true }

/-- A command with one more argument. -/
def extend (command : Command) : Argument → Command
  | .switch on => command.turnOn on
  | .outputDirectory path => { command with outputDirectory := some path }
  | .missingDirectory => command
  | .unknown _ => command

/-- The command that a first argument and the texts after it make. -/
def ofArguments (first : String) (rest : List String) : Command :=
  (Argument.scan rest).foldl extend (ofFirst first)

end Command

/-- What is printed when no argument is given. -/
def usage : String :=
  "Usage: mermaid_uml <snapshot.json | --sample> [--outputDir <OutputDirectory>] " ++
    "[--disableClasses] [--disableInterfaces] [--disableEnums] [--enableNestedInheritance] " ++
    "[--enableNamespaces] [--verbose]"

end TypeChart
