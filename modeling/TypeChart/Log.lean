/-
**The log.**

Everything that the program reports is an `Event`; its level and its wording are fixed here and
nowhere else.
-/

namespace TypeChart

/-- How grave an event is. -/
inductive Level where
  | debug
  | info
  | warning
  | error
  deriving DecidableEq, Repr

/-- Something that happened and is reported. -/
inductive Event where
  /-- A declaration without a symbol was passed over. -/
  | unresolved (name path : String)
  /-- So many declarations were passed over in all. -/
  | unresolvedTotal (count : Nat)
  /-- The snapshot file cannot be opened. -/
  | unreadable (path : String)
  /-- The snapshot text is no JSON document. -/
  | malformed (fault : String)
  /-- A source unit holds a type entry without a name. -/
  | nameless (path : String)
  /-- No snapshot came from the file. -/
  | noSnapshot (path : String)
  /-- There is no current directory to write to. -/
  | noDirectory (reason : String)
  /-- A diagram is about to be drawn. -/
  | drawing (project : String)
  | unwritable (path : String)
  | saved (path : String)
  deriving DecidableEq, Repr

def Event.level : Event → Level
  | unresolved .. | unresolvedTotal .. => .debug
  | drawing .. | saved .. => .info
  | nameless .. => .warning
  | unreadable .. | malformed .. | noSnapshot .. | noDirectory .. | unwritable .. => .error

def Event.message : Event → String
  | unresolved name path => "Skipping '" ++ name ++ "' in " ++ path ++ ": no resolved symbol"
  | unresolvedTotal count => toString count ++ " declared type(s) skipped without a symbol"
  | unreadable path => "Cannot open snapshot file '" ++ path ++ "'"
  | malformed fault => "Invalid snapshot JSON: " ++ fault
  | nameless path => "Type entry without a name in source '" ++ path ++ "'"
  | noSnapshot path => "Could not load a valid type snapshot from '" ++ path ++ "'."
  | noDirectory reason => "Cannot determine the current directory: " ++ reason
  | drawing project => "Generating Mermaid UML for project: " ++ project
  | unwritable path => "Failed to write '" ++ path ++ "'"
  | saved path => "UML diagram saved to: " ++ path

/-- The events that are shown: those at debug level only when asked for. -/
def shownEvents (verbose : Bool) (events : List Event) : List Event :=
  events.filter fun event => verbose || event.level != .debug

end TypeChart
