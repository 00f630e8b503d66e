/-
**The program.**

The real file system as the outside of a run, the strict reader of JSON as its parser, and the
printing of what the run reports.
-/

import TypeChart.Command.Run
import TypeChart.Json.Reader

namespace TypeChart

/-- What an action gives, unless it ends in an error. -/
def given? {α : Type} (action : IO α) : IO (Option α) :=
  try
    return some (← action)
  catch _ =>
    return none

/-- What bytes write, or a text that begins no document. -/
def decoded (bytes : ByteArray) : String :=
  (String.fromUTF8? bytes).getD "\x00"

/-- The file system as the outside of a run. -/
def systemHost : Host IO where
  read path := do
    match ← given? (IO.FS.Handle.mk (Path.taken path) .read) with
    | none => return .unopened
    | some handle =>
      match ← given? handle.readBinToEnd with
      | none => return .broken
      | some bytes => return .text (decoded bytes)
  write path text := do
    let written ← given? do
      let handle ← IO.FS.Handle.mk (Path.taken path) .write
      handle.putStr text
      handle.flush
    return written.isSome
  currentDirectory :=
    try
      return .ok (← IO.currentDir).toString
    catch _ =>
      return .error removedReason

/-- The word for a level in a printed line. -/
def Level.word : Level → String
  | debug => "debug"
  | info => "info"
  | warning => "warning"
  | error => "error"

/-- The line that prints an event. -/
def Event.line (event : Event) : String :=
  "[" ++ event.level.word ++ "] " ++ event.message

end TypeChart

/-- Runs the program on its arguments and prints what it reports. -/
def main (arguments : List String) : IO UInt32 := do
  let outcome ← TypeChart.run TypeChart.Json.parser TypeChart.systemHost arguments
  for event in outcome.log do
    IO.println event.line
  IO.eprint outcome.ending.errorText
  return outcome.ending.exitCode.toUInt32
