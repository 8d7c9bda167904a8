/-
The command line.

The arguments are those of the program, and one line of standard input
is the snapshot of its surroundings.
-/
import Outline.Snapshot

open Outline

/-- Runs the program on the snapshot of one line of input. -/
def main (words : List String) : IO UInt32 := do
  let input ← (← IO.getStdin).getLine
  let snapshot := Snapshot.read ((Json.read? input).getD .null)
  let done := (snapshot.world "codestruct").run words
  (← IO.getStdout).putStr done.session.stdout
  (← IO.getStderr).putStr done.session.stderr
  return done.status.toUInt32
