import Monkey.Session

/-!
# The command line

`monkey` without arguments reads lines from standard input in the read-eval-print loop; with a
file name it runs that file. Standard input is read whole before the session starts. A fault
that stops the session is written to standard error, and the program then exits with code 1.
-/

open Monkey

/-- The text of standard input, read to its end. -/
partial def readAll (stream : IO.FS.Stream) (acc : String) : IO String := do
  let line ← stream.getLine
  if line.isEmpty then pure acc else readAll stream (acc ++ line)

/-- The text of the file a command line names by a path from the working directory, if it can
be read. -/
def namedFile (args : List String) : IO (Option String) := do
  match args with
  | path :: _ =>
    try
      pure (some (← IO.FS.readFile ("./" ++ path)))
    catch _ => pure none
  | [] => pure none

/-- Runs the command line and writes what the session wrote. -/
def main (args : List String) : IO UInt32 := do
  let input ← readAll (← IO.getStdin) ""
  let file ← namedFile args
  let t := commandLineWith args file input
  let out ← IO.getStdout
  out.putStr t.out
  out.flush
  match t.ending with
  | .ok _ => pure 0
  | .error f =>
    (← IO.getStderr).putStrLn (f.kind ++ ": " ++ f.message)
    pure 1
