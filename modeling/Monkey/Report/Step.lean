import Monkey.Report.Json.Read
import Monkey.Text.Lines

/-!
# Steps of a measurement round

A round works on a desk: the files of the repository, the report so far and the error output
so far. It starts processes that may write files into the repository before they answer, and it
ends early with an exit code or with a failure of a kind and a message, keeping what it wrote
before.

A process is given by its key. A key without a process succeeds at once without output, except
`git`, which fails with code 128. A process may also fail to start: it times out, or the system
cannot run it.
-/

namespace Monkey

namespace Report

/-- How starting a process can fail. -/
inductive Raise where
  | timeout
  | osError

/-- A process as a round runs it: files it writes into the repository, then its exit code and
output; or the way its start fails. -/
structure Job where
  returncode : Int
  stdout : String
  stderr : String
  writes : List (String × String)
  raise? : Option Raise

/-- A process that succeeds at once without output. -/
def Job.quiet : Job := ⟨0, "", "", [], none⟩

/-- What a round runs in: the files of the repository by name, and the processes it can start
by key (`cov`, `repotime`, `semcheck`, `git`). -/
structure Setup where
  files : List (String × String)
  procs : List (String × Job)

/-- How a round ends early: by an exit code, or by a failure. -/
inductive Stop where
  | exit (code : Int)
  | failure (r : Raised)

/-- The state of a round: the files of the repository, the report so far and the error output
so far. -/
structure Desk where
  files : List (String × String)
  out : String
  err : String

/-- A step of a round. -/
abbrev Step := EStateM Stop Desk

namespace Step

/-- Adds a line to the report. -/
def say (line : String) : Step Unit :=
  modify fun d => { d with out := d.out ++ line ++ "\n" }

/-- Adds text to the error output. -/
def warn (text : String) : Step Unit :=
  modify fun d => { d with err := d.err ++ text }

/-- The value of an operation, or the end of the round with its failure. -/
def lift {α : Type} (r : Except Raised α) : Step α :=
  match r with
  | .ok v => pure v
  | .error e => throw (.failure e)

/-- The files of a repository with one file written: in its place if it exists, else last. -/
def writeFile (name text : String) : List (String × String) → List (String × String)
  | [] => [(name, text)]
  | (n, t) :: rest => if n == name then (name, text) :: rest else (n, t) :: writeFile name text rest

/-- The text of a file of the repository, if it exists. -/
def file? (name : String) : Step (Option String) := do
  pure ((← get).files.lookup name)

/-- The seconds a runner may take before it times out. -/
def timeoutOf (key : String) : Nat :=
  if key == "repotime" then 120 else if key == "semcheck" then 300 else 600

/-- The failure of a start. -/
def raised (key : String) : Raise → Raised
  | .timeout =>
    ⟨"TimeoutExpired", "Command '" ++ key ++ "' timed out after " ++ toString (timeoutOf key) ++
      " seconds"⟩
  | .osError => ⟨"OSError", "cannot run " ++ key⟩

/-- Starts the process of a key: its files are written, then its exit code and output are
given; or the failure of its start. -/
def start (s : Setup) (key : String) : Step (Except Raised (Int × String × String)) := do
  let p := (s.procs.lookup key).getD
    (if key == "git" then { Job.quiet with returncode := 128 } else Job.quiet)
  match p.raise? with
  | some r => pure (.error (raised key r))
  | none =>
    modify fun d => { d with files := p.writes.foldl (fun fs (n, t) => writeFile n t fs) d.files }
    pure (.ok (p.returncode, p.stdout, p.stderr))

end Step

end Report

end Monkey
