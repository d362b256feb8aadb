import Monkey.Eval
import Monkey.Syntax.Parser

/-!
# Sessions

The ways a program is run from outside.

- `evaluate` runs a source text in a fresh top-level scope, even when it has parse errors, and
  reports the result, its type and text, the views of the result and of the top-level
  bindings, the parse errors and the output.
- `repl` reads lines from standard input, each prompted by `>> `, and evaluates each in one
  top-level scope kept across lines, writing the parse errors (each after a tab) and the text of
  each result; it ends at the exit signal or when input runs out.
- `runFile` runs the text of a file, which must be ASCII: it writes the parse errors, then the
  text of the result unless that is `null`. Line ends `\r\n` and `\r` read as `\n`.
- `commandLine` runs the read-eval-print loop without arguments, and otherwise the file named by
  the first argument, writing `File not found!` when there is none. The argument is a path from
  the working directory, whose steps are taken one by one as the system takes them.
-/

namespace Monkey

/-- A new top-level frame: one empty scope, outside any loop. -/
def Run.topFrame : Run Frame := do pure ⟨[← Run.newScope []], false⟩

/-- What a finished evaluation shows. -/
structure Outcome where
  /-- the type name of the result, if there is one -/
  type? : Option String
  /-- the text of the result, if it has one; a bound method shows as its kind, quoted -/
  text? : Option String
  /-- the view of the result -/
  value : View
  /-- the views of the top-level bindings, sorted by name -/
  env : List (String × View)

/-- The report of evaluating a source text. -/
structure Evaluation where
  parseErrors : List String
  out : String
  /-- what the evaluation shows, or the fault that stopped it -/
  outcome : Except Fault Outcome

/-- What a result shows once evaluation is over. -/
def Outcome.of (h : Heap) (scope : Nat) (v : Value) : Except Fault Outcome := do
  let type? ← match v with
    | .void => pure none
    | _ => some <$> v.typeName
  let text? ← match v with
    | .void => pure none
    | _ => do
      match ← v.inspect h with
      | .text s => pure (some s)
      | .nothing => pure none
      | .method => pure (some ("'" ++ Shown.method.kind ++ "'"))
  let value ← v.view h
  let env ← h.viewScope scope
  pure ⟨type?, text?, value, env⟩

/-- Evaluates a source text with the given standard input. -/
def evaluate (src : String) (stdin : String) : Evaluation :=
  let parsed := Program.parse src
  let run : Run Outcome := do
    let fr ← Run.topFrame
    let v ← parsed.program.eval fr
    Run.lift (Outcome.of (← Run.heap) (fr.chain.headD 0) v)
  match run.run { input := Machine.linesOf stdin } with
  | .ok o m => ⟨parsed.errors, m.out, .ok o⟩
  | .error e m => ⟨parsed.errors, m.out, .error e⟩

/-- How a session ended. -/
inductive Ending where
  /-- a result was the exit signal -/
  | exited
  /-- standard input ran out -/
  | inputEnded
  /-- the session returned normally -/
  | returned
  deriving DecidableEq, Repr

/-- The output of a session and how it ended, or the fault that stopped it. -/
structure Transcript where
  out : String
  ending : Except Fault Ending

/-- Writes parse errors, each on a line after a tab. -/
def Run.writeErrors (errors : List String) : Run Unit :=
  errors.forM fun e => Run.write ("\t" ++ e ++ "\n")

/-- One round of the read-eval-print loop in a frame: prompt, read, evaluate, write. -/
def replRound (fr : Frame) : Run (Round Unit Ending) := do
  Run.write ">> "
  let line ← Run.readLine
  let parsed := Program.parse line
  if !parsed.errors.isEmpty then Run.writeErrors parsed.errors
  let v ← parsed.program.eval fr
  match v with
  | .void => pure (.next ())
  | _ =>
    let s ← Run.lift (v.inspect (← Run.heap))
    Run.write (s.str ++ "\n")
    match v with
    | .exitSig _ => pure (.done .exited)
    | _ => pure (.next ())

/-- The read-eval-print loop, as a run; it stops with `Fault.inputExhausted` when input runs
out. -/
def Run.repl : Run Ending := do
  let fr ← Run.topFrame
  let rounds := (← get).input.length + 1
  Run.loopFor rounds (fun _ => replRound fr) ()

/-- The transcript of a run on the given standard input. -/
def Transcript.ofRun (run : Run Ending) (stdin : String) : Transcript :=
  match run.run { input := Machine.linesOf stdin } with
  | .ok e m => ⟨m.out, .ok e⟩
  | .error f m => ⟨m.out, .error f⟩

/-- The transcript of a session, where running out of input ends the session. -/
def Transcript.ofSession (run : Run Ending) (stdin : String) : Transcript :=
  let t := Transcript.ofRun run stdin
  match t.ending with
  | .error .inputExhausted => ⟨t.out, .ok .inputEnded⟩
  | _ => t

/-- The read-eval-print loop on the given standard input. -/
def repl (stdin : String) : Transcript := Transcript.ofSession Run.repl stdin

/-- The text with its line ends `\r\n` and `\r` read as `\n`. -/
def readLineEnds : List Char → List Char
  | '\r' :: '\n' :: rest => '\n' :: readLineEnds rest
  | '\r' :: rest => '\n' :: readLineEnds rest
  | c :: rest => c :: readLineEnds rest
  | [] => []

/-- The fault of reading a text's UTF-8 bytes as ASCII: at the first byte above 127, if any,
from byte position `pos` on. -/
def asciiFault? (pos : Nat) : List Char → Option Fault
  | [] => none
  | c :: rest =>
    if c.toNat < 128 then asciiFault? (pos + 1) rest
    else some (.undecodable ((String.utf8EncodeChar c).headD 0).toNat pos)

/-- Runs the text of a file: its parse errors, then the text of its result unless it is
`null`. -/
def Run.file (text : String) : Run Unit := do
  match asciiFault? 0 text.toList with
  | some f => throw f
  | none => pure ()
  let parsed := Program.parse (String.ofList (readLineEnds text.toList))
  if !parsed.errors.isEmpty then Run.writeErrors parsed.errors
  let fr ← Run.topFrame
  let v ← parsed.program.eval fr
  match v with
  | .void => pure ()
  | _ =>
    let s ← Run.lift (v.inspect (← Run.heap))
    if s != .text "null" then Run.write (s.str ++ "\n")

/-- Runs a file if there is one, and otherwise says that there is none. -/
def Run.fileIfAny (file : Option String) : Run Unit :=
  match file with
  | some text => Run.file text
  | none => Run.write "File not found!\n"

/-- Runs a file, if there is one, with the given standard input. -/
def runFile (file : Option String) (stdin : String) : Transcript :=
  Transcript.ofRun (do Run.fileIfAny file; pure .returned) stdin

/-- The place of a file written into the working directory under a name: the names between its
slashes, without the empty ones and `.`, a `..` going back one. -/
def place (name : String) : List String :=
  (name.splitOn "/").foldl (fun here step =>
    if step == "" || step == "." then here
    else if step == ".." then here.dropLast
    else here ++ [step]) []

/-- Whether a place is a directory among the places of files: a file lies below it. -/
def isDirectory (places : List (List String)) (here : List String) : Bool :=
  places.any fun p => here.length < p.length && p.take here.length == here

/-- The place the steps of a path lead to from `here`, taken as the system takes them: an empty
step and `.` stay, `..` goes back one, and a name goes into it. Every step after a name needs
that name to be a directory, and going back from the working directory leaves the files:
either way the path leads nowhere. -/
def resolve (places : List (List String)) : List String → List String → Option (List String)
  | here, [] => some here
  | here, step :: rest =>
    if !here.isEmpty && !isDirectory places here then none
    else if step == "" || step == "." then resolve places here rest
    else if step == ".." then
      if here.isEmpty then none else resolve places here.dropLast rest
    else resolve places (here ++ [step]) rest

/-- The text of the file a path names from the working directory, among files given by name: a
later file of one place replaces an earlier one. -/
def fileAt (files : List (String × String)) (path : String) : Option String := do
  let here ← resolve (files.map (place ·.1)) [] (path.splitOn "/")
  (files.reverse.find? (place ·.1 == here)).map (·.2)

/-- The command line with the file its first argument names already looked up: without
arguments the read-eval-print loop, which ends normally at the exit signal; otherwise that
file. -/
def commandLineWith (args : List String) (file : Option String) (stdin : String) : Transcript :=
  match args with
  | [] => Transcript.ofSession (do let _ ← Run.repl; pure .returned) stdin
  | _ :: _ => Transcript.ofSession (do Run.fileIfAny file; pure .returned) stdin

/-- The command line over files given by name, which the first argument names a path among. -/
def commandLine (args : List String) (files : List (String × String)) (stdin : String) :
    Transcript :=
  commandLineWith args (args.head?.bind (fileAt files)) stdin

end Monkey
