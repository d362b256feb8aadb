import Monkey.Report.Coverage
import Monkey.Report.SelfCheck
import Monkey.Text.Word

/-!
# The measurement round

One round of measuring the benchmarks, as a report and a line of history. The round runs the
coverage runner, then, when their scripts are present, the profile and the self-check, each as
a process that answers with a JSON document on the last line of its output. It reads the files
of the repository, and it appends a line to the checkpoint history before it writes its
report.

The round goes in this order:

1. The coverage runner runs. If it fails, or leaves no coverage document, the round writes its
   output and exits with its code, or with 1 when that is 0.
2. The coverage document is read, with its lines ended as a file's are. Its totals are read as
   numbers, and its benchmark errors are counted.
3. The benchmarks defined in `microbench.py` are counted (see `benchCount`).
4. The profile runs: its shares are read as doubles and its hot spots made a dictionary. Shares
   read stand when the hot spots cannot be made a dictionary.
5. The repository's modified files are listed, the self-check runs, and the verdicts are made.
6. The history is read, its line ends read as a file's. Its lines that are not blank give the
   round number, one more than their count. Then, as one attempt (see `review`), the round
   reads each line as an object, decides whether the history has stalled, tests the shares
   covered against the target and takes the time since the last line, and then writes the
   history back with its own line appended.
7. The report is written. Each part ends with a blank line:
   - the coverage table (see `coverageTable`);
   - the benchmarks that failed under coverage, at most eight of them shown;
   - the share of each benchmark's time spent in the repository, least first, starred below
     45%, with the hot spots outside the repository of a starred one; a failed benchmark
     shows `<error>`;
   - the modified files of the repository, at most ten shown, when there are verdicts;
   - the self-check verdicts (see `selfCheckSection`);
   - a summary line with the round, the benchmarks defined, the share covered and the counts
     of benchmarks below the share and not self-checking.

The round asks to stop when the coverage is at least 60% and there are shares: when no
benchmark is below the share, whatever the history holds, or when the fewest below has not
improved for three rounds or more.

A runner that cannot start, answers with something other than JSON, or answers with values
that cannot be read is reported on the error output. It then counts as having answered
nothing, except that the verdicts made before a failing one stand. Any other failure ends the
round with its kind and message. The elapsed time is not measured: the summary shows `<t>` in
its place.
-/

namespace Monkey

namespace Report

namespace Step

/-- Reports a runner's failure on the error output. -/
def runnerFailed (key : String) (r : Raised) : Step Unit :=
  warn ("[" ++ key ++ " runner: " ++ r.kind ++ ": " ++ r.message ++ "]\n")

/-- The document on the last line of a runner's output: the empty object when there is no
line or the last line is empty. -/
def answerOf (out : String) : Except Raised Json :=
  match (Text.breakLines out).getLast? with
  | none => pure (.obj [])
  | some line => if line.isEmpty then pure (.obj []) else Json.parse line

/-- Starts a runner and reads its answer, passing its error output on; or the failure of
starting it or of reading its answer. -/
def runner (s : Setup) (key : String) : Step (Except Raised Json) := do
  match ← start s key with
  | .error r => pure (.error r)
  | .ok (_, out, err) =>
    warn err
    pure (answerOf out)

/-- The modified files of the repository, from a short status listing (two status letters and a
space before each path); none when the listing fails. -/
def modifiedFiles (s : Setup) : Step (List String) := do
  match ← start s "git" with
  | .error _ => pure []
  | .ok (code, out, _) =>
    if code != 0 then pure []
    else pure ((Text.breakLines out).filterMap fun l =>
      if (Text.trim l).isEmpty then none else some (String.ofList (l.toList.drop 3)))

end Step

/-- The shares of a profile document, each read as a double; a missing or false part counts
as empty. -/
def readShares (doc : Json) : Except Raised (List (String × Float)) := do
  let shares ← (← doc.getOr "repo_time_pct" .null).orEmpty.pairs
  shares.mapM fun (n, v) => do pure (n, ← v.toFloat)

/-- The hot spots of a profile document made a dictionary; a missing or false part counts as
empty. -/
def readHot (doc : Json) : Except Raised (List (Json × Json)) := do
  Json.toDict (← doc.getOr "hot_ext" .null).orEmpty

/-- The text of a benchmark's hot spots: each a pair of a share and a module, shown as the
module and the share in whole percent. -/
def hotText (spots : Json) : Except Raised String := do
  let parts ← (← spots.iter).mapM fun spot => do
    let (pct, module) ← spot.unpackPair
    pure (module.text ++ " " ++ (← pct.fixedText 0) ++ "%")
  pure (" ".intercalate parts)

/-- The line of a benchmark in the repository-time part: starred below 45%, with the hot spots
of a starred one that has any, and `<error>` for a failed one (a negative share). -/
def repoTimeRow (hot : List (Json × Json)) (name : String) (share : Float) :
    Except Raised String := do
  if share < 0.0 then
    return "    " ++ Text.padRight name 32 ++ " " ++ Text.padLeft (Decimal.fixed 0.0 1) 5 ++
      "%  <error>"
  let below := share < 45.0
  let line := "  " ++ (if below then "*" else " ") ++ " " ++ Text.padRight name 32 ++ " " ++
    Text.padLeft (Decimal.fixed share 1) 5 ++ "%"
  if !below then return line
  let spots := (Json.dictGet hot (.str name)).getD .null
  if !spots.truthy then return line
  pure (line ++ " (hot: " ++ (← hotText spots) ++ ")")

/-- The fewest of some counts of benchmarks below the share, the first of equal ones, and how
many counts follow the first count equal to it. -/
def stagnation (counts : List Json) : Nat × Json :=
  let best := counts.foldl (fun m y =>
    match Json.lt y m with
    | .ok true => y
    | _ => m) (counts.headD (.int 0))
  let first := (counts.findIdx? (Json.same best)).getD 0
  (counts.length - 1 - first, best)

/-- The count of benchmarks below the share in an entry of the history, if it is an integer or
a Boolean; the entry must be an object. -/
def belowIn (entry : Json) : Except Raised (Option Json) := do
  match ← entry.getOr "n_below_repo_time" .null with
  | .int n => pure (some (.int n))
  | .bool b => pure (some (.bool b))
  | _ => pure none

/-- The note that asks to stop because no benchmark is below the share, at a coverage of at
least 60%. -/
def convergedNote (percent : Float) (below : Option Nat) : Option String :=
  if percent ≥ 60.0 && below == some 0 then
    some ">>> STOP: repo_time converged (0 below). Finalize microbench.py now. <<<"
  else none

/-- The note that asks to stop because the fewest benchmarks below the share has not improved
for three rounds or more, at a coverage of at least 60% with some benchmark below, from the
entries of the history. The fewest is shown as the history holds it. -/
def stalledNote (entries : List Json) (percent : Float) (below : Option Nat) :
    Except Raised (Option String) := do
  match below with
  | none => pure none
  | some nb =>
    if percent ≥ 60.0 && nb != 0 then
      let counts := (← entries.filterMapM belowIn) ++ [.int nb]
      let (rounds, best) := stagnation counts
      if rounds ≥ 3 then
        return some (">>> STOP: repo_time converged (no improvement in " ++ toString rounds ++
          " rounds; best " ++ best.text ++ " below). Finalize microbench.py now. <<<")
    pure none

/-- Whether a coverage share of the history reaches the target of 60%, compared as the round
compares it: a number by value, anything else failing. -/
def reachesTarget (v : Json) : Except Raised Bool :=
  match Json.numeric? v with
  | some x => pure (x.compare (.finite 60 1) != .lt)
  | none =>
    if v.isNaN then pure false
    else throw ⟨"TypeError", "'>=' not supported between instances of '" ++ v.typeName ++
      "' and 'int'"⟩

/-- Whether the current time can be taken from the time of the last entry of the history, when
it has a true one: it must be a number within the range of doubles. -/
def timedAfter (entries : List Json) : Except Raised Unit := do
  match entries.getLast? with
  | none => pure ()
  | some last =>
    let t ← last.getOr "ts" .null
    if t.truthy then
      match t with
      | .int n => let _ ← Json.intToFloat n
      | .float _ | .bool _ => pure ()
      | _ => throw (Json.unsupported "-" (.float 0.0) t)

/-- Whether the share covered of an entry of the history, zero when missing or false, reaches
the target. -/
def coverageReached (entry : Json) : Except Raised Bool := do
  reachesTarget ((← entry.getOr "coverage_pct" .null).orElse (.int 0))

/-- What the round makes of its history's lines that are not blank: the note that asks to stop
because the history has stalled, and whether its own line is appended. Each line must read as
an object. The shares covered of all lines but the last are tested against the target in
order until one reaches it; then the note is made; then, when none of them reached it, the
share of the last line is tested; and the time since the last line is taken. A failure leaves
the rest undone, silently: before the note is made, the note too; after, the note stands. -/
def review (lines : List String) (percent : Float) (below : Option Nat) : Option String × Bool :=
  match lines.mapM Json.parse with
  | .error _ => (none, false)
  | .ok entries =>
    let noted : Except Raised (Bool × Option String) := do
      let reachedBefore ← entries.dropLast.anyM coverageReached
      pure (reachedBefore, ← stalledNote entries percent below)
    match noted with
    | .error _ => (none, false)
    | .ok (reachedBefore, note) =>
      let checked : Except Raised Unit := do
        if !reachedBefore then
          if let some last := entries.getLast? then
            let _ ← coverageReached last
        timedAfter entries
      (note, checked matches .ok _)

/-- The keys of a line of history that change from run to run. -/
def timeKeys : List String := ["ts", "wall_since_prev_s", "cov_measure_s"]

/-- The lines appended to a history, as the objects they hold without their times: the lines
of the final text after the first text when it begins the final one, else all of them, blank
lines left out. When one of them is not an object, none is seen. -/
def appendedLines (first final : String) : List Json :=
  let tail := if first.isPrefixOf final then (final.drop first.length).toString else final
  let fresh := (Text.lines tail).filter fun l => !(Text.trim l).isEmpty
  match fresh.mapM fun l => (Json.parse l).toOption with
  | some js =>
    if js.all Json.isObj then
      js.map fun j => .obj (j.members.filter fun (k, _) => !timeKeys.contains k)
    else []
  | none => []

/-- What a round ends with: its exit code if it exited, the report, the error output and the
history file at the end. -/
structure Measurement where
  ending : Except Raised (Option Int)
  stdout : String
  stderr : String
  history : String

/-- The name of the history file. -/
def historyFile : String := ".pti_checkpoint.jsonl"

/-- The name of the coverage document. -/
def coverageFile : String := "_pti_coverage.json"

/-- Whether a text begins with a benchmark's definition: `def bench_`, one or more word
characters, any blanks, line ends among them, and an opening parenthesis. -/
def opensBench (cs : List Char) : Bool :=
  let head := "def bench_".toList
  if head.isPrefixOf cs then
    let rest := cs.drop head.length
    let name := rest.takeWhile Text.isWordChar
    !name.isEmpty && ((rest.drop name.length).dropWhile Text.isBlank).head? == some '('
  else false

/-- The number of line ends in a text after which a benchmark's definition begins, added to a
count. -/
def benchesAfter : List Char → Nat → Nat
  | [], n => n
  | c :: rest, n => benchesAfter rest (if c == '\n' && opensBench rest then n + 1 else n)

/-- The number of benchmarks a file defines: the lines, their ends read as a file's, that
begin a benchmark's definition. -/
def benchCount (text : String) : Nat :=
  let cs := (Text.asRead text).toList
  benchesAfter cs (if opensBench cs then 1 else 0)

/-- The lines of a file that are not blank, its line ends read as a file's. -/
def fileLines (text : String) : List String :=
  (Text.lines text).filter fun l => !(Text.trim l).isEmpty

/-- A round in a setup. -/
def round (s : Setup) : Step Unit := do
  match ← Step.start s "cov" with
  | .error r => throw (.failure r)
  | .ok (code, out, err) =>
    Step.warn err
    if code != 0 || (← Step.file? coverageFile).isNone then
      Step.say ("coverage measurement failed (exit " ++ toString code ++ ")")
      Step.say out
      throw (.exit (if code == 0 then 1 else code))
  let doc ← Step.lift (Json.parse (Text.asRead ((← Step.file? coverageFile).getD "")))
  let totals ← Step.lift (Totals.of doc)
  let errors ← Step.lift do
    pure (← (← doc.getOr "meta" .null).orEmpty.getOr "_pti_bench_errors" .null).orEmpty
  let errorCount ← Step.lift errors.length
  let benches := benchCount (((← Step.file? "microbench.py")).getD "")
  let (shares, hot) ← if (← Step.file? "_pti_repotime.py").isSome then do
      let answer ← Step.runner s "repotime"
      match answer >>= readShares with
      | .error r => do Step.runnerFailed "repotime" r; pure ([], [])
      | .ok shares =>
        match answer >>= readHot with
        | .ok hot => pure (shares, hot)
        | .error r => do Step.runnerFailed "repotime" r; pure (shares, [])
    else pure ([], [])
  let shares := Id.run (hostSort (fun a b => pure (a.2 < b.2)) shares)
  let measured := shares.filter (·.2 ≥ 0.0)
  let below := (measured.filter (·.2 < 45.0)).length
  let belowCount : Option Nat := if measured.isEmpty then none else some below
  let (vs, modified) ← if (← Step.file? "_pti_semcheck.py").isSome then do
      let modified ← Step.modifiedFiles s
      let answer ← Step.runner s "semcheck"
      match answer with
      | .error r => do Step.runnerFailed "semcheck" r; pure ([], modified)
      | .ok checks =>
        let (vs, failure) := verdicts (!modified.isEmpty) checks
        if let some r := failure then Step.runnerFailed "semcheck" r
        pure (vs, modified)
    else pure ([], [])
  let notChecking := (vs.filter fun v => !v.status.fine).length
  let history := fileLines (((← Step.file? historyFile)).getD "")
  let roundNo := history.length + 1
  let (stalled, appended) := review history totals.percent belowCount
  let note := convergedNote totals.percent belowCount <|> stalled
  let line : Json := .obj [("round", .int roundNo), ("coverage_pct", .float totals.percent),
    ("covered_lines", .int totals.covered), ("num_statements", .int totals.statements),
    ("n_bench_fns", .int benches), ("n_bench_errors", .int errorCount),
    ("repo_time_pct", .obj (shares.map fun (n, v) => (n, .float v))),
    ("n_below_repo_time", match belowCount with
      | some n => .int n
      | none => .null),
    ("semcheck", .obj (vs.map fun v => (v.name, .str v.status.name))),
    ("n_not_self_checking", .int notChecking)]
  if appended then
    let before := ((← Step.file? historyFile)).getD ""
    modify fun d =>
      { d with
        files := Step.writeFile historyFile (Text.asRead before ++ line.dump ++ "\n") d.files }
  coverageTable doc totals
  if errors.truthy then
    Step.say (toString errorCount ++ " bench error(s):")
    let listed ← Step.lift errors.pairs
    (listed.take 8).forM fun (n, m) => Step.say ("  " ++ n ++ ": " ++ m.text)
    Step.say ""
  if !shares.isEmpty then
    Step.say "repo_time (target 50%; * = below 45%):"
    shares.forM fun (n, v) => do Step.say (← Step.lift (repoTimeRow hot n v))
    Step.say ""
  if !vs.isEmpty then
    if !modified.isEmpty then
      Step.say ("** repo modified (" ++ toString modified.length ++
        " file(s)) — revert these; only microbench.py is yours to edit:")
      (modified.take 10).forM fun p => Step.say ("   " ++ p)
      Step.say ""
    (selfCheckSection vs).forM Step.say
  let parts := ["round " ++ toString roundNo ++ ": " ++ toString benches ++ " benches",
    Decimal.fixed totals.percent 1 ++ "% covered"] ++
    (if shares.isEmpty then [] else
      [toString below ++ "/" ++ toString measured.length ++ " below repo_time 45%"]) ++
    (if vs.isEmpty then [] else
      [toString notChecking ++ "/" ++ toString vs.length ++ " not self-checking"]) ++
    ["measured in <t>s"]
  Step.say ("[" ++ ", ".intercalate parts ++ "]")
  if let some n := note then
    Step.say ""
    Step.say n

/-- A measurement round in a setup. -/
def measure (s : Setup) : Measurement :=
  let final (d : Desk) : String := (d.files.lookup historyFile).getD ""
  match (round s).run ⟨s.files, "", ""⟩ with
  | .ok _ d => ⟨.ok none, d.out, d.err, final d⟩
  | .error (.exit code) d => ⟨.ok (some code), d.out, d.err, final d⟩
  | .error (.failure r) d => ⟨.error r, d.out, d.err, final d⟩

/-- The lines a round appended to its history, as the objects they hold without their times. -/
def Measurement.appended (s : Setup) (m : Measurement) : List Json :=
  appendedLines ((s.files.lookup historyFile).getD "") m.history

end Report

end Monkey
