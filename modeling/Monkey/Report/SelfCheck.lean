import Monkey.Report.Json.Ops
import Monkey.Decimal.Fixed
import Monkey.Text.Lines

/-!
# Self-check verdicts

The self-check reports, for each benchmark, the type of its result, the fingerprints of its
results with the defaults, by parameter set and of the parameter values, the share of its time
spent in the repository's code and its times. A verdict reads these in a fixed order, the first
rule that applies deciding:

1. the repository was modified: `repo-modified`;
2. no result type, or a failure in angle brackets: `error`;
3. no value returned: `returns-none`;
4. the runs with the defaults do not give one fingerprint: `unstable`;
5. a result is the fingerprint of a parameter value: `returns-input`;
6. less than half the time in the repository: `low-repo-time`;
7. a median time under a millisecond: `too-fast`;
8. two or more parameter sets, all with one result: `param-invariant`;
9. fewer than two parameter sets: `ok-unparam`;
10. otherwise `ok`.

Only `ok` and `ok-unparam` need no fix.

The entry is read as the tools read it, all of it before any rule, in this order: the result
type, the fingerprints with the defaults made a set, the fingerprints by parameter set, the
times, the shares in the repository and outside it, each an object's values read as doubles,
and the fingerprints of the parameter values made a set. A missing or false value counts as
empty. Set items must be strings, numbers or null, and numbers equal in value are one item.
Only the rule on parameter sets reads the fingerprints by parameter set, and only as far as it
needs. The least share and the median time are compared with a half and with one millisecond,
and are shown rounded to two places. An entry that cannot be read this way stops the verdicts
there, and the verdicts before it stand.
-/

namespace Monkey

namespace Report

/-- What the self-check concludes of a benchmark. -/
inductive Status where
  | repoModified
  | error
  | returnsNone
  | unstable
  | returnsInput
  | lowRepoTime
  | tooFast
  | paramInvariant
  | okUnparam
  | ok
  deriving DecidableEq

namespace Status

/-- The name of a status in reports. -/
def name : Status → String
  | repoModified => "repo-modified"
  | error => "error"
  | returnsNone => "returns-none"
  | unstable => "unstable"
  | returnsInput => "returns-input"
  | lowRepoTime => "low-repo-time"
  | tooFast => "too-fast"
  | paramInvariant => "param-invariant"
  | okUnparam => "ok-unparam"
  | ok => "ok"

/-- Whether a status needs no fix. -/
def fine : Status → Bool
  | okUnparam | ok => true
  | _ => false

end Status

/-- A benchmark's verdict and what its line shows. -/
structure Verdict where
  name : String
  status : Status
  /-- the type of the result, `?` when there is none -/
  resultType : String
  /-- the least share of time in the repository, as a fraction rounded to two places; zero
  when there is none -/
  repoShare : Float
  /-- the median time in the repository, in milliseconds rounded to two places; zero when
  there is none -/
  millis : Float

namespace Verdict

/-- The status of a benchmark from what its self-check entry gives, given whether the
repository was modified: the result type, the fingerprints with the defaults and of the
parameter values, the fingerprints by parameter set, and the least share and median time. -/
def judge (modified : Bool) (ret : Json) (stable inputs : List Json) (byParam : Json)
    (share? millis? : Option Float) : Except Raised Status := do
  if modified then return .repoModified
  if ret.text == "?" || ret.text.startsWith "<" then return .error
  if ret.text == "NoneType" then return .returnsNone
  if stable.length != 1 then return .unstable
  if stable.any fun f => inputs.any (Json.same f) then return .returnsInput
  if let some share := share? then
    if share < 0.5 then return .lowRepoTime
  if let some millis := millis? then
    if millis < 1.0 then return .tooFast
  let count ← byParam.length
  if count ≥ 2 then
    if (← Json.toSet (.arr (← byParam.values))).length == 1 then return .paramInvariant
  if count < 2 then return .okUnparam
  return .ok

/-- The values of an object of numbers, each read as a double; a missing or false one has
none. -/
def doubles (j : Json) : Except Raised (List Float) := do
  (← j.orEmpty.values).mapM Json.toFloat

/-- The least of some doubles: each later one replaces the least so far when it is less. -/
def leastOf : List Float → Option Float
  | [] => none
  | x :: rest => some (rest.foldl (fun m y => if y < m then y else m) x)

/-- The median of some doubles: the middle one after sorting, or the mean of the two middle
ones; none of none. -/
def medianOf (xs : List Float) : Option Float :=
  let s := Id.run (hostSort (fun a b => pure (a < b)) xs)
  let n := s.length
  if n == 0 then none
  else if n % 2 == 1 then some (s.getD (n / 2) 0.0)
  else some ((s.getD (n / 2 - 1) 0.0 + s.getD (n / 2) 0.0) / 2.0)

/-- The verdict on a benchmark's self-check entry, given whether the repository was modified. -/
def of (modified : Bool) (name : String) (entry : Json) : Except Raised Verdict := do
  let ret := (← entry.getOr "ret_type" .null).orElse (.str "?")
  let stable ← Json.toSet ((← entry.getOr "fp_stable" .null).orElse (.arr []))
  let byParam := (← entry.getOr "fp_by_param" .null).orEmpty
  let times ← doubles (← entry.getOr "repo_tt_ms" .null)
  let shares ← doubles (← entry.getOr "repo_frac" .null)
  let _ ← doubles (← entry.getOr "ext_frac" .null)
  let inputs ← Json.toSet ((← entry.getOr "param_fps" .null).orElse (.arr []))
  let share? := leastOf shares
  let millis? := medianOf times
  let st ← judge modified ret stable inputs byParam share? millis?
  let shown (v? : Option Float) : Float := Decimal.roundPlaces (v?.getD 0.0) 2
  pure ⟨name, st, ret.text, shown share?, shown millis?⟩

/-- The line of a verdict in the report, starred when it needs a fix. -/
def row (v : Verdict) : String :=
  "  " ++ (if v.status.fine then " " else "*") ++ " " ++ Text.padRight v.name 32 ++ " " ++
    Text.padRight v.status.name 16 ++ " (" ++ v.resultType ++ ", repo " ++
    Decimal.fixed (v.repoShare * 100.0) 0 ++ "%) " ++ Decimal.fixed v.millis 1 ++ "ms"

end Verdict

/-- What each status that needs a fix asks for. -/
def selfCheckLegend : List String := [
  "  returns-none: run() has no return — collect and return the call results",
  "  unstable: seed RNG in setup; avoid time/uuid/id in the return",
  "  returns-input: return repo output, not the parameter value",
  "  low-repo-time: <50% of run() time is in repo code — move glue to setup",
  "  param-invariant: return something derived from run()'s work, not setup",
  "  repo-modified: revert edits to repo files (git checkout -- <path>)"]

/-- The verdicts on the object entries of a self-check document, in its order, up to the first
entry whose verdict fails, with that failure; a missing or false `semcheck` counts as empty. -/
def verdicts (modified : Bool) (doc : Json) : List Verdict × Option Raised :=
  let rec go (acc : List Verdict) : List (String × Json) → List Verdict × Option Raised
    | [] => (acc.reverse, none)
    | (name, entry) :: rest =>
      if !entry.isObj then go acc rest
      else match Verdict.of modified name entry with
        | .ok v => go (v :: acc) rest
        | .error r => (acc.reverse, some r)
  match doc.getOr "semcheck" .null >>= fun j => j.orEmpty.pairs with
  | .ok entries => go [] entries
  | .error r => ([], some r)

/-- The self-check part of a report: the heading, the legend, the verdicts that need a fix and
then the others, each group in its order, and a blank line. -/
def selfCheckSection (vs : List Verdict) : List String :=
  ["self-check (* = fix needed):"] ++ selfCheckLegend ++
    (vs.filter fun v => !v.status.fine).map Verdict.row ++
    (vs.filter fun v => v.status.fine).map Verdict.row ++
    [""]

end Report

end Monkey
