import Monkey.Bench.Suite
import Monkey.Bench.Modules
import Monkey.Report.Json.Read

/-!
# The measurement harness

Three tools look at the benchmarks from outside, each on a module of benchmarks that it is
handed as a list of entries.

- The *self-check* runs each benchmark twice with its defaults and once with each of its
  parameter sets, stopping at the first run that fails, and reports the type of the last
  result and the fingerprints of the results and of the parameter values. A benchmark that is
  deterministic and depends on its parameter shows two equal fingerprints and different ones by
  parameter. Run *blind*, against an
  interpreter whose every part is a stand-in, it runs each benchmark once; what it reports
  then shows whether the benchmark's result comes from the interpreter at all.
- The *profile* runs each benchmark once with its defaults and marks those that fail, with the
  kind of their failure as their one hot spot.
- The *coverage runner* reads the files it leaves out as a JSON document, loads a named module
  and runs each of its benchmarks with its defaults; it reports how many there are and which
  failed, with their failures. Only the module of benchmarks holds benchmarks; any other
  module that loads holds none.

A module is built from the entries named `bench_…`; a later entry of a name replaces an earlier
one, and a name that is no benchmark makes loading fail.
-/

namespace Monkey

namespace Harness

/-- Keyword arguments, in order. -/
abbrev Kwargs := List (String × Datum)

/-- A benchmark as the harness is handed it: its name, values that replace its defaults, and
the parameter sets it is checked with, when it has any. -/
structure Entry where
  name : String
  defaults : Kwargs
  params? : Option (List Kwargs)

/-- Sets a key of an association list: in its place if the key is there, else at the end. -/
def put {α : Type} (k : String) (v : α) : List (String × α) → List (String × α)
  | [] => [(k, v)]
  | (k', v') :: rest => if k' == k then (k, v) :: rest else (k', v') :: put k v rest

/-- Keyword arguments `given` laid over `defaults`: a keyword of both keeps the place of the
default with the given value, and the others follow in order. -/
def overlay (defaults given : Kwargs) : Kwargs :=
  given.foldl (fun acc (k, v) => put k v acc) defaults

/-- The name of the module that the self-check and the profile load. -/
def moduleName : String := "microbench"

/-- The message of loading a module that lacks a name. -/
def missingName (module name : String) : String :=
  "AttributeError: module '" ++ module ++ "' has no attribute '" ++ name ++ "'"

/-- The benchmarks of a module built from entries, each with the entry that configures it, in
the order of their first entries; or the message of the failure to build it. -/
def load (entries : List Entry) : Except String (List (Benchmark × Entry)) := do
  let named ← entries.foldlM (fun (acc : List (String × (Benchmark × Entry))) e =>
    if !e.name.startsWith "bench_" then pure acc
    else match Benchmark.named? e.name with
      | none => throw (missingName moduleName e.name)
      | some b => pure (put e.name (b, e) acc)) []
  pure (named.map (·.2))

/-- Runs a configured benchmark with keyword arguments laid over its entry's defaults. -/
def run (b : Benchmark) (e : Entry) (kwargs : Kwargs) : Bench.Outcome :=
  b.call (overlay e.defaults kwargs)

/-- The type of a result, or the kind of a failure between angle brackets. -/
def typeText (o : Bench.Outcome) : String :=
  match o.result with
  | .ok d => d.typeName
  | .error f => "<" ++ f.kind ++ ">"

/-- The text of a parameter set: its keywords and values joined by commas, or `-` when it is
empty. -/
def paramText (p : Kwargs) : String :=
  if p.isEmpty then "-" else ",".intercalate (p.map fun (k, v) => k ++ "=" ++ v.text)

/-- What the self-check finds of one benchmark. -/
structure Finding where
  /-- the type of the result of the last run, or the kind of its failure -/
  retType : String
  /-- the fingerprints of the results of the runs with the defaults that succeeded -/
  stable : List String
  /-- the fingerprint of the result of each parameter set that ran, by the set's text -/
  byParam : List (String × String)
  /-- the fingerprints of the values of the parameter sets that ran -/
  paramFps : List String

/-- The finding of runs in order, each with its parameter set or none for the defaults. -/
def Finding.of (runs : List (Option Kwargs × Bench.Outcome)) : Finding :=
  let ran := runs.filterMap fun (p, o) => match o.result with
    | .ok d => some (p, d.fingerprint)
    | .error _ => none
  let params := ran.filterMap fun (p, fp) => p.map (·, fp)
  { retType := ((runs.getLast?.map fun (_, o) => typeText o)).getD ""
    stable := ran.filterMap fun (p, fp) => if p.isNone then some fp else none
    byParam := params.foldl (fun acc (p, fp) => put (paramText p) fp acc) []
    paramFps := params.flatMap fun (p, _) => p.map fun (_, v) => v.fingerprint }

/-- Runs a configured benchmark with each parameter set in order, none standing for the
defaults, up to the first run that fails, that run included. -/
def runUntilFailure (b : Benchmark) (e : Entry) :
    List (Option Kwargs) → List (Option Kwargs × Bench.Outcome)
  | [] => []
  | p :: ps =>
    let o := run b e (p.getD [])
    match o.result with
    | .ok _ => (p, o) :: runUntilFailure b e ps
    | .error _ => [(p, o)]

/-- The self-check of one configured benchmark: two runs with the defaults, then one with each
parameter set, stopping at the first failure. Blind, it runs once with the defaults only. -/
def check (blind : Bool) (b : Benchmark) (e : Entry) : Finding :=
  if blind then Finding.of [(none, b.callBlind e.defaults)]
  else Finding.of (runUntilFailure b e (none :: none :: (e.params?.getD []).map some))

/-- The self-check of the benchmarks of a module built from entries. -/
def selfCheck (blind : Bool) (entries : List Entry) :
    Except String (List (String × Finding)) := do
  let benches ← load entries
  pure (benches.map fun (b, e) => (b.name, check blind b e))

/-- The profile of the benchmarks of a module built from entries: for each, the kind of the
failure of its run with the defaults, if it failed. -/
def profile (entries : List Entry) : Except String (List (String × Option String)) := do
  let benches ← load entries
  pure (benches.map fun (b, e) =>
    (b.name, match (run b e []).result with
      | .ok _ => none
      | .error f => some ("<" ++ f.kind ++ ">")))

/-- Why the coverage runner stopped. -/
inductive Failure where
  /-- fewer arguments than it reads -/
  | missingArgument
  /-- files left out that are no JSON document, with the reader's failure -/
  | badExclusions (r : Report.Raised)

namespace Failure

/-- The kind of a failure. -/
def kind : Failure → String
  | missingArgument => "IndexError"
  | badExclusions r => r.kind

/-- The message of a failure. -/
def message : Failure → String
  | missingArgument => "list index out of range"
  | badExclusions r => r.message

end Failure

/-- What the coverage runner reports besides coverage. -/
structure CoverageReport where
  /-- the benchmarks that failed, with their failures; or the failure to load the module -/
  benchErrors : List (String × String)
  /-- the number of benchmarks -/
  benchCount : Nat

/-- What the coverage runner reports on the module of a name, on a host: the module of
benchmarks is built from entries, and any other module that loads holds no benchmarks. -/
def benchReport (host : Modules.Host) (module : String) (entries : List Entry) :
    CoverageReport :=
  if module != moduleName then
    match Modules.loadFault? host module with
    | some m => ⟨[("<import>", m)], 0⟩
    | none => ⟨[], 0⟩
  else
    match load entries with
    | .error m => ⟨[("<import>", m)], 0⟩
    | .ok benches =>
      let errors := benches.filterMap fun (b, e) => match (run b e []).result with
        | .ok _ => none
        | .error f => some (b.name, f.kind ++ ": " ++ f.message)
      ⟨errors, benches.length⟩

/-- The coverage runner on a host and its arguments (the directory, the module, the report file
and the files left out), over the module built from entries. The files left out are read before
the module is loaded. -/
def coverage (host : Modules.Host) (args : List String) (entries : List Entry) :
    Except Failure CoverageReport :=
  match args with
  | _ :: module :: _ :: excluded :: _ =>
    match Report.Json.parse excluded with
    | .error m => throw (.badExclusions m)
    | .ok _ => pure (benchReport host module entries)
  | _ => throw .missingArgument

end Harness

end Monkey
