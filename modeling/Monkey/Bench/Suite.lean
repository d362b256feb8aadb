import Monkey.Session
import Monkey.Bench.Datum
import Monkey.Bench.Programs

/-!
# The benchmarks

Thirteen benchmarks drive the interpreter and report a value that depends only on their one
parameter: counts of tokens, statements and parse errors, lengths of printed trees and of
session output, and texts of evaluated results. Some call the builtins and build objects
directly, reaching what no parsed program reaches.

A parameter is used in one of four ways, each with its own failure for a value of the wrong
type (a Boolean counts as one or zero in all of them):

- as a count of rounds, which must be an integer;
- as a number of copies of a text or list, which must be an integer (a negative one gives no
  copies);
- as a number of statements, of which each eleven make one more copy of a group of statements
  after a first one: it is divided by eleven, rounding down, before the copies are counted, so
  a double gets as far as the copies, and other values fail at the division;
- as a number written into a program's text, which may also be a double (cut toward zero).

A benchmark called with a parameter it does not have fails before it runs.
-/

namespace Monkey

namespace Bench

/-- Why a benchmark failed. -/
inductive Failure where
  /-- the interpreter stopped with a fault -/
  | fault (f : Fault)
  /-- the benchmark `fn` was given the parameter `kw`, which it does not have -/
  | unexpectedKeyword (fn kw : String)
  /-- a count was not an integer but a value of the type `typeName` -/
  | notAnInteger (typeName : String)
  /-- a number of copies was not an integer but a value of the type `typeName` -/
  | notACopyCount (typeName : String)
  /-- a value of the type `typeName` was divided by an integer, rounding down -/
  | noFloorDivision (typeName : String)
  /-- a number to write was not a real number but a value of the type `typeName` -/
  | notAReal (typeName : String)
  /-- a number to write was an infinity -/
  | infinite
  /-- a number to write was not a number -/
  | notANumber
  deriving Inhabited

namespace Failure

/-- The kind of a failure. -/
def kind : Failure → String
  | fault f => f.kind
  | unexpectedKeyword .. | notAnInteger _ | notACopyCount _ | noFloorDivision _ | notAReal _ =>
    "TypeError"
  | infinite => "OverflowError"
  | notANumber => "ValueError"

/-- The message of a failure. -/
def message : Failure → String
  | fault f => f.message
  | unexpectedKeyword fn kw => fn ++ "() got an unexpected keyword argument '" ++ kw ++ "'"
  | notAnInteger t => "'" ++ t ++ "' object cannot be interpreted as an integer"
  | notACopyCount t => "can't multiply sequence by non-int of type '" ++ t ++ "'"
  | noFloorDivision t => "unsupported operand type(s) for //: '" ++ t ++ "' and 'int'"
  | notAReal t => "%d format: a real number is required, not " ++ t
  | infinite => "cannot convert float infinity to integer"
  | notANumber => "cannot convert float NaN to integer"

end Failure

/-- What a benchmark run gives: its result or failure, and what it wrote. -/
structure Outcome where
  result : Except Failure Datum
  out : String := ""

/-- A parameter used as a count. -/
def count : Datum → Except Failure Int
  | .int n => pure n
  | .bool b => pure (if b then 1 else 0)
  | d => throw (.notAnInteger d.typeName)

/-- A parameter used as a number of copies. -/
def copies : Datum → Except Failure Int
  | .int n => pure n
  | .bool b => pure (if b then 1 else 0)
  | d => throw (.notACopyCount d.typeName)

/-- The statements that make one group. -/
def groupSize : Int := 11

/-- A parameter used as a number of statements: the number of copies of the group, one for
each whole group in the count and one more. A double divides to a double, which cannot count
copies. -/
def groups : Datum → Except Failure Int
  | .int n => pure (n.fdiv groupSize + 1)
  | .bool b => pure ((if b then 1 else 0 : Int).fdiv groupSize + 1)
  | .float _ => throw (.notACopyCount "float")
  | d => throw (.noFloorDivision d.typeName)

/-- The integer part of a double, cut toward zero. -/
def truncate (x : Float) : Except Failure Int :=
  match Binary64.shape x with
  | .nan => throw .notANumber
  | .inf _ => throw .infinite
  | .finite neg p =>
    let (num, den) := p.ratio
    let n : Int := num / den
    pure (if neg then -n else n)

/-- A parameter used as an integer written into a program. -/
def written : Datum → Except Failure Int
  | .int n => pure n
  | .bool b => pure (if b then 1 else 0)
  | .float x => truncate x
  | d => throw (.notAReal d.typeName)

/-- A value of the host standing for an interpreter number. -/
def Datum.ofNumber : Number → Datum
  | .int n => .int n
  | .float x => .float x

/-- The payload of a value, as the host sees it: the number, string or truth it holds. -/
def payload (v : Value) : Except Failure Datum :=
  match v with
  | .num n _ => pure (Datum.ofNumber n)
  | .str s => pure (.str s)
  | .bool b _ => pure (.bool b)
  | _ => throw (.fault (.noAttribute v.kindName "value"))

/-- Runs a computation of the interpreter on a fresh machine. -/
def onMachine {α : Type} (run : Run α) : Except Failure α × String :=
  match run.run {} with
  | .ok a m => (.ok a, m.out)
  | .error f m => (.error (.fault f), m.out)

/-- The text of a value as the host prints it; no value prints as `None`. -/
def printed (v : Value) : Run String :=
  match v with
  | .void => pure "None"
  | _ => do pure (← Run.lift (v.inspect (← Run.heap))).str

/-- What the result of a program shows, as a host value. -/
def shown (v : Value) : Run Datum := do
  match ← Run.lift (v.inspect (← Run.heap)) with
  | .text s => pure (.str s)
  | .nothing => pure .none
  | .method => pure (.object "builtins" "method")

/-- Evaluates a source in a fresh top-level scope. -/
def evalSource (src : String) : Run Value := do
  (Program.parse src).program.eval (← Run.topFrame)

/-- The outcome of a computation of the interpreter giving a host value. -/
def outcome (run : Run Datum) : Outcome :=
  let (r, out) := onMachine run
  ⟨r, out⟩

/-- The outcome of a failure before anything ran. -/
def failed (f : Failure) : Outcome := ⟨.error f, ""⟩

/-- Runs a benchmark body on a parameter read by `read`. -/
def withParam {α : Type} (read : Datum → Except Failure α) (body : α → Outcome) (d : Datum) :
    Outcome :=
  match read d with
  | .ok a => body a
  | .error f => failed f

/-- The number of tokens of the header and `n` copies of the lexing source, the end included. -/
def lexerFull (n : Int) : Outcome :=
  let src := lexingHeader ++ String.join (List.replicate n.toNat lexing)
  ⟨.ok (.int (Token.lex src).length), ""⟩

/-- The number of statements parsed from `n` copies of the statement source. -/
def parserFull (n : Int) : Outcome :=
  let src := String.join (List.replicate n.toNat statements)
  ⟨.ok (.int (Program.parse src).program.stmts.length), ""⟩

/-- The number of parse errors of the malformed sources, parsed `n` times over. -/
def parserErrors (n : Int) : Outcome :=
  let perRound := malformed.foldl (fun k s => k + (Program.parse s).errors.length) 0
  ⟨.ok (.int (n.toNat * perRound)), ""⟩

/-- The length of the printed base statements followed by `n` copies of the group. -/
def astString (n : Int) : Outcome :=
  let src := printedBase ++ String.join (List.replicate n.toNat printedGroup)
  match (Program.parse src).program.render with
  | .ok s => ⟨.ok (.int s.length), ""⟩
  | .error f => failed (.fault f)

/-- The texts of `n` runs of the expression program. -/
def evalExpressions (n : Int) : Outcome := outcome do
  let mut items : Array Datum := #[]
  for _ in List.range n.toNat do
    items := items.push (.str (← printed (← evalSource expressions)))
  pure (.list items.toList)

/-- Hand-built expressions that no parsed program holds: an unknown prefix operator, an
unknown infix operator, a field of something that is not a name, and a statement without
value. -/
def handBuilt : List Stmt :=
  let tok : Token := ⟨.int, "1"⟩
  let one : Expr := .number tok (.int 1)
  let two : Expr := .number ⟨.int, "2"⟩ (.int 2)
  [.exprStmt tok (some (.prefixOp ⟨.illegal, "~"⟩ "~" (some one))),
   .exprStmt tok (some (.infixOp ⟨.illegal, "&"⟩ (some one) "&" (some two))),
   .exprStmt tok (some (.infixOp ⟨.dot, "."⟩ (some one) "." (some two))),
   .letStmt ⟨.letKw, "let"⟩ ⟨⟨.ident, "x"⟩, "x"⟩ (some one) none]

/-- The texts of the failing sources run `n` times over, then of the hand-built
expressions. -/
def evalErrors (n : Int) : Outcome := outcome do
  let mut items : Array Datum := #[]
  for _ in List.range n.toNat do
    for src in failing do
      items := items.push (.str (← printed (← evalSource src)))
  for s in handBuilt do
    let v ← ({ stmts := [s] } : Program).eval (← Run.topFrame)
    items := items.push (.str (← printed v))
  pure (.list items.toList)

/-- The text of the `n`-th Fibonacci number, computed recursively. -/
def evalFib (n : Int) : Outcome := outcome do
  shown (← evalSource (fibonacci ++ "fib(" ++ toString n ++ ");"))

/-- The text of the sum of two loops counting to `n`. -/
def evalLoops (n : Int) : Outcome := outcome do
  shown (← evalSource (loops n))

/-- The text of a hash with `n` keys. -/
def evalHash (n : Int) : Outcome := outcome do
  shown (← evalSource (keyed n.toNat))

/-- The text of the sum of the numbers below `n`, added up by an instance of a class. -/
def evalClass (n : Int) : Outcome := outcome do
  shown (← evalSource (accumulate n))

/-- The type name of a value. -/
def typeOf (v : Value) : Run Datum := do pure (.str (← Run.lift v.typeName))

/-- The payload of a value, in a run. -/
def payloadOf (v : Value) : Run Datum :=
  match payload v with
  | .ok d => pure d
  | .error (.fault f) => throw f
  | .error _ => pure .none

/-- The builtins called directly on an array of the numbers below `n`. -/
def builtinsDirect (n : Int) : Outcome := outcome do
  let arr ← Run.newArray ((List.range n.toNat).map fun (i : Nat) => Value.ofInt i).toArray
  let empty ← Run.newArray #[]
  let call (b : Builtin) (args : List Value) : Run Value := b.call args
  let mut rest := arr
  for _ in List.range (n - 200).toNat do
    rest ← call .rest [rest]
  let items : List Datum := [
    .str (← printed arr),
    ← payloadOf (← call .first [rest]),
    ← payloadOf (← call .len [arr]),
    ← payloadOf (← call .len [.str (String.ofList (List.replicate n.toNat 'x'))]),
    .str (← printed (← call .len [Value.ofInt 5])),
    ← payloadOf (← call .first [arr]),
    ← payloadOf (← call .last [arr]),
    ← typeOf (← call .first [empty]),
    ← typeOf (← call .rest [arr]),
    ← typeOf (← call .rest [empty]),
    ← payloadOf (← call .str [Value.ofInt 1]),
    ← payloadOf (← call .int [.str "7"]),
    ← payloadOf (← call .int [.str "1.5"]),
    ← typeOf (← call .int [.str "abc"]),
    ← typeOf (← call .int [Value.ofInt 3]),
    ← typeOf (← call .last [empty]),
    ← typeOf (← call .exit []),
    ← typeOf (← call .print []),
    ← typeOf (← call .printl []),
    ← typeOf (← call .update [arr, Value.ofInt 0, Value.ofInt 0]),
    ← typeOf (← call .int [.str "1_000x"])]
  pure (.list items)

/-- The type names and texts of objects of every kind, and some hash keys. -/
def objectInspect (n : Int) : Outcome := outcome do
  let count := n.toNat
  let arr ← Run.newArray ((List.range count).map fun (i : Nat) => Value.ofInt i).toArray
  let mut pairs : List (HashKey × Value × Value) := []
  for i in List.range count do
    let k := "k" ++ toString i
    pairs := storePair (← Run.lift (Value.str k).hashKey) (.str k) (Value.ofInt i) pairs
  let hash : Value := .hash (← Run.fresh) pairs
  let fn ← evalSource "fn(a, b) \x7b a + b \x7d"
  let inst : Value := .inst (← Run.fresh) (← Run.newScope [])
  let ret : Value := .returned (← Run.fresh) (Value.ofInt 1)
  let cls : Value := .cls (← Run.fresh) (← Run.newScope []) (.mk ⟨.lbrace, "\x7b"⟩ [])
  let shownObjects : List Value := [Value.ofInt 1, Value.trueVal, Value.falseVal,
    Value.nullVal, .str "hello", .err "boom", Value.exitVal, Value.breakVal,
    Value.continueVal, fn, .builtin .len Builtin.len.id, inst, ret]
  let mut items : Array Datum := #[]
  for v in [arr, hash] do
    items := items.push (← shown v)
    items := items.push (← typeOf v)
  for v in shownObjects do
    items := items.push (← typeOf v)
    items := items.push (← shown v)
  items := items.push (← typeOf cls)
  let key (v : Value) : Run Datum := do pure (Datum.ofNumber (← Run.lift v.hashKey).number)
  items := items.push (← key Value.trueVal)
  items := items.push (← key Value.falseVal)
  let mut sum : Int := 0
  for i in List.range count do
    match (← Run.lift (Value.ofInt i).hashKey).number with
    | .int k => sum := sum + k
    | .float _ => pure ()
  items := items.push (.int sum)
  items := items.push (← key (.str "abc"))
  pure (.list items.toList)

/-- The length of what the read-eval-print loop writes for `n` rounds of lines and an exit,
and of what the file runner writes. -/
def replAndExec (n : Int) : Outcome :=
  let lines := (List.replicate n.toNat replLines).flatten ++ ["exit()"]
  let session := repl (String.join (lines.map (· ++ "\n")))
  let file := runFile (some runnable) ""
  match session.ending, file.ending with
  | .error f, _ => failed (.fault f)
  | _, .error f => failed (.fault f)
  | .ok _, .ok _ => ⟨.ok (.int (session.out.length + file.out.length)), ""⟩

/-- What a benchmark reports when every part of the interpreter it drives is a stand-in that
answers each use with a stand-in again: a count or length comes out zero, a result is a stand-in,
and a list of results keeps its length with a stand-in for each item. -/
inductive Blind where
  | zero
  | standIn
  | standIns (length : Int → Nat)

/-- The stand-in that a blind benchmark reports for each result of the interpreter: a mock
object. The mocking library gives each mock a type of its own, made in the library's module
and named after the stand-in's class, so every stand-in reports the same module and type. -/
def placeholder : Datum := .object "unittest.mock" "_Poison"

/-- The report of a blind benchmark run with its parameter. -/
def Blind.report : Blind → Int → Datum
  | .zero, _ => .int 0
  | .standIn, _ => placeholder
  | .standIns length, n => .list (List.replicate (length n) placeholder)

end Bench

/-- A benchmark: its name, its one parameter with the default value and the way the value is
read, what it does with the value read, and what it reports blind. -/
structure Benchmark where
  name : String
  param : String
  default : Datum
  read : Datum → Except Bench.Failure Int
  run : Int → Bench.Outcome
  blind : Bench.Blind

namespace Benchmark

open Bench in
/-- The benchmarks, in the order they are defined. -/
def all : List Benchmark := [
  ⟨"bench_lexer_full", "n_copies", .int 80, copies, lexerFull, .zero⟩,
  ⟨"bench_parser_full", "n_copies", .int 20, copies, parserFull, .zero⟩,
  ⟨"bench_parser_errors", "n_copies", .int 20, copies, parserErrors, .zero⟩,
  ⟨"bench_ast_string", "n_stmts", .int 200, groups, astString, .zero⟩,
  ⟨"bench_eval_expressions", "n_copies", .int 6, count, evalExpressions,
    .standIns fun n => n.toNat⟩,
  ⟨"bench_eval_errors", "n_copies", .int 6, copies, evalErrors,
    .standIns fun n => n.toNat * failing.length + handBuilt.length⟩,
  ⟨"bench_eval_fib", "fib_n", .int 15, written, evalFib, .standIn⟩,
  ⟨"bench_eval_loops", "loop_n", .int 200, written, evalLoops, .standIn⟩,
  ⟨"bench_eval_hash", "n_keys", .int 150, count, evalHash, .standIn⟩,
  ⟨"bench_eval_class", "n_items", .int 40, written, evalClass, .standIn⟩,
  ⟨"bench_builtins_direct", "n_elems", .int 1000, count, builtinsDirect, .standIns fun _ => 21⟩,
  ⟨"bench_object_inspect", "n_elems", .int 2000, count, objectInspect, .standIns fun _ => 35⟩,
  ⟨"bench_repl_and_exec", "n_lines", .int 60, count, replAndExec, .zero⟩]

/-- The benchmark with a name. -/
def named? (name : String) : Option Benchmark := all.find? (·.name == name)

/-- Runs a benchmark on a value of its parameter. -/
def body (b : Benchmark) (d : Datum) : Bench.Outcome := Bench.withParam b.read b.run d

/-- Runs a benchmark blind on a value of its parameter: the value is read as in a real run. -/
def blindBody (b : Benchmark) (d : Datum) : Bench.Outcome :=
  Bench.withParam b.read (fun n => ⟨.ok (b.blind.report n), ""⟩) d

/-- The value of the parameter in keyword arguments: a keyword other than the parameter fails,
and a missing one takes the default. -/
def argument (b : Benchmark) (kwargs : List (String × Datum)) : Except Bench.Failure Datum :=
  match kwargs.find? (·.1 != b.param) with
  | some (kw, _) => throw (.unexpectedKeyword b.name kw)
  | none => pure (((kwargs.reverse.find? (·.1 == b.param)).map (·.2)).getD b.default)

/-- Runs a benchmark with keyword arguments. -/
def call (b : Benchmark) (kwargs : List (String × Datum)) : Bench.Outcome :=
  match b.argument kwargs with
  | .ok d => b.body d
  | .error f => Bench.failed f

/-- Runs a benchmark blind with keyword arguments. -/
def callBlind (b : Benchmark) (kwargs : List (String × Datum)) : Bench.Outcome :=
  match b.argument kwargs with
  | .ok d => b.blindBody d
  | .error f => Bench.failed f

/-- Runs every benchmark with its default, in order, until one fails: the failure if any, and
what they wrote. -/
def runAll : Option Bench.Failure × String :=
  all.foldl (fun (acc : Option Bench.Failure × String) b =>
    match acc with
    | (some f, out) => (some f, out)
    | (none, out) =>
      let o := b.body b.default
      match o.result with
      | .ok _ => (none, out ++ o.out)
      | .error f => (some f, out ++ o.out)) (none, "")

end Benchmark

end Monkey
