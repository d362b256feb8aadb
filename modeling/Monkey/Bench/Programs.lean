/-!
# Benchmark programs

The fixed Monkey sources that the benchmarks lex, parse, print and run. Each is chosen to
exercise one part of the interpreter:

- `lexing` and `lexingHeader` hold every kind of token; a copy of `lexing` is 57 tokens;
- `statements` is 22 well-formed statements of every kind;
- `malformed` are sources with 42 parse errors between them;
- `printedBase` and `printedGroup` print as 304 and 230 characters, the latter from 11
  statements;
- `expressions` computes with every operator and ends the program;
- `failing` are sources whose results are error values, and some that are not;
- `replLines` and `runnable` feed the read-eval-print loop and the file runner.
-/

namespace Monkey

namespace Bench

/-- The first line of the lexed source. -/
def lexingHeader : String := "/* lexer bench */ let data = \x7b\"a\": 1, \"b\": 2\x7d;\n"

/-- A source holding the keywords, operators and literals of the language. -/
def lexing : String :=
  "let five = 5;\nlet add = fn(x, y) \x7b x + y \x7d;\n" ++
  "if (5 < 10) \x7b return true; \x7d else \x7b return false; \x7d\n" ++
  "while (x >= 1 and y <= 2 || !z) \x7b x = x - 1 \x7d\n"

/-- Statements of every kind, all well formed. -/
def statements : String :=
  "let a = 1;\nlet b = a + 2 * 3;\nlet s = \"text\";\nlet arr = [1, 2, 3];\n" ++
  "let h = \x7b\"k\": 1, 2: true\x7d;\nlet f = fn(x, y) \x7b return x + y; \x7d;\n" ++
  "f(a, b);\narr[0];\nh[\"k\"];\nif (a < b) \x7b a \x7d else \x7b b \x7d;\n" ++
  "while (a < 3) \x7b a = a + 1; \x7d;\n" ++
  "for (let i = 0; i < 3; i = i + 1) \x7b continue; \x7d;\n" ++
  "let C = class \x7b let v = 1; \x7d;\nlet o = C();\no.v;\nlet o.v = 2;\n-a;\n!true;\n" ++
  "a = 5;\na >= 2 and b <= 3 or a != b;\ns == \"text\";\nreturn a;\n"

/-- Sources that do not parse cleanly. -/
def malformed : List String := [
  "let = 5;", "let x 5;", "let 838383;", "let x = ;", "fn(x, \x7b x \x7d;",
  "if (x \x7b x \x7d", "if x) \x7b x \x7d", "[1, 2", "\x7b1: 2", "\x7b1 2\x7d", "add(1, 2", "x[1",
  "(1 + 2", "while x \x7b \x7d", "for (i = 0; i < 1; i = i + 1) \x7b \x7d", "class 5",
  "let y = @;", "5 +", "-;", "!", "fn \x7b \x7d", "let a.b;", "x = ;", "1 + * 2",
  "let x = #;", "h[;]", "while (x \x7b x \x7d", "let x = [1, 2, ;", "\x7b\"a\": \x7d"]

/-- Statements printed once. -/
def printedBase : String :=
  "let x = 5 * (2 + 3);\nlet s = \"hello\";\nlet add = fn(a, b) \x7b return a + b; \x7d;\n" ++
  "let arr = [1, 2, 3];\nlet h = \x7b\"one\": 1, \"two\": 2\x7d;\n" ++
  "if (x > 10) \x7b add(x, 1) \x7d else \x7b -x \x7d;\narr[0] + h[\"one\"];\n" ++
  "for (let i = 0; i < 3; i = i + 1) \x7b !true; \x7d;\n" ++
  "let C = class \x7b let v = 1; \x7d;\nlet o = C();\nx = x - 1;\n" ++
  "let apply = fn(f, v) \x7b f(v) \x7d;\n"

/-- Eleven statements, printed once for each group asked for. -/
def printedGroup : String :=
  "let alpha = 1;\nlet beta = alpha * 2;\nlet gamma = beta - alpha / 3;\n" ++
  "let delta = [alpha, beta, gamma];\nlet eps = delta[1];\n" ++
  "let zeta = fn(val) \x7b val % 2 \x7d;\nzeta(eps);\nalpha <= beta;\nalpha == beta;\n" ++
  "!(alpha != beta);\nreturn gamma;\n"

/-- A program computing with every operator, which ends by exiting. -/
def expressions : String :=
  "let a = 5 * (2 + 3) - 10 / 4 % 3;\nlet b = \"con\" + \"cat\";\n" ++
  "let c = [1, 2, 3][1] + \x7b\"x\": 2\x7d[\"x\"];\n" ++
  "let d = if (a > 2 and c != 3) \x7b a \x7d else \x7b c \x7d;\n" ++
  "let e = fn(x) \x7b x * 2 \x7d(d);\nlet f = -a + e >= 0 || !true;\n" ++
  "let g = len(b) <= 6 && b == \"concat\";\nexit();\na + c;\n"

/-- The classic recursive Fibonacci function. -/
def fibonacci : String :=
  "let fib = fn(n) \x7b if (n < 2) \x7b return n; \x7d; return fib(n - 1) + fib(n - 2); \x7d;\n"

/-- Sources whose results are mostly error values. -/
def failing : List String := [
  "-true", "true + 5", "true + false", "\"a\" - \"b\"", "5[0]",
  "\x7bfn(x) \x7b x \x7d: 1\x7d", "\x7b\"a\": 1\x7d[fn(x) \x7b x \x7d]",
  "unknownIdent", "unknownIdent + 1", "let z = unknownIdent;", "undeclared = 5",
  "break", "continue", "let f = fn(x) \x7b x \x7d; f(1, 2)", "5()",
  "len(1)", "len(\"a\", \"b\")", "first(1)", "first([1], [2])", "last(1)", "last([1], [2])",
  "rest(1)", "rest([1], [2])", "push(1, 2)", "push([1])", "update(1, 2, 3)",
  "update([1], \"a\", 3)", "update([1], 5, 3)", "str(1, 2)", "int(\"1\", \"2\")",
  "update([1], 0)",
  "if (false) \x7b 1 \x7d", "[1, 2][5]", "\x7b\"a\": 1\x7d[\"b\"]", "first([])", "last([])",
  "rest([])", "let answer = fn() \x7b return 42; \x7d; answer()",
  "class \x7b 5 \x7d", "notobj.x", "let z.f = 1",
  "let C = class \x7b let a = 1 \x7d; let o = C(); let o.missing = 2", "nope()", "(1 + 2).x",
  "let C = class \x7b let a = 1 \x7d; let o = C(); o.5",
  "let C = class \x7b let a = 1 \x7d; let o = C(); missing.a",
  "[unknownIdent]", "\x7bunknownIdent: 1\x7d", "\x7b1: unknownIdent\x7d", "-unknownIdent",
  "!unknownIdent", "unknownIdent[0]", "[1][unknownIdent]", "len(unknownIdent)",
  "unknownIdent(1)", "if (unknownIdent) \x7b 1 \x7d", "while (unknownIdent) \x7b 1 \x7d",
  "for (let i = unknownIdent; i < 1; i = i + 1) \x7b 1 \x7d", "let x = 1; x = unknownIdent",
  "return unknownIdent", "fn() \x7b unknownIdent \x7d()", "1 + unknownIdent",
  "unknownIdent == 1", "\"a\" + unknownIdent"]

/-- A program summing two counting loops, one of each kind, up to a bound. -/
def loops (bound : Int) : String :=
  "let total = 0;\nlet i = 0;\n" ++
  "while (i < " ++ toString bound ++ ") \x7b i = i + 1; if (i % 2 == 0) \x7b " ++
  "total = total + 1; continue; \x7d; total = total + 1; \x7d;\n" ++
  "for (let j = 0; j < " ++ toString bound ++ "; j = j + 1) \x7b if (j < 0) \x7b break; \x7d; " ++
  "total = total + 1; \x7d;\ntotal"

/-- A program filling an instance of a class through its method. -/
def accumulate (count : Int) : String :=
  "let Acc = class \x7b let total = 0; let add = fn(x) \x7b total = total + x; \x7d; \x7d;\n" ++
  "let a = Acc();\nfor (let i = 0; i < " ++ toString count ++
    "; i = i + 1) \x7b a.add(i) \x7d;\n" ++
  "a.total"

/-- A hash literal with the keys `k0`, `k1`, … bound to their numbers. -/
def keyed (count : Nat) : String :=
  let pairs := (List.range count).map fun i => "\"k" ++ toString i ++ "\": " ++ toString i
  "let h = \x7b" ++ String.intercalate ", " pairs ++ "\x7d;\nh"

/-- Lines for the read-eval-print loop; each round of them writes 38 characters. -/
def replLines : List String :=
  ["let v = 7 * 6", "v + 1", "\"monkey\" + \"!\"", "[v, v]", "if (v > 40) \x7b v \x7d"]

/-- A file for the file runner. -/
def runnable : String :=
  "let fact = fn(n) \x7b if (n < 2) \x7b 1 \x7d else \x7b n * fact(n - 1) \x7d \x7d;\n" ++
  "printl(fact(10));\nlet words = [\"exec\", \"runs\", \"files\"];\nprintl(words);\n" ++
  "printl(\x7b\"fact\": fact(5), \"words\": words\x7d);\n" ++
  "printl(rest(words), first(words), last(words));\nprintl(\"exec ran fine!\");\n" ++
  "print(\"done\");\nlen(words)\n"

end Bench

end Monkey
