import Monkey.Token
import Monkey.Number

/-!
# Syntax trees

The trees that the parser builds from tokens. Every node keeps the token it starts with. A
child that the parser could not read is `none`: the parser goes on after an error, so a tree
may have holes, and the printer and the evaluator give each hole its own meaning.

- Expressions: names, number, Boolean and string literals, prefix and infix operators
  (including the field dot), conditionals, function literals, calls, array and hash literals,
  indexing, `while` and `for` loops, and class literals.
- Statements: `let` (optionally setting a field of an instance), `return`, an expression,
  assignment, `break` and `continue`.
- A block is a braced list of statements, and a program is a list of statements.
-/

namespace Monkey

/-- A name as written: the token it was read from and its text. -/
structure Ident where
  token : Token
  name : String
  deriving Repr, Inhabited

mutual

/-- Expressions. -/
inductive Expr where
  /-- a name -/
  | ident (id : Ident)
  /-- a number literal -/
  | number (token : Token) (value : Number)
  /-- `true` or `false` -/
  | boolean (token : Token) (value : Bool)
  /-- a string literal -/
  | string (token : Token) (value : String)
  /-- `-x` or `!x` -/
  | prefixOp (token : Token) (op : String) (right : Option Expr)
  /-- `x op y`, where `op` is an arithmetic, comparison or logical operator or the field dot -/
  | infixOp (token : Token) (left : Option Expr) (op : String) (right : Option Expr)
  /-- `if (cond) { … } else { … }` -/
  | ifElse (token : Token) (cond : Option Expr) (yes : Block) (no : Option Block)
  /-- `fn(params) { … }`; the parameters are `none` when their list was not closed -/
  | function (token : Token) (params : Option (List Ident)) (body : Block)
  /-- `f(args)`; the arguments are `none` when their list was not closed -/
  | call (token : Token) (callee : Option Expr) (args : Option (List (Option Expr)))
  /-- `[elems]`; the elements are `none` when their list was not closed -/
  | array (token : Token) (elems : Option (List (Option Expr)))
  /-- `target[key]` -/
  | index (token : Token) (target : Option Expr) (key : Option Expr)
  /-- `{k: v, …}`, in order of first appearance of each key node -/
  | hash (token : Token) (pairs : List (Option Expr × Option Expr))
  /-- `while (cond) { … }` -/
  | whileLoop (token : Token) (cond : Option Expr) (body : Block)
  /-- `for (init; cond; step) { … }` -/
  | forLoop (token : Token) (init cond step : Option Stmt) (body : Block)
  /-- `class { … }` -/
  | classDef (token : Token) (body : Block)

/-- Statements. -/
inductive Stmt where
  /-- `let name = value;`, or `let name.field = value;` -/
  | letStmt (token : Token) (name : Ident) (value : Option Expr) (field : Option Ident)
  /-- `return value;` -/
  | returnStmt (token : Token) (value : Option Expr)
  /-- an expression standing as a statement -/
  | exprStmt (token : Token) (expr : Option Expr)
  /-- `name = value;` -/
  | assign (token : Token) (name : Ident) (value : Option Expr)
  /-- `break;` -/
  | breakStmt
  /-- `continue;` -/
  | continueStmt

/-- A braced sequence of statements, with its opening token. -/
inductive Block where
  | mk (token : Token) (stmts : List Stmt)

end

/-- A program: its statements in order. -/
structure Program where
  stmts : List Stmt

namespace Block

/-- The statements of a block. -/
def stmts : Block → List Stmt
  | mk _ ss => ss

end Block

end Monkey
