import Monkey.Syntax
import Monkey.Fault

/-!
# Printing syntax trees

The text of a tree: operators fully parenthesised, statements closed by `;`, blocks braced
with their statements separated by spaces, and literals as their tokens were written. Printing
walks the tree left to right and stops at the first hole, with the fault that the hole
causes; a `while` loop cannot be printed after its condition.

Also the leading token text of a node (`tokenText`), which conditionals and loops do not
have, nor `break` and `continue`.
-/

namespace Monkey

/-- Concatenation of texts with a separator between neighbours. -/
def joinWith (sep : String) : List String → String
  | [] => ""
  | [s] => s
  | s :: rest => s ++ sep ++ joinWith sep rest

mutual

/-- The text of an expression. -/
def Expr.render : Expr → Except Fault String
  | .ident id => pure id.name
  | .number t _ => pure t.literal
  | .boolean t _ => pure t.literal
  | .string t _ => pure t.literal
  | .prefixOp _ op right => do
    let r ← Expr.renderOpt right
    pure ("(" ++ op ++ r ++ ")")
  | .infixOp _ left op right => do
    let l ← Expr.renderOpt left
    let r ← Expr.renderOpt right
    pure ("(" ++ l ++ " " ++ op ++ " " ++ r ++ ")")
  | .ifElse _ cond yes no => do
    let c ← Expr.renderOpt cond
    let y ← Block.render yes
    match no with
    | none => pure ("if" ++ c ++ " " ++ y)
    | some b => do
      let n ← Block.render b
      pure ("if" ++ c ++ " " ++ y ++ "else " ++ n)
  | .function t params body => do
    let ps ← match params with
      | none => throw .notIterable
      | some ps => pure (ps.map (·.name))
    let b ← Block.render body
    pure (t.literal ++ "(" ++ joinWith ", " ps ++ ") " ++ b)
  | .call _ callee args => do
    let as ← Expr.renderArgs args
    let f ← Expr.renderOpt callee
    pure (f ++ "(" ++ joinWith ", " as ++ ")")
  | .array _ elems => do
    let es ← Expr.renderArgs elems
    pure ("[" ++ joinWith ", " es ++ "]")
  | .index _ target key => do
    let l ← Expr.renderOpt target
    let k ← Expr.renderOpt key
    pure ("(" ++ l ++ "[" ++ k ++ "])")
  | .hash _ pairs => do
    let ps ← Expr.renderPairs pairs
    pure ("\x7b" ++ joinWith ", " ps ++ "\x7d")
  | .whileLoop _ cond _ => do
    let _ ← Expr.renderOpt cond
    throw (.noAttribute "WhileExpression" "consequence")
  | .forLoop _ init cond step body => do
    let i ← Stmt.renderIfAny init
    let c ← Stmt.renderIfAny cond
    let s ← Stmt.renderIfAny step
    let b ← Block.render body
    pure ("for( " ++ i ++ "; " ++ c ++ "; " ++ s ++ ")" ++ b)
  | .classDef t body => do
    let b ← Block.render body
    pure (t.literal ++ b)

/-- The text of an expression that may be a hole; a hole cannot be printed. -/
def Expr.renderOpt : Option Expr → Except Fault String
  | none => throw (Fault.absent "string")
  | some e => Expr.render e

/-- The texts of a list of expressions; a missing list cannot be walked. -/
def Expr.renderArgs : Option (List (Option Expr)) → Except Fault (List String)
  | none => throw .notIterable
  | some es => Expr.renderList es

/-- The texts of a list of expressions, in order. -/
def Expr.renderList : List (Option Expr) → Except Fault (List String)
  | [] => pure []
  | e :: rest => do
    let s ← Expr.renderOpt e
    let ss ← Expr.renderList rest
    pure (s :: ss)

/-- The texts `key:value` of the pairs of a hash literal, in order. -/
def Expr.renderPairs : List (Option Expr × Option Expr) → Except Fault (List String)
  | [] => pure []
  | (k, v) :: rest => do
    let ks ← Expr.renderOpt k
    let vs ← Expr.renderOpt v
    let ss ← Expr.renderPairs rest
    pure ((ks ++ ":" ++ vs) :: ss)

/-- The text of a statement. -/
def Stmt.render : Stmt → Except Fault String
  | .letStmt t name value _ => do
    let v ← Expr.renderIfAny value
    pure (t.literal ++ " " ++ name.name ++ " = " ++ v ++ ";")
  | .returnStmt t value => do
    let v ← Expr.renderIfAny value
    pure (t.literal ++ " " ++ v ++ ";")
  | .exprStmt _ e => match e with
    | none => pure ""
    | some e => do
      let s ← Expr.render e
      pure (s ++ ";")
  | .assign _ name value => do
    let v ← Expr.renderIfAny value
    pure (name.name ++ " = " ++ v ++ ";")
  | .breakStmt => pure "break;"
  | .continueStmt => pure "continue;"

/-- The text of an optional expression, empty when there is none. -/
def Expr.renderIfAny : Option Expr → Except Fault String
  | none => pure ""
  | some e => Expr.render e

/-- The text of an optional statement, empty when there is none. -/
def Stmt.renderIfAny : Option Stmt → Except Fault String
  | none => pure ""
  | some s => Stmt.render s

/-- The texts of statements, in order. -/
def Stmt.renderList : List Stmt → Except Fault (List String)
  | [] => pure []
  | s :: rest => do
    let t ← Stmt.render s
    let ts ← Stmt.renderList rest
    pure (t :: ts)

/-- The text of a block: its statements between braces, separated by spaces. -/
def Block.render : Block → Except Fault String
  | .mk _ stmts => do
    let ts ← Stmt.renderList stmts
    pure ("\x7b" ++ joinWith " " ts ++ "\x7d")

end

/-- The text of a program: its statements one after another. -/
def Program.render (p : Program) : Except Fault String := do
  let ts ← Stmt.renderList p.stmts
  pure (String.join ts)

/-- The text of the token that starts an expression. Conditionals and loops have none. -/
def Expr.tokenText : Expr → Except Fault String
  | .ident id => pure id.token.literal
  | .number t _ | .boolean t _ | .string t _ | .prefixOp t .. | .infixOp t .. => pure t.literal
  | .function t .. | .call t .. | .array t .. | .index t .. | .hash t .. | .classDef t .. =>
    pure t.literal
  | .ifElse .. | .whileLoop .. | .forLoop .. => throw (.noAttribute "Token" "litearl")

/-- The text of the token that starts a statement. `break` and `continue` have none. -/
def Stmt.tokenText : Stmt → Except Fault String
  | .letStmt t .. | .returnStmt t .. | .exprStmt t .. | .assign t .. => pure t.literal
  | .breakStmt => throw (.noAttribute "BreakStatement" "token")
  | .continueStmt => throw (.noAttribute "ContinueStatement" "token")

/-- The text of the token that starts a program: that of its first statement, if any. -/
def Program.tokenText (p : Program) : Except Fault String :=
  match p.stmts with
  | [] => pure ""
  | s :: _ => s.tokenText

end Monkey
