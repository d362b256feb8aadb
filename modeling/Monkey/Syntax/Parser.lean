import Monkey.Syntax
import Monkey.Token.Lexer
import Monkey.Decimal.Read

/-!
# The parser

A Pratt parser from tokens to syntax trees. The parser looks at the current token and the
one after it (the peek); at the end of the input both are the end token. It records an
error and goes on: an expression it cannot read is a hole, and a statement it cannot read
ends the program there.

An expression is parsed at a binding strength: after its first part, an operator that binds
more strongly than that strength takes what was read as its left operand, and a `;` always
ends the expression (`TokenKind.strength`). Prefix operators bind their operand at strength
7, just below the field dot, calls and indexing.

Termination: every function returns a state with no more tokens than it was given
(`Step`). A call on the same tokens goes to a function of lower rank, and any other call is
on strictly fewer tokens, so the measure `8 * tokens + rank` falls at every call.
-/

namespace Monkey

/-- The state of the parser: the tokens not yet passed, the first being the current one,
and the errors so far. -/
structure Parser where
  toks : List Token
  errors : Array String

/-- The binding strength of the operand of a prefix operator. -/
def prefixStrength : Nat := 7

namespace Parser

/-- The current token. -/
def cur (p : Parser) : Token := p.toks.headD Token.eof

/-- The token after the current one. -/
def peek (p : Parser) : Token :=
  match p.toks with
  | _ :: t :: _ => t
  | _ => Token.eof

/-- Moves to the next token. -/
def advance (p : Parser) : Parser := { p with toks := p.toks.tail }

/-- Records an error. -/
def report (p : Parser) (msg : String) : Parser := { p with errors := p.errors.push msg }

/-- Moves to the next token when it has kind `k`; otherwise records that it was expected.
The expected kind is never the end token. -/
def expect (p : Parser) (k : TokenKind) : Except Parser Parser :=
  match p.toks with
  | _ :: t :: rest => if t.kind = k then .ok { p with toks := t :: rest } else
      .error (p.report ("expected next token to be " ++ k.name ++ ", got " ++ t.kind.name))
  | _ => .error (p.report ("expected next token to be " ++ k.name ++ ", got EOF"))

/-- Passes a `;` that follows the current token. -/
def skipSemicolon (p : Parser) : Parser :=
  if p.peek.kind = .semicolon then p.advance else p

theorem advance_le (p : Parser) :
  p.advance.toks.length ≤ p.toks.length
  := by
  simp [advance]

theorem advance_lt {p : Parser} (h : p.toks ≠ []) :
  p.advance.toks.length < p.toks.length
  := by
  cases hp : p.toks with
  | nil => exact absurd hp h
  | cons t r => simp [advance, hp]

theorem length_advance (p : Parser) :
  p.advance.toks.length = p.toks.length - 1
  := List.length_tail

theorem two_le_of_peek {p : Parser} (h : p.peek.kind ≠ .eof) :
  2 ≤ p.toks.length
  := by
  unfold peek at h
  split at h
  · rename_i heq; rw [heq]; simp
  · simp [Token.eof] at h

theorem length_pos {p : Parser} (h : p.toks ≠ []) :
  0 < p.toks.length
  := List.length_pos_iff.mpr h

@[simp] theorem report_toks (p : Parser) (msg : String) :
  (p.report msg).toks = p.toks
  := rfl

theorem skipSemicolon_le (p : Parser) :
  (p.skipSemicolon).toks.length ≤ p.toks.length
  := by
  unfold skipSemicolon
  split
  · exact advance_le p
  · exact Nat.le_refl _

theorem expect_error_toks {p q : Parser} {k : TokenKind} (h : p.expect k = .error q) :
  q.toks = p.toks
  := by
  unfold expect at h
  split at h
  · split at h
    · cases h
    · cases h; rfl
  · cases h; rfl

theorem expect_ok_lt {p q : Parser} {k : TokenKind} (h : p.expect k = .ok q) :
  q.toks.length < p.toks.length
  := by
  unfold expect at h
  split at h
  · rename_i t rest hp
    split at h
    · cases h; simp [hp]
    · cases h
  · cases h

theorem expect_ok_ne_nil {p q : Parser} {k : TokenKind} (h : p.expect k = .ok q) :
  q.toks ≠ []
  := by
  unfold expect at h
  split at h
  · split at h
    · cases h; simp
    · cases h
  · cases h

/-- A result of parsing from a state with `n` tokens: a value and a state with at most `n`
tokens. -/
structure Step (α : Type) (n : Nat) where
  val : α
  state : Parser
  le : state.toks.length ≤ n

/-- A name made from the current token, whatever its kind. -/
def identHere (p : Parser) : Ident := ⟨p.cur, p.cur.literal⟩

/-- The number literal of the current token: a double when it has a point. -/
def numberLiteral (p : Parser) : Step (Option Expr) p.toks.length :=
  let t := p.cur
  if t.literal.contains '.' then
    match Decimal.readFloat? t.literal with
    | some x => ⟨some (.number t (.float x)), p, Nat.le_refl _⟩
    | none => ⟨none, p.report ("could not parse " ++ t.literal ++ " as float"), Nat.le_refl _⟩
  else
    match Decimal.readInt? t.literal with
    | some n => ⟨some (.number t (.int n)), p, Nat.le_refl _⟩
    | none => ⟨none, p.report ("could not parse " ++ t.literal ++ " as integer"), Nat.le_refl _⟩

/-- The parameter list that closes at the current state: `some` the names when `)` follows,
otherwise `none` with the error recorded. -/
def closeParams (p : Parser) (acc : Array Ident) : Step (Option (List Ident)) p.toks.length :=
  match hq : p.expect .rparen with
  | .ok q => ⟨some acc.toList, q, Nat.le_of_lt (expect_ok_lt hq)⟩
  | .error q => ⟨none, q, Nat.le_of_eq (by rw [expect_error_toks hq])⟩

/-- The rest of a parameter list after a name: `, name` repeated, then `)`. A name is made
of whatever token stands after a comma. -/
def paramsLoop (p : Parser) (acc : Array Ident) : Step (Option (List Ident)) p.toks.length :=
  if hc : p.peek.kind = .comma then
    have hq : p.advance.advance.toks.length + 2 = p.toks.length := by
      have := two_le_of_peek (by rw [hc]; decide)
      simp only [length_advance]; omega
    match paramsLoop p.advance.advance (acc.push p.advance.advance.identHere) with
    | ⟨v, s, hs⟩ => ⟨v, s, by omega⟩
  else closeParams p acc
termination_by p.toks.length
decreasing_by omega

/-- The parameter list of a function literal, the current token being `(`. -/
def params (p : Parser) : Step (Option (List Ident)) p.toks.length :=
  if p.peek.kind = .rparen then ⟨some [], p.advance, advance_le p⟩
  else
    let q := p.advance
    match paramsLoop q #[q.identHere] with
    | ⟨v, s, hs⟩ => ⟨v, s, Nat.le_trans hs (advance_le p)⟩

/-- The field after `let name`: when a `.` follows, the token after the dot names it. -/
def letField (p : Parser) : Step (Option Ident) p.toks.length :=
  if p.peek.kind = .dot then
    let q := p.advance.advance
    ⟨some q.identHere, q, Nat.le_trans (advance_le _) (advance_le p)⟩
  else ⟨none, p, Nat.le_refl _⟩

/-- A hole where an expression was expected: the current token has no prefix reading. -/
def noPrefix (p : Parser) : Step (Option Expr) p.toks.length :=
  ⟨none, p.report ("no prefix parse function for " ++ p.cur.kind.name ++ " found"),
    Nat.le_refl _⟩

/-- The list that closes at the current state: `some` the elements when `close` follows,
otherwise `none` with the error recorded. -/
def closeList (close : TokenKind) (p : Parser) (acc : Array (Option Expr)) :
    Step (Option (List (Option Expr))) p.toks.length :=
  match hq : p.expect close with
  | .ok q => ⟨some acc.toList, q, Nat.le_of_lt (expect_ok_lt hq)⟩
  | .error q => ⟨none, q, Nat.le_of_eq (by rw [expect_error_toks hq])⟩

/-- Adds a pair to the pairs of a hash literal. Key nodes are all distinct, except that the
holes are one key: a pair whose key is a hole replaces the value of an earlier such pair in
its place. -/
def putPair (acc : List (Option Expr × Option Expr)) (key value : Option Expr) :
    List (Option Expr × Option Expr) :=
  match key with
  | some _ => acc ++ [(key, value)]
  | none =>
    if acc.any (fun kv => kv.1.isNone) then
      acc.map fun kv => if kv.1.isNone then (kv.1, value) else kv
    else acc ++ [(none, value)]

/-- The kinds of token that can start an expression. -/
def startsExpr : TokenKind → Bool
  | .ident | .int | .string | .trueKw | .falseKw | .bang | .minus | .lparen | .ifKw
  | .whileKw | .forKw | .fnKw | .classKw | .lbracket | .lbrace => true
  | _ => false

/-- Whether the expression continues with the peek token at binding strength `prec`. -/
def continues (p : Parser) (prec : Nat) : Bool :=
  p.peek.kind != .semicolon && prec < p.peek.kind.strength

theorem toks_ne_nil_of_continues {p : Parser} {prec : Nat} (h : p.continues prec = true) :
  p.toks ≠ [] ∧ p.advance.toks ≠ []
  := by
  unfold continues peek at h
  split at h
  · simp [advance, *]
  · simp [Token.eof, TokenKind.strength] at h

mutual

/-- A statement starting at the current token, or `none` when none can be read. -/
def parseStatement (p : Parser) : Step (Option Stmt) p.toks.length :=
  if hp : p.toks = [] then parseExprStmt p
  else
    match p.cur.kind with
    | .letKw => parseLet p
    | .returnKw => parseReturn p hp
    | .ident => if p.peek.kind = .assign then parseAssign p else parseExprStmt p
    | .breakKw => ⟨some .breakStmt, p.skipSemicolon, skipSemicolon_le p⟩
    | .continueKw => ⟨some .continueStmt, p.skipSemicolon, skipSemicolon_le p⟩
    | _ => parseExprStmt p
termination_by p.toks.length * 8 + 6

/-- `let name = value;` or `let name.field = value;`, the current token being `let`. -/
def parseLet (p : Parser) : Step (Option Stmt) p.toks.length :=
  let tok := p.cur
  match h1 : p.expect .ident with
  | .error q => ⟨none, q, Nat.le_of_eq (by rw [expect_error_toks h1])⟩
  | .ok q =>
    have h1' := expect_ok_lt h1
    let name := q.identHere
    match letField q with
    | ⟨field, r, hr⟩ =>
      match h2 : r.expect .assign with
      | .error s => ⟨none, s, by rw [expect_error_toks h2]; omega⟩
      | .ok s =>
        have h2' := expect_ok_lt h2
        have h3 : s.advance.toks.length < p.toks.length := by
          have := advance_le s; omega
        match parseExpr 0 s.advance with
        | ⟨v, u, hu⟩ =>
          ⟨some (.letStmt tok name v field), u.skipSemicolon,
            by have := skipSemicolon_le u; omega⟩
termination_by p.toks.length * 8 + 5

/-- `return value;`, the current token being `return`. -/
def parseReturn (p : Parser) (hp : p.toks ≠ []) : Step (Option Stmt) p.toks.length :=
  let tok := p.cur
  have hq : p.advance.toks.length < p.toks.length := advance_lt hp
  if p.advance.cur.kind = .semicolon then
    ⟨some (.returnStmt tok none), p.advance, Nat.le_of_lt hq⟩
  else
    match parseExpr 0 p.advance with
    | ⟨v, u, hu⟩ =>
      ⟨some (.returnStmt tok v), u.skipSemicolon, by have := skipSemicolon_le u; omega⟩
termination_by p.toks.length * 8 + 5

/-- `name = value;`, the current token being the name and the peek `=`. -/
def parseAssign (p : Parser) : Step (Option Stmt) p.toks.length :=
  let name := p.identHere
  match h1 : p.expect .assign with
  | .error q => ⟨none, q, Nat.le_of_eq (by rw [expect_error_toks h1])⟩
  | .ok q =>
    have h1' := expect_ok_lt h1
    have h2 : q.advance.toks.length < p.toks.length := by
      have := advance_le q; omega
    match parseExpr 0 q.advance with
    | ⟨v, u, hu⟩ =>
      ⟨some (.assign ⟨.assign, "="⟩ name v), u.skipSemicolon,
        by have := skipSemicolon_le u; omega⟩
termination_by p.toks.length * 8 + 5

/-- An expression standing as a statement. -/
def parseExprStmt (p : Parser) : Step (Option Stmt) p.toks.length :=
  let tok := p.cur
  match parseExpr 0 p with
  | ⟨v, u, hu⟩ =>
    ⟨some (.exprStmt tok v), u.skipSemicolon, by have := skipSemicolon_le u; omega⟩
termination_by p.toks.length * 8 + 5

/-- An expression at binding strength `prec`. When the current token cannot start an
expression, the expression is a hole and no operator after it is read. -/
def parseExpr (prec : Nat) (p : Parser) : Step (Option Expr) p.toks.length :=
  if !startsExpr p.cur.kind then noPrefix p else
  match parsePrefix p with
  | ⟨left, q, hq⟩ =>
    match infixLoop prec left q with
    | ⟨e, r, hr⟩ => ⟨e, r, by omega⟩
termination_by p.toks.length * 8 + 4

/-- The first part of an expression, read by the current token's prefix reading. -/
def parsePrefix (p : Parser) : Step (Option Expr) p.toks.length :=
  if hp : p.toks = [] then noPrefix p
  else
    let t := p.cur
    match t.kind with
    | .ident => ⟨some (.ident p.identHere), p, Nat.le_refl _⟩
    | .int => numberLiteral p
    | .string => ⟨some (.string t t.literal), p, Nat.le_refl _⟩
    | .trueKw => ⟨some (.boolean t true), p, Nat.le_refl _⟩
    | .falseKw => ⟨some (.boolean t false), p, Nat.le_refl _⟩
    | .bang | .minus => parsePrefixOp p hp
    | .lparen => parseGrouped p hp
    | .ifKw => parseIf p
    | .whileKw => parseWhile p
    | .forKw => parseFor p
    | .fnKw => parseFunction p
    | .classKw => parseClass p
    | .lbracket => parseArray p hp
    | .lbrace => parseHash p hp
    | _ => noPrefix p
termination_by p.toks.length * 8 + 3

/-- The operators after the first part of an expression, while they bind more strongly than
`prec`. -/
def infixLoop (prec : Nat) (left : Option Expr) (p : Parser) :
    Step (Option Expr) p.toks.length :=
  if hc : p.continues prec then
    have hne := toks_ne_nil_of_continues hc
    have hq : p.advance.toks.length < p.toks.length := advance_lt hne.1
    match p.advance.cur.kind with
    | .lparen =>
      match parseCall left p.advance hne.2 with
      | ⟨e, r, hr⟩ =>
        match infixLoop prec e r with
        | ⟨e', s, hs⟩ => ⟨e', s, by omega⟩
    | .lbracket =>
      match parseIndex left p.advance hne.2 with
      | ⟨e, r, hr⟩ =>
        match infixLoop prec e r with
        | ⟨e', s, hs⟩ => ⟨e', s, by omega⟩
    | _ =>
      match parseInfix left p.advance hne.2 with
      | ⟨e, r, hr⟩ =>
        match infixLoop prec e r with
        | ⟨e', s, hs⟩ => ⟨e', s, by omega⟩
  else ⟨left, p, Nat.le_refl _⟩
termination_by p.toks.length * 8 + 3

/-- `op right`, the current token being the prefix operator. -/
def parsePrefixOp (p : Parser) (hp : p.toks ≠ []) : Step (Option Expr) p.toks.length :=
  let tok := p.cur
  have hq := advance_lt hp
  match parseExpr prefixStrength p.advance with
  | ⟨r, u, hu⟩ => ⟨some (.prefixOp tok tok.literal r), u, by omega⟩
termination_by p.toks.length * 8 + 2

/-- `( expr )`, the current token being `(`: the inner expression itself. -/
def parseGrouped (p : Parser) (hp : p.toks ≠ []) : Step (Option Expr) p.toks.length :=
  have hq := advance_lt hp
  match parseExpr 0 p.advance with
  | ⟨e, u, hu⟩ =>
    match h : u.expect .rparen with
    | .ok r => ⟨e, r, by have := expect_ok_lt h; omega⟩
    | .error r => ⟨none, r, by rw [expect_error_toks h]; omega⟩
termination_by p.toks.length * 8 + 2

/-- `left op right`, the current token being the operator, which also gives the strength
of the right operand. -/
def parseInfix (left : Option Expr) (p : Parser) (hp : p.toks ≠ []) :
    Step (Option Expr) p.toks.length :=
  let tok := p.cur
  have hq := advance_lt hp
  match parseExpr tok.kind.strength p.advance with
  | ⟨r, u, hu⟩ => ⟨some (.infixOp tok left tok.literal r), u, by omega⟩
termination_by p.toks.length * 8 + 2

/-- `left(args)`, the current token being `(`. -/
def parseCall (left : Option Expr) (p : Parser) (hp : p.toks ≠ []) :
    Step (Option Expr) p.toks.length :=
  let tok := p.cur
  match exprList .rparen p hp with
  | ⟨args, u, hu⟩ => ⟨some (.call tok left args), u, hu⟩
termination_by p.toks.length * 8 + 2

/-- `left[index]`, the current token being `[`. -/
def parseIndex (left : Option Expr) (p : Parser) (hp : p.toks ≠ []) :
    Step (Option Expr) p.toks.length :=
  let tok := p.cur
  have hq := advance_lt hp
  match parseExpr 0 p.advance with
  | ⟨i, u, hu⟩ =>
    match h : u.expect .rbracket with
    | .ok r => ⟨some (.index tok left i), r, by have := expect_ok_lt h; omega⟩
    | .error r => ⟨none, r, by rw [expect_error_toks h]; omega⟩
termination_by p.toks.length * 8 + 2

/-- A list of expressions separated by commas and closed by `close`, the current token being
the opening bracket. The list is `none` when it is not closed. -/
def exprList (close : TokenKind) (p : Parser) (hp : p.toks ≠ []) :
    Step (Option (List (Option Expr))) p.toks.length :=
  if p.peek.kind = close then ⟨some [], p.advance, advance_le p⟩
  else
    have hq := advance_lt hp
    match parseExpr 0 p.advance with
    | ⟨e, u, hu⟩ =>
      match exprListLoop close u #[e] with
      | ⟨es, r, hr⟩ => ⟨es, r, by omega⟩
termination_by p.toks.length * 8 + 1

/-- The rest of a list of expressions after an element: `, expr` repeated, then `close`. -/
def exprListLoop (close : TokenKind) (p : Parser) (acc : Array (Option Expr)) :
    Step (Option (List (Option Expr))) p.toks.length :=
  if hc : p.peek.kind = .comma then
    have hq : p.advance.advance.toks.length + 2 = p.toks.length := by
      have := two_le_of_peek (by rw [hc]; decide)
      simp only [length_advance]; omega
    match parseExpr 0 p.advance.advance with
    | ⟨e, u, hu⟩ =>
      match exprListLoop close u (acc.push e) with
      | ⟨es, r, hr⟩ => ⟨es, r, by omega⟩
  else closeList close p acc
termination_by p.toks.length * 8 + 1

/-- `if (cond) { … }` with an optional `else { … }`, the current token being `if`. -/
def parseIf (p : Parser) : Step (Option Expr) p.toks.length :=
  let tok := p.cur
  match h1 : p.expect .lparen with
  | .error q => ⟨none, q, Nat.le_of_eq (by rw [expect_error_toks h1])⟩
  | .ok q =>
    have h1' := expect_ok_lt h1
    have hq := advance_le q
    match parseExpr 0 q.advance with
    | ⟨cond, r, hr⟩ =>
      match h2 : r.expect .rparen with
      | .error s => ⟨none, s, by rw [expect_error_toks h2]; omega⟩
      | .ok s =>
        have h2' := expect_ok_lt h2
        match h3 : s.expect .lbrace with
        | .error u => ⟨none, u, by rw [expect_error_toks h3]; omega⟩
        | .ok u =>
          have h3' := expect_ok_lt h3
          match parseBlock u (expect_ok_ne_nil h3) with
          | ⟨yes, v, hv⟩ =>
            if v.peek.kind = .elseKw then
              match h4 : v.advance.expect .lbrace with
              | .error w => ⟨none, w, by
                  rw [expect_error_toks h4]; have := advance_le v; omega⟩
              | .ok w =>
                have h4' := expect_ok_lt h4
                have := advance_le v
                match parseBlock w (expect_ok_ne_nil h4) with
                | ⟨no, x, hx⟩ => ⟨some (.ifElse tok cond yes (some no)), x, by omega⟩
            else ⟨some (.ifElse tok cond yes none), v, by omega⟩
termination_by p.toks.length * 8 + 2

/-- `while (cond) { … }`, the current token being `while`. -/
def parseWhile (p : Parser) : Step (Option Expr) p.toks.length :=
  let tok := p.cur
  match h1 : p.expect .lparen with
  | .error q => ⟨none, q, Nat.le_of_eq (by rw [expect_error_toks h1])⟩
  | .ok q =>
    have h1' := expect_ok_lt h1
    have hq := advance_le q
    match parseExpr 0 q.advance with
    | ⟨cond, r, hr⟩ =>
      match h2 : r.expect .rparen with
      | .error s => ⟨none, s, by rw [expect_error_toks h2]; omega⟩
      | .ok s =>
        have h2' := expect_ok_lt h2
        match h3 : s.expect .lbrace with
        | .error u => ⟨none, u, by rw [expect_error_toks h3]; omega⟩
        | .ok u =>
          have h3' := expect_ok_lt h3
          match parseBlock u (expect_ok_ne_nil h3) with
          | ⟨body, v, hv⟩ => ⟨some (.whileLoop tok cond body), v, by omega⟩
termination_by p.toks.length * 8 + 2

/-- `for (init; cond; step) { … }`, the current token being `for`. The first part must be a
`let` statement or empty. -/
def parseFor (p : Parser) : Step (Option Expr) p.toks.length :=
  let tok := p.cur
  match h1 : p.expect .lparen with
  | .error q => ⟨none, q, Nat.le_of_eq (by rw [expect_error_toks h1])⟩
  | .ok q =>
    have h1' := expect_ok_lt h1
    have hq1 : q.advance.toks.length < p.toks.length := by have := advance_le q; omega
    match forInit q.advance with
    | ⟨none, r, hr⟩ => ⟨none, r, by omega⟩
    | ⟨some initial, r, hr⟩ =>
      have hr1 : r.advance.toks.length < p.toks.length := by have := advance_le r; omega
      match forCond r.advance with
      | ⟨cond, s, hs⟩ =>
        have hs1 : s.advance.toks.length < p.toks.length := by have := advance_le s; omega
        match forStep s.advance with
        | ⟨step, u, hu⟩ =>
          if u.cur.kind = .rparen then
            match h2 : u.expect .lbrace with
            | .error v => ⟨none, v, by rw [expect_error_toks h2]; omega⟩
            | .ok v =>
              have h2' := expect_ok_lt h2
              match parseBlock v (expect_ok_ne_nil h2) with
              | ⟨body, w, hw⟩ => ⟨some (.forLoop tok initial cond step body), w, by omega⟩
          else ⟨none, u, by omega⟩
termination_by p.toks.length * 8 + 2

/-- The first part of a `for` header: empty before `;`, or a `let` statement. Anything else
is no header at all (`none`). -/
def forInit (p : Parser) : Step (Option (Option Stmt)) p.toks.length :=
  if p.cur.kind = .semicolon then ⟨some none, p, Nat.le_refl _⟩
  else if p.cur.kind = .letKw then
    match parseStatement p with
    | ⟨s, r, hr⟩ => ⟨some s, r, hr⟩
  else ⟨none, p, Nat.le_refl _⟩
termination_by p.toks.length * 8 + 7

/-- The condition of a `for` header: empty before `;`, or any statement. -/
def forCond (p : Parser) : Step (Option Stmt) p.toks.length :=
  if p.cur.kind = .semicolon then ⟨none, p, Nat.le_refl _⟩ else parseStatement p
termination_by p.toks.length * 8 + 7

/-- The step of a `for` header: empty before `)`, or any statement, after which the parser
moves on by one token. -/
def forStep (p : Parser) : Step (Option Stmt) p.toks.length :=
  if p.cur.kind = .rparen then ⟨none, p, Nat.le_refl _⟩
  else
    match parseStatement p with
    | ⟨st, u, hu⟩ => ⟨st, u.advance, Nat.le_trans (advance_le u) hu⟩
termination_by p.toks.length * 8 + 7

/-- `fn(params) { … }`, the current token being `fn`. -/
def parseFunction (p : Parser) : Step (Option Expr) p.toks.length :=
  let tok := p.cur
  match h1 : p.expect .lparen with
  | .error q => ⟨none, q, Nat.le_of_eq (by rw [expect_error_toks h1])⟩
  | .ok q =>
    have h1' := expect_ok_lt h1
    match params q with
    | ⟨ps, r, hr⟩ =>
      match h2 : r.expect .lbrace with
      | .error s => ⟨none, s, by rw [expect_error_toks h2]; omega⟩
      | .ok s =>
        have h2' := expect_ok_lt h2
        match parseBlock s (expect_ok_ne_nil h2) with
        | ⟨body, u, hu⟩ => ⟨some (.function tok ps body), u, by omega⟩
termination_by p.toks.length * 8 + 2

/-- `class { … }`, the current token being `class`. -/
def parseClass (p : Parser) : Step (Option Expr) p.toks.length :=
  let tok := p.cur
  match h1 : p.expect .lbrace with
  | .error q => ⟨none, q, Nat.le_of_eq (by rw [expect_error_toks h1])⟩
  | .ok q =>
    have h1' := expect_ok_lt h1
    match parseBlock q (expect_ok_ne_nil h1) with
    | ⟨body, u, hu⟩ => ⟨some (.classDef tok body), u, by omega⟩
termination_by p.toks.length * 8 + 2

/-- `[elems]`, the current token being `[`. -/
def parseArray (p : Parser) (hp : p.toks ≠ []) : Step (Option Expr) p.toks.length :=
  let tok := p.cur
  match exprList .rbracket p hp with
  | ⟨es, u, hu⟩ => ⟨some (.array tok es), u, hu⟩
termination_by p.toks.length * 8 + 2

/-- `{key: value, …}`, the current token being `{`. -/
def parseHash (p : Parser) (hp : p.toks ≠ []) : Step (Option Expr) p.toks.length :=
  let tok := p.cur
  match hashLoop p hp [] with
  | ⟨none, u, hu⟩ => ⟨none, u, hu⟩
  | ⟨some pairs, u, hu⟩ => ⟨some (.hash tok pairs), u, hu⟩
termination_by p.toks.length * 8 + 2

/-- The pairs of a hash literal from the current token (`{` or `,`) on, up to the closing
brace. A later pair with a hole for its key replaces the value of an earlier one. -/
def hashLoop (p : Parser) (hp : p.toks ≠ []) (acc : List (Option Expr × Option Expr)) :
    Step (Option (List (Option Expr × Option Expr))) p.toks.length :=
  if p.peek.kind = .rbrace then
    match h : p.expect .rbrace with
    | .ok q => ⟨some acc, q, by have := expect_ok_lt h; omega⟩
    | .error q => ⟨none, q, Nat.le_of_eq (by rw [expect_error_toks h])⟩
  else
    have hq := advance_lt hp
    match parseExpr 0 p.advance with
    | ⟨key, q, hq'⟩ =>
      match h1 : q.expect .colon with
      | .error r => ⟨none, r, by rw [expect_error_toks h1]; omega⟩
      | .ok r =>
        have h1' := expect_ok_lt h1
        have := advance_le r
        match parseExpr 0 r.advance with
        | ⟨value, s, hs⟩ =>
          let acc := putPair acc key value
          if s.peek.kind = .rbrace then
            match h2 : s.expect .rbrace with
            | .ok u => ⟨some acc, u, by have := expect_ok_lt h2; omega⟩
            | .error u => ⟨none, u, by rw [expect_error_toks h2]; omega⟩
          else
            match h2 : s.expect .comma with
            | .error u => ⟨none, u, by rw [expect_error_toks h2]; omega⟩
            | .ok u =>
              have h2' := expect_ok_lt h2
              match hashLoop u (expect_ok_ne_nil h2) acc with
              | ⟨ps, v, hv⟩ => ⟨ps, v, by omega⟩
termination_by p.toks.length * 8 + 1

/-- A block from its `{` to its `}`: the statements that could be read, in order. -/
def parseBlock (p : Parser) (hp : p.toks ≠ []) : Step Block p.toks.length :=
  let tok := p.cur
  have hq := advance_lt hp
  match blockLoop p.advance #[] with
  | ⟨stmts, u, hu⟩ => ⟨.mk tok stmts, u, by omega⟩
termination_by p.toks.length * 8 + 2

/-- The statements of a block up to its `}` or the end of the input. A statement that cannot
be read is left out. -/
def blockLoop (p : Parser) (acc : Array Stmt) : Step (List Stmt) p.toks.length :=
  if hp : p.toks = [] then ⟨acc.toList, p, Nat.le_refl _⟩
  else if p.cur.kind = .rbrace then ⟨acc.toList, p, Nat.le_refl _⟩
  else
    match parseStatement p with
    | ⟨s, q, hq⟩ =>
      have hlt : q.advance.toks.length < p.toks.length := by
        have := length_pos hp; rw [length_advance]; omega
      let acc := match s with
        | some st => acc.push st
        | none => acc
      match blockLoop q.advance acc with
      | ⟨ss, r, hr⟩ => ⟨ss, r, by omega⟩
termination_by p.toks.length * 8 + 7

end

/-- The statements of a program from the current token on. Reading stops at the end of the
input or at the first statement that cannot be read. -/
def programLoop (p : Parser) (acc : Array Stmt) : Array Stmt × Parser :=
  if hp : p.toks = [] then (acc, p)
  else
    match parseStatement p with
    | ⟨none, q, _⟩ => (acc, q)
    | ⟨some st, q, hq⟩ =>
      have : q.advance.toks.length < p.toks.length := by
        have := length_pos hp; rw [length_advance]; omega
      programLoop q.advance (acc.push st)
termination_by p.toks.length

end Parser

/-- A parsed program with the errors met while reading it, in order. -/
structure Parsed where
  program : Program
  errors : List String

/-- Parses a token sequence (without its end token). -/
def Parsed.ofTokens (toks : List Token) : Parsed :=
  let (stmts, p) := Parser.programLoop ⟨toks, #[]⟩ #[]
  ⟨⟨stmts.toList⟩, p.errors.toList⟩

/-- Parses a source text. -/
def Program.parse (src : String) : Parsed := Parsed.ofTokens (Token.scan src.toList)

end Monkey
