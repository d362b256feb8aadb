import Monkey.Proofs.Precedence
import Monkey.Syntax.Printer

/-!
# The printable fragment

The syntax trees whose printed text the lexer and the parser read back as the same tree, and
the tokens that text is read as. The printer leaves a tree's holes unprintable and writes a
number or a name as the text of its token, so the fragment has no holes, and each node holds
the token the lexer gives for its text:

- names are words of ASCII letters and underscores that are no keywords; numbers are digits,
  at most `Decimal.intDigitLimit` of them for an integer, or digits with one point for a double;
- prefix, infix and index expressions are printed between parentheses, and are the only
  conditions of a conditional, whose text `if` is followed directly by the condition's;
- calls, arrays, hash literals, function and class literals, conditionals with or without
  `else`, and the statements `let` (without a field), `return`, assignment, `break`,
  `continue` and an expression standing alone, all nested to any depth.

`Expr.Written e ts` says that `e` is in the fragment and that its text is read as the tokens
`ts`; the other relations say the same of the parts printed between parentheses, of lists of
arguments, parameters and pairs, and of statements. A program is printable when its statements
are (`Program.Printable`).
-/

namespace Monkey

namespace Token

/-- The token of a symbol kind, written as the symbol. -/
def sym (k : TokenKind) : Token := ⟨k, k.name⟩

/-- The token the lexer reads from a word. -/
def word (w : String) : Token := ⟨TokenKind.ofWord w, w⟩

/-- A name: a word of ASCII letters and underscores that is no keyword. -/
def IsName (t : Token) : Prop := t.IsAtom ∧ t.kind = .ident

/-- A block's tokens: its statements' between braces. -/
def braced (ts : List Token) : List Token := sym .lbrace :: ts ++ [sym .rbrace]

/-- The tokens of a parameter list: the names, separated by commas. -/
def params : List Ident → List Token
  | [] => []
  | x :: xs => x.token :: xs.flatMap fun y => [sym .comma, y.token]

end Token

/-- The number literals of the fragment, with the value the literal holds: up to
`Decimal.intDigitLimit` digits are an integer, and digits with one point, at least one digit
before it, are the double nearest to the decimal they denote. -/
inductive Numeral : Token → Number → Prop
  | int {s : String} : s.toList ≠ [] → (∀ c ∈ s.toList, c.isDigit) →
      s.toList.length ≤ Decimal.intDigitLimit →
      Numeral ⟨.int, s⟩ (.int (Decimal.digitsValue s.toList))
  | point {ds fs : List Char} : ds ≠ [] → (∀ c ∈ ds ++ fs, c.isDigit) →
      Numeral ⟨.int, String.ofList (ds ++ '.' :: fs)⟩
        (.float (Decimal.nearestFloat false (Decimal.digitsValue (ds ++ fs)) (-(fs.length : Int))))

open Token in
mutual

/-- `Expr.Written e ts`: the expression `e` is printable, and its text is read as `ts`. -/
inductive Expr.Written : Expr → List Token → Prop
  | ident {t : Token} : t.IsName → Expr.Written (.ident ⟨t, t.literal⟩) [t]
  | number {t : Token} {v : Number} : Numeral t v → Expr.Written (.number t v) [t]
  | boolean (b : Bool) : Expr.Written (.boolean (word (toString b)) b) [word (toString b)]
  | grouped {e : Expr} {ts : List Token} : Expr.Grouped e ts →
      Expr.Written e (sym .lparen :: ts ++ [sym .rparen])
  | call {f : Expr} {fs : List Token} {as : List (Option Expr)} {us : List Token} :
      Expr.Written f fs → Expr.Args as us →
      Expr.Written (.call (sym .lparen) (some f) (some as))
        (fs ++ sym .lparen :: us ++ [sym .rparen])
  | array {as : List (Option Expr)} {us : List Token} : Expr.Args as us →
      Expr.Written (.array (sym .lbracket) (some as)) (sym .lbracket :: us ++ [sym .rbracket])
  | hash {ps : List (Option Expr × Option Expr)} {us : List Token} : Expr.Pairs ps us →
      Expr.Written (.hash (sym .lbrace) ps) (sym .lbrace :: us ++ [sym .rbrace])
  | function {xs : List Ident} {ss : List Stmt} {bs : List Token} :
      (∀ x ∈ xs, x.token.IsName ∧ x.name = x.token.literal) → Stmt.Seq ss bs →
      Expr.Written (.function (word "fn") (some xs) (.mk (sym .lbrace) ss))
        (word "fn" :: sym .lparen :: params xs ++ sym .rparen :: braced bs)
  | classDef {ss : List Stmt} {bs : List Token} : Stmt.Seq ss bs →
      Expr.Written (.classDef (word "class") (.mk (sym .lbrace) ss)) (word "class" :: braced bs)
  | ifThen {c : Expr} {cs : List Token} {ss : List Stmt} {ys : List Token} :
      Expr.Grouped c cs → Stmt.Seq ss ys →
      Expr.Written (.ifElse (word "if") (some c) (.mk (sym .lbrace) ss) none)
        (word "if" :: sym .lparen :: cs ++ sym .rparen :: braced ys)
  | ifElse {c : Expr} {cs : List Token} {ss : List Stmt} {ys : List Token} {ns : List Stmt}
      {zs : List Token} : Expr.Grouped c cs → Stmt.Seq ss ys → Stmt.Seq ns zs →
      Expr.Written
        (.ifElse (word "if") (some c) (.mk (sym .lbrace) ss) (some (.mk (sym .lbrace) ns)))
        (word "if" :: sym .lparen :: cs ++ sym .rparen :: braced ys ++ word "else" :: braced zs)

/-- The expressions printed between parentheses, with the tokens inside them. -/
inductive Expr.Grouped : Expr → List Token → Prop
  | prefixOp {t : Token} {r : Expr} {rs : List Token} : t.IsPrefixOp → Expr.Written r rs →
      Expr.Grouped (.prefixOp t t.literal (some r)) (t :: rs)
  | infixOp {t : Token} {l : Expr} {ls : List Token} {r : Expr} {rs : List Token} :
      t.IsBinaryOp → Expr.Written l ls → Expr.Written r rs →
      Expr.Grouped (.infixOp t (some l) t.literal (some r)) (ls ++ t :: rs)
  | index {l : Expr} {ls : List Token} {k : Expr} {ks : List Token} :
      Expr.Written l ls → Expr.Written k ks →
      Expr.Grouped (.index (sym .lbracket) (some l) (some k))
        (ls ++ sym .lbracket :: ks ++ [sym .rbracket])

/-- A list of arguments or elements: the first, then the others after commas. -/
inductive Expr.Args : List (Option Expr) → List Token → Prop
  | nil : Expr.Args [] []
  | cons {e : Expr} {es : List Token} {as : List (Option Expr)} {us : List Token} :
      Expr.Written e es → Expr.More as us → Expr.Args (some e :: as) (es ++ us)

/-- The arguments or elements after the first, each after a comma. -/
inductive Expr.More : List (Option Expr) → List Token → Prop
  | nil : Expr.More [] []
  | cons {e : Expr} {es : List Token} {as : List (Option Expr)} {us : List Token} :
      Expr.Written e es → Expr.More as us → Expr.More (some e :: as) (sym .comma :: es ++ us)

/-- The pairs `key:value` of a hash literal, separated by commas. -/
inductive Expr.Pairs : List (Option Expr × Option Expr) → List Token → Prop
  | nil : Expr.Pairs [] []
  | one {k : Expr} {ks : List Token} {v : Expr} {vs : List Token} :
      Expr.Written k ks → Expr.Written v vs →
      Expr.Pairs [(some k, some v)] (ks ++ sym .colon :: vs)
  | cons {k : Expr} {ks : List Token} {v : Expr} {vs : List Token}
      {p : Option Expr × Option Expr} {ps : List (Option Expr × Option Expr)} {us : List Token} :
      Expr.Written k ks → Expr.Written v vs → Expr.Pairs (p :: ps) us →
      Expr.Pairs ((some k, some v) :: p :: ps) (ks ++ sym .colon :: vs ++ sym .comma :: us)

/-- `Stmt.Written s ts`: the statement `s` is printable, and its text is read as `ts`. -/
inductive Stmt.Written : Stmt → List Token → Prop
  | letStmt {t : Token} {e : Expr} {es : List Token} : t.IsName → Expr.Written e es →
      Stmt.Written (.letStmt (word "let") ⟨t, t.literal⟩ (some e) none)
        (word "let" :: t :: sym .assign :: es ++ [sym .semicolon])
  | returnNone : Stmt.Written (.returnStmt (word "return") none) [word "return", sym .semicolon]
  | returnSome {e : Expr} {es : List Token} : Expr.Written e es →
      Stmt.Written (.returnStmt (word "return") (some e)) (word "return" :: es ++ [sym .semicolon])
  | exprStmt {e : Expr} {t : Token} {ts : List Token} : Expr.Written e (t :: ts) →
      Stmt.Written (.exprStmt t (some e)) (t :: ts ++ [sym .semicolon])
  | assign {t : Token} {e : Expr} {es : List Token} : t.IsName → Expr.Written e es →
      Stmt.Written (.assign (sym .assign) ⟨t, t.literal⟩ (some e))
        (t :: sym .assign :: es ++ [sym .semicolon])
  | breakStmt : Stmt.Written .breakStmt [word "break", sym .semicolon]
  | continueStmt : Stmt.Written .continueStmt [word "continue", sym .semicolon]

/-- A sequence of printable statements, and the tokens of their texts one after another. -/
inductive Stmt.Seq : List Stmt → List Token → Prop
  | nil : Stmt.Seq [] []
  | cons {s : Stmt} {ts : List Token} {ss : List Stmt} {us : List Token} :
      Stmt.Written s ts → Stmt.Seq ss us → Stmt.Seq (s :: ss) (ts ++ us)

end

/-- A program is printable when its statements are. -/
def Program.Printable (p : Program) : Prop := ∃ ts, Stmt.Seq p.stmts ts

end Monkey

namespace Monkey

theorem Expr.Grouped.ne_nil {e : Expr} {ts : List Token} (h : Expr.Grouped e ts) :
  ts ≠ []
  := by
  cases h <;> simp

theorem Expr.Pairs.ne_nil {p : Option Expr × Option Expr} {ps : List (Option Expr × Option Expr)}
    {us : List Token} (h : Expr.Pairs (p :: ps) us) :
  us ≠ []
  := by
  cases h <;> simp

namespace Expr.Written

theorem ne_nil {e : Expr} {ts : List Token} (h : Expr.Written e ts) :
  ts ≠ []
  := by
  cases h <;> simp [Token.braced]

/-- A printed expression starts with a token that can start an expression. -/
theorem startsExpr_head :
  ∀ {e : Expr} {ts : List Token}, Expr.Written e ts → ∀ t ∈ ts.head?,
    Parser.startsExpr t.kind = true
  | _, _, .ident ht, t, h => by
    obtain ⟨-, hk⟩ := ht
    simp only [List.head?_cons, Option.mem_def, Option.some.injEq] at h
    subst h
    rw [hk]
    rfl
  | _, _, .number hn, t, h => by
    simp only [List.head?_cons, Option.mem_def, Option.some.injEq] at h
    subst h
    cases hn <;> rfl
  | _, _, .boolean b, t, h => by
    simp only [List.head?_cons, Option.mem_def, Option.some.injEq] at h
    subst h
    cases b <;> rfl
  | _, _, .call hf _, t, h => by
    obtain ⟨u, hu⟩ := Option.isSome_iff_exists.1 (List.isSome_head?.2 hf.ne_nil)
    simp only [List.append_assoc, List.head?_append, hu, Option.some_or, Option.mem_def] at h
    exact hf.startsExpr_head t (hu.trans h)
  | _, _, .grouped _, t, h
  | _, _, .array _, t, h
  | _, _, .hash _, t, h
  | _, _, .function _ _, t, h
  | _, _, .classDef _, t, h
  | _, _, .ifThen _ _, t, h
  | _, _, .ifElse _ _ _, t, h => by
    simp only [List.cons_append, List.head?_cons, Option.mem_def, Option.some.injEq] at h
    subst h
    rfl

/-- A printed expression that starts with a name is that name alone, or a call: the name is
followed by `(`. -/
theorem lparen_after_ident :
  ∀ {e : Expr} {ts : List Token}, Expr.Written e ts → ∀ {t : Token} {rest : List Token},
    ts = t :: rest → t.kind = .ident → ∀ u ∈ rest.head?, u.kind = .lparen
  | _, _, .ident _, _, _, hts, _, u, hu => by
    simp only [List.cons.injEq] at hts
    obtain ⟨-, rfl⟩ := hts
    cases hu
  | _, _, .number _, _, _, hts, _, u, hu
  | _, _, .boolean _, _, _, hts, _, u, hu => by
    simp only [List.cons.injEq] at hts
    obtain ⟨-, rfl⟩ := hts
    cases hu
  | _, _, @Expr.Written.call _ fs _ _ hf _, t, rest, hts, hk, u, hu => by
    match fs, hf with
    | [], hf => exact absurd rfl hf.ne_nil
    | [t'], _ =>
      simp only [List.cons_append, List.nil_append, List.cons.injEq] at hts
      obtain ⟨-, rfl⟩ := hts
      simp only [List.head?_cons, Option.mem_def, Option.some.injEq] at hu
      subst hu
      rfl
    | t' :: u' :: fs', hf =>
      simp only [List.cons_append, List.cons.injEq] at hts
      obtain ⟨rfl, rfl⟩ := hts
      simp only [List.head?_cons, Option.mem_def, Option.some.injEq] at hu
      subst hu
      exact hf.lparen_after_ident rfl hk u' rfl
  | _, _, .grouped _, _, _, hts, hk, _, _
  | _, _, .array _, _, _, hts, hk, _, _
  | _, _, .hash _, _, _, hts, hk, _, _
  | _, _, .function _ _, _, _, hts, hk, _, _
  | _, _, .classDef _, _, _, hts, hk, _, _
  | _, _, .ifThen _ _, _, _, hts, hk, _, _
  | _, _, .ifElse _ _ _, _, _, hts, hk, _, _ => by
    simp only [List.cons_append, List.cons.injEq] at hts
    obtain ⟨rfl, -⟩ := hts
    cases hk

end Expr.Written

end Monkey

namespace Monkey

namespace Stmt.Written

/-- A printed statement ends with `;`. -/
theorem getLast? {s : Stmt} {ts : List Token} (h : Stmt.Written s ts) :
  ts.getLast? = some (Token.sym .semicolon)
  := by
  cases h <;> first | exact List.getLast?_concat | rfl

theorem ne_nil {s : Stmt} {ts : List Token} (h : Stmt.Written s ts) :
  ts ≠ []
  := by
  cases h <;> simp

/-- A printed statement does not start with `}`, which ends a block. -/
theorem head_ne_rbrace {s : Stmt} {ts : List Token} (h : Stmt.Written s ts) :
  ∀ t ∈ ts.head?, t.kind ≠ .rbrace
  := by
  intro t ht
  cases h with
  | exprStmt he =>
    have hs := he.startsExpr_head t (by simpa using ht)
    intro hk
    simp [hk, Parser.startsExpr] at hs
  | letStmt hn _ | assign hn _ =>
    simp only [List.cons_append, List.head?_cons, Option.mem_def, Option.some.injEq] at ht
    subst ht
    simp [Token.word, TokenKind.ofWord, hn.2]
  | returnNone | returnSome _ | breakStmt | continueStmt =>
    simp only [List.cons_append, List.head?_cons, Option.mem_def, Option.some.injEq] at ht
    subst ht
    decide

end Stmt.Written

end Monkey
