import Monkey.Proofs.LineLexing
import Monkey.Proofs.LineSplit

/-!
# A text read after a closed line

A line with no comment whose statements each end within it, the last on its final `;`, and
that reads with no error into complete statements (`ClosedLine`) can stand before any text: the
line, a line end and the text read into the line's statements followed by the text's, with the
text's errors (`Program.parse_after_line`). The text is read as it is alone, but for the
literal of an `illegal` token that starts it, which reports the character after the line's
last token; `Stmt.blind` forgets it.

Balanced braces do not make a line end its statements: a `}` read as a field name leaves a
block open, and the block takes in the text after the line. Nor does a complete tree: a
`return` whose value is a `for` loop abandoned in its header has no value and reports nothing,
and where the header stops depends on the tokens after the line
(`Program.lines_that_take_in_the_next`).
-/

namespace Monkey

/-- The statement with the literal of an `illegal` token that starts it dropped: such a token
starts an expression statement with a hole. -/
def Stmt.blind : Stmt → Stmt
  | .exprStmt t e => .exprStmt t.blind e
  | st => st

/-- Tokens alike read into the same errors, and into the same statements but for the literal
of an `illegal` first token. -/
theorem Parsed.ofTokens_alike {ts ts' : List Token} (h : Token.Alike ts ts') :
  (Parsed.ofTokens ts).errors = (Parsed.ofTokens ts').errors ∧
    (Parsed.ofTokens ts).program.stmts.map Stmt.blind =
      (Parsed.ofTokens ts').program.stmts.map Stmt.blind
  := by
  by_cases hne : ∀ t ∈ ts'.head?, t.kind ≠ .illegal
  · rw [h.eq hne]
    exact ⟨rfl, rfl⟩
  obtain ⟨ht, hh⟩ := h
  cases ts with
  | nil => cases ts' with
    | nil => exact ⟨rfl, rfl⟩
    | cons _ _ => cases hh
  | cons t r => cases ts' with
    | nil => cases hh
    | cons t' r' =>
      simp only [List.tail_cons] at ht
      subst ht
      simp only [List.head?_cons, Option.map_some, Option.some.injEq] at hh
      have hk' : t'.kind = .illegal := by simpa using hne
      have hk : t.kind = .illegal := by rw [← Token.blind_kind, hh, Token.blind_kind, hk']
      have hfirst : ∀ u : Token, u.kind = .illegal →
          Parser.programLoop ⟨u :: r, #[]⟩ #[] = Parser.programLoop
            (Parser.parseStatement ⟨u :: r, #[]⟩).state.advance #[.exprStmt u none] := by
        intro u hu
        have hst : (Parser.parseStatement ⟨u :: r, #[]⟩).val = some (.exprStmt u none) :=
          Parser.statement_illegal (by simp) hu
        exact Parser.programLoop_of_some (by simp) (by rw [Parser.Step.out, hst]) #[]
      rw [Parsed.ofTokens_errors, Parsed.ofTokens_errors, Parsed.ofTokens_stmts,
        Parsed.ofTokens_stmts, hfirst t hk, hfirst t' hk',
        Parser.statement_illegal_advance hk hk' r #[], Parser.programLoop_snd _ #[_],
        Parser.programLoop_snd _ #[.exprStmt t' none], Parser.programLoop_fst _ #[_],
        Parser.programLoop_fst _ #[.exprStmt t' none]]
      refine ⟨rfl, ?_⟩
      simp [Stmt.blind, hh]

/-- A closed line with no comment, a line end and any text read into the line's statements
followed by the text's, and into the text's errors. The text's statements are those it reads
alone, but for the literal of an `illegal` token that starts it. -/
theorem Program.parse_after_line (s₁ s₂ : String) (hplain : Lexer.plain s₁.toList = true)
    (hline : ClosedLine (Token.scan s₁.toList)) :
  (Program.parse (s₁ ++ "\n" ++ s₂)).errors = (Program.parse s₂).errors ∧
    (Program.parse (s₁ ++ "\n" ++ s₂)).program.stmts.map Stmt.blind =
      ((Program.parse s₁).program.stmts ++ (Program.parse s₂).program.stmts).map
        Stmt.blind
  := by
  obtain ⟨ts, hts, hal⟩ :=
    Token.scan_append_line_alike s₁.toList s₂.toList hplain hline.last
  have htext : (s₁ ++ "\n" ++ s₂).toList = s₁.toList ++ '\n' :: s₂.toList := by simp
  have hjoin : Program.parse (s₁ ++ "\n" ++ s₂) =
      ⟨⟨(Program.parse s₁).program.stmts ++ (Parsed.ofTokens ts).program.stmts⟩,
        (Parsed.ofTokens ts).errors⟩ := by
    rw [Program.parse, htext, hts, hline.ofTokens_append]
    rfl
  obtain ⟨herr, hstmts⟩ := Parsed.ofTokens_alike hal
  rw [hjoin]
  refine ⟨herr, ?_⟩
  rw [List.map_append, List.map_append, hstmts]
  rfl

/-- A function's definition on a line, then a call of it. -/
theorem Program.definition_before_call :
  Lexer.plain "let f = fn(x) \x7b return !x; \x7d;".toList = true ∧
    ClosedLine (Token.scan "let f = fn(x) \x7b return !x; \x7d;".toList) ∧
    (Program.parse ("let f = fn(x) \x7b return !x; \x7d;" ++ "\n" ++ "f(true)")).errors =
      (Program.parse "f(true)").errors ∧
    (Program.parse ("let f = fn(x) \x7b return !x; \x7d;" ++ "\n" ++ "f(true)")).program.stmts.map
        Stmt.blind =
      ((Program.parse "let f = fn(x) \x7b return !x; \x7d;").program.stmts ++
        (Program.parse "f(true)").program.stmts).map Stmt.blind
  := by
  have hplain : Lexer.plain "let f = fn(x) \x7b return !x; \x7d;".toList = true := by
    decide +kernel
  have hline : ClosedLine (Token.scan "let f = fn(x) \x7b return !x; \x7d;".toList) :=
    ⟨by decide +kernel, by decide +kernel, by decide +kernel, by decide +kernel,
      .inl (by decide +kernel)⟩
  exact ⟨hplain, hline, Program.parse_after_line _ "f(true)" hplain hline⟩

/-- Two lines with no comment that read with no error into complete statements, have as many
`{` as `}` tokens and end on a `;`, yet read fewer statements before the next line than apart.
In the first a `}` is read as a field name, and the block of `f` takes in the next line. In the
second the `for` header stops on the token after its step, `b` when the next line follows, and
the `return` with no value passes the `;` after it. -/
theorem Program.lines_that_take_in_the_next :
  let cases := [("let f = fn() \x7b let a.\x7d = true;", "let g = true;"),
    ("return for (;;a;", "b;")]
  (∀ c ∈ cases, Lexer.plain c.1.toList = true ∧ (Program.parse c.1).errors = [] ∧
      (Program.parse c.1).program.complete = true ∧
      ((Token.scan c.1.toList).filter (·.kind == .lbrace)).length =
        ((Token.scan c.1.toList).filter (·.kind == .rbrace)).length ∧
      (Token.scan c.1.toList).getLast?.map Token.kind = some .semicolon) ∧
    ∀ c ∈ cases, (Program.parse (c.1 ++ "\n" ++ c.2)).program.stmts.length <
      (Program.parse c.1).program.stmts.length + (Program.parse c.2).program.stmts.length
  := by
  decide +kernel

end Monkey
