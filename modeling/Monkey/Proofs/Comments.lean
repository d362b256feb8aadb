import Monkey.Proofs.LineLexing

/-!
# Comments

A comment before a text is passed over with the trivia before the text's first token, and the
text is then read as it is alone (`Token.lex_after_comment`). Only the literal of an `illegal`
first token can tell the two apart, as it reports the character that stood first before the
trivia (`Token.scan_alike`).

That needs the text not to start with a comment the lexer no longer passes. Before each token
the lexer passes blanks, one line comment with the blanks after it, and one block comment with
the blanks after it, so a block comment may follow a line comment, but a second line comment, or
any comment after a block comment, is read as tokens (`Token.comments_that_show`). And the scan
for the `*/` that closes a block comment starts on the `*` that opens it, so `/*/` is a whole
comment and a comment whose text starts with `/` ends there.
-/

namespace Monkey

/-- The comments of the language: `//`, a text with no line end and a line end; `/*`, a text
with no `*/` and `*/`. -/
inductive Comment : String → Prop
  | line (t : String) : '\n' ∉ t.toList → Comment ("//" ++ t ++ "\n")
  | block (t : String) : ¬ ['*', '/'] <:+: t.toList → Comment ("/*" ++ t ++ "*/")

namespace Lexer

/-- Whether a text starts with `//` or `/*` once its blanks are passed. -/
def startsComment (cs : List Char) : Bool :=
  match skipBlanks cs with
  | '/' :: '/' :: _ | '/' :: '*' :: _ => true
  | _ => false

/-- Whether a text starts with `//` once its blanks are passed. -/
def startsLineComment (cs : List Char) : Bool :=
  match skipBlanks cs with
  | '/' :: '/' :: _ => true
  | _ => false

/-- A line comment runs to the first line end. -/
theorem afterLineComment_line_end {t : List Char} (ht : '\n' ∉ t) (s : List Char) :
  afterLineComment (t ++ '\n' :: s) = '\n' :: s
  := by
  have hall : t.dropWhile (· != '\n') = [] := by
    rw [List.dropWhile_eq_nil_iff]
    intro x hx
    simp only [bne_iff_ne, ne_eq]
    rintro rfl
    exact ht hx
  rw [afterLineComment, List.dropWhile_append, hall]
  rfl

/-- A block comment runs to the first `*/`: over a text with none, to the one after it. -/
theorem afterBlockComment_close {u : List Char} (hu : ¬ ['*', '/'] <:+: u) (s : List Char) :
  afterBlockComment (u ++ '*' :: '/' :: s) = s
  := by
  induction u with
  | nil => exact afterBlockComment.eq_2 s
  | cons x u ih =>
    have hx : ∀ r, x = '*' → u ++ '*' :: '/' :: s = '/' :: r → False := by
      rintro r rfl hr
      cases u with
      | nil => cases hr
      | cons y u =>
        obtain ⟨rfl, -⟩ := List.cons.inj hr
        exact hu ⟨[], u, rfl⟩
    rw [List.cons_append, afterBlockComment.eq_3 x _ hx]
    exact ih fun h => hu (h.trans (List.suffix_cons x u).isInfix)

theorem skipBlanks_of_startsComment {cs : List Char} (h : startsComment cs = false) :
  skipLineComment (skipBlanks cs) = skipBlanks cs ∧
    skipBlockComment (skipBlanks cs) = skipBlanks cs
  := by
  unfold startsComment at h
  unfold skipLineComment skipBlockComment
  split at h <;> simp_all

theorem skipLineComment_of_startsLineComment {cs : List Char}
    (h : startsLineComment cs = false) :
  skipLineComment (skipBlanks cs) = skipBlanks cs
  := by
  unfold startsLineComment at h
  unfold skipLineComment
  split at h <;> simp_all

/-- After a line comment the trivia go on with the blanks and a block comment. -/
theorem skipTrivia_line_comment {t : List Char} (ht : '\n' ∉ t) (s : List Char) :
  skipTrivia ('/' :: '/' :: (t ++ ['\n']) ++ s) = skipBlockComment (skipBlanks s)
  := by
  have hb : skipBlanks ('/' :: '/' :: (t ++ ['\n']) ++ s) = '/' :: '/' :: (t ++ '\n' :: s) := by
    simp [skipBlanks, isBlank]
  rw [skipTrivia, hb, skipLineComment, afterLineComment_line_end ht, skipBlanks_line_end]

/-- After a block comment that does not open with `/*/` the trivia end with the blanks. -/
theorem skipTrivia_block_comment {t : List Char} (ht : ¬ ['*', '/'] <:+: t)
    (hslash : t.head? ≠ some '/') (s : List Char) :
  skipTrivia ('/' :: '*' :: (t ++ ['*', '/']) ++ s) = skipBlanks s
  := by
  have hb : skipBlanks ('/' :: '*' :: (t ++ ['*', '/']) ++ s) =
      '/' :: '*' :: (t ++ '*' :: '/' :: s) := by
    simp [skipBlanks, isBlank]
  have hopen : ¬ ['*', '/'] <:+: '*' :: t := by
    rintro ⟨pre, post, hpre⟩
    cases pre with
    | nil =>
      cases t with
      | nil => cases hpre
      | cons y t =>
        obtain ⟨rfl, -⟩ : '/' = y ∧ post = t := by simpa using hpre
        exact hslash rfl
    | cons z pre =>
      exact ht ⟨pre, post, (List.cons.inj hpre).2⟩
  rw [skipTrivia, hb, skipLineComment.eq_2 _ (by simp), skipBlockComment,
    ← List.cons_append, afterBlockComment_close hopen]

end Lexer

open Lexer in
/-- A comment before a text changes none of the text's tokens, but for the literal of an
`illegal` first token, which reports the character that stood first, when the text does not
start with a comment the lexer no longer passes: a line comment, or after a block comment any
comment. A block comment must not start with `/*/`, which the lexer reads as a whole comment. -/
theorem Token.lex_after_comment (c s : String) (hc : Comment c)
    (hopen : ¬ ['/', '*', '/'] <+: c.toList) (hs : startsLineComment s.toList = false)
    (hblock : ['/', '*'] <+: c.toList → startsComment s.toList = false) :
  (Token.lex (c ++ s)).map Token.blind = (Token.lex s).map Token.blind
  := by
  have htrivia : skipTrivia (c ++ s).toList = skipTrivia s.toList := by
    rw [String.toList_append]
    cases hc with
    | line t ht =>
      rw [show ("//" ++ t ++ "\n").toList = '/' :: '/' :: (t.toList ++ ['\n']) by simp,
        skipTrivia_line_comment ht, skipTrivia, skipLineComment_of_startsLineComment hs]
    | block t ht =>
      have hs' := skipBlanks_of_startsComment (hblock ⟨t.toList ++ ['*', '/'], by simp⟩)
      have hslash : t.toList.head? ≠ some '/' := by
        intro h
        obtain ⟨rest, hrest⟩ := List.head?_eq_some_iff.1 h
        exact hopen ⟨rest ++ ['*', '/'], by simp [hrest]⟩
      rw [show ("/*" ++ t ++ "*/").toList = '/' :: '*' :: (t.toList ++ ['*', '/']) by simp,
        skipTrivia_block_comment ht hslash, skipTrivia, hs'.1, hs'.2]
  rw [Token.lex, Token.lex, List.map_append, List.map_append,
    (Token.scan_alike htrivia).map_blind]

/-- A line comment before a block comment and a `let` statement. -/
theorem Token.note_before_let :
  Comment "// note\n" ∧ ¬ ['/', '*', '/'] <+: "// note\n".toList ∧
    Lexer.startsLineComment "/* more */ let x = 1;".toList = false ∧
    ¬ ['/', '*'] <+: "// note\n".toList ∧
    (Token.lex ("// note\n" ++ "/* more */ let x = 1;")).map Token.blind =
      (Token.lex "/* more */ let x = 1;").map Token.blind
  := by
  have hc : Comment "// note\n" := Comment.line " note" (by decide)
  have hline : ¬ ['/', '*'] <+: "// note\n".toList := by decide
  exact ⟨hc, by decide, by decide, hline,
    Token.lex_after_comment "// note\n" "/* more */ let x = 1;" hc (by decide) (by decide)
      fun h => absurd h hline⟩

/-- Two comments that do not vanish: a line comment before another one, which the lexer no
longer takes for a comment, and a block comment whose text starts with `/`, which the lexer
closes at once. -/
theorem Token.comments_that_show :
  Comment "//a\n" ∧
    (Token.lex ("//a\n" ++ "//b\n1")).map Token.blind ≠ (Token.lex "//b\n1").map Token.blind ∧
  Comment "/*/x*/" ∧
    (Token.lex ("/*/x*/" ++ "1")).map Token.blind ≠ (Token.lex "1").map Token.blind
  := ⟨Comment.line "a" (by decide), by decide +kernel, Comment.block "/x" (by decide),
    by decide +kernel⟩

end Monkey
