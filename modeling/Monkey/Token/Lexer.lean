import Monkey.Token

/-!
# The lexer

Reading Monkey source text as a sequence of tokens. Before each token the lexer passes over
trivia: blanks, then at most one line comment, then at most one block comment. A token is a
one- or two-character operator, a quoted string (no escapes; an unclosed quote runs to the
end), a word of ASCII letters and underscores (a keyword or an identifier; digits end a
word), or a numeral of digits and dots. A character that starts no token gives an `illegal`
token whose literal is the character that stood first before the trivia.

Main statements: what is left after a lexeme is a suffix of the input after the trivia
(`lexeme_suffix`), and trivia are a suffix of the input (`skipTrivia_suffix`); so every token
but the end shortens the input and `Token.scan` terminates.
-/

namespace Monkey

namespace Lexer

/-- The blanks are space, tab, line feed and carriage return. -/
def isBlank (c : Char) : Bool := c == ' ' || c == '\t' || c == '\n' || c == '\r'

/-- Word characters are the ASCII letters and the underscore. -/
def isWordChar (c : Char) : Bool :=
  ('a' ≤ c && c ≤ 'z') || ('A' ≤ c && c ≤ 'Z') || c == '_'

/-- The ASCII decimal digits. -/
def isDigit (c : Char) : Bool := '0' ≤ c && c ≤ '9'

/-- A numeral continues with digits and dots. -/
def isNumeral (c : Char) : Bool := isDigit c || c == '.'

/-- The input after its leading blanks. -/
def skipBlanks (cs : List Char) : List Char := cs.dropWhile isBlank

/-- The input after a block comment's body: just past the first `*/`, or nothing when the
comment is never closed. The scan starts on the `*` that opened the comment, so `/*/` is a
whole comment. -/
def afterBlockComment : List Char → List Char
  | [] => []
  | '*' :: '/' :: r => r
  | _ :: r => afterBlockComment r

/-- The input after a line comment: from its line end on. -/
def afterLineComment (cs : List Char) : List Char := cs.dropWhile (· != '\n')

/-- The input after a line comment that starts it, with the blanks after the comment. -/
def skipLineComment : List Char → List Char
  | '/' :: '/' :: r => skipBlanks (afterLineComment r)
  | cs => cs

/-- The input after a block comment that starts it, with the blanks after the comment. -/
def skipBlockComment : List Char → List Char
  | '/' :: '*' :: r => skipBlanks (afterBlockComment ('*' :: r))
  | cs => cs

/-- The trivia before a token: blanks, then one line comment with the blanks after it, then
one block comment with the blanks after it. A second comment of the same kind is not
skipped. -/
def skipTrivia (cs : List Char) : List Char :=
  skipBlockComment (skipLineComment (skipBlanks cs))

/-- The literal of an `illegal` token: the character that stood first before the trivia. -/
def illegalLiteral : List Char → String
  | [] => ""
  | c :: _ => c.toString

/-- The token that starts with `c`, followed by `r`, and the input after it. The literal
`illegal` is used when `c` starts no token. -/
def lexeme (illegal : String) : Char → List Char → Token × List Char
  | '=', '=' :: r => (⟨.eq, "=="⟩, r)
  | '!', '=' :: r => (⟨.notEq, "!="⟩, r)
  | '<', '=' :: r => (⟨.lte, "<="⟩, r)
  | '>', '=' :: r => (⟨.gte, ">="⟩, r)
  | '&', '&' :: r => (⟨.and, "&&"⟩, r)
  | '|', '|' :: r => (⟨.or, "||"⟩, r)
  | '=', r => (⟨.assign, "="⟩, r)
  | '!', r => (⟨.bang, "!"⟩, r)
  | '<', r => (⟨.lt, "<"⟩, r)
  | '>', r => (⟨.gt, ">"⟩, r)
  | '"', r =>
    (⟨.string, String.ofList (r.takeWhile (· != '"'))⟩, (r.dropWhile (· != '"')).drop 1)
  | c, r =>
    match TokenKind.ofSymbol? c with
    | some k => (⟨k, c.toString⟩, r)
    | none =>
      if isWordChar c then
        let w := String.ofList (c :: r.takeWhile isWordChar)
        (⟨TokenKind.ofWord w, w⟩, r.dropWhile isWordChar)
      else if isDigit c then
        (⟨.int, String.ofList (c :: r.takeWhile isNumeral)⟩, r.dropWhile isNumeral)
      else
        (⟨.illegal, illegal⟩, r)

theorem skipBlanks_suffix (cs : List Char) :
  skipBlanks cs <:+ cs
  := List.dropWhile_suffix _

theorem afterBlockComment_suffix (cs : List Char) :
  afterBlockComment cs <:+ cs
  := by
  fun_induction afterBlockComment cs with
  | case1 => exact List.suffix_refl _
  | case2 r => exact (List.suffix_cons '/' r).trans (List.suffix_cons '*' _)
  | case3 c r _ ih => exact ih.trans (List.suffix_cons c r)

theorem skipLineComment_suffix (cs : List Char) :
  skipLineComment cs <:+ cs
  := by
  unfold skipLineComment
  split
  · exact (skipBlanks_suffix _).trans ((List.dropWhile_suffix _).trans
      ((List.suffix_cons '/' _).trans (List.suffix_cons '/' _)))
  · exact List.suffix_refl _

theorem skipBlockComment_suffix (cs : List Char) :
  skipBlockComment cs <:+ cs
  := by
  unfold skipBlockComment
  split
  · exact (skipBlanks_suffix _).trans ((afterBlockComment_suffix _).trans
      (List.suffix_cons '/' _))
  · exact List.suffix_refl _

theorem skipTrivia_suffix (cs : List Char) :
  skipTrivia cs <:+ cs
  := (skipBlockComment_suffix _).trans ((skipLineComment_suffix _).trans (skipBlanks_suffix cs))

theorem lexeme_suffix (illegal : String) (c : Char) (r : List Char) :
  (lexeme illegal c r).2 <:+ r
  := by
  fun_cases lexeme illegal c r
  case case1 | case2 | case3 | case4 | case5 | case6 => exact List.suffix_cons _ _
  case case7 | case8 | case9 | case10 | case12 | case15 => exact List.suffix_refl r
  case case11 => exact (List.drop_suffix 1 _).trans (List.dropWhile_suffix _)
  case case13 | case14 => exact List.dropWhile_suffix _

end Lexer

namespace Token

open Lexer

/-- The next token of a text and the text after it; at the end, `Token.eof` and nothing. -/
def next (cs : List Char) : Token × List Char :=
  match skipTrivia cs with
  | [] => (Token.eof, [])
  | c :: r => lexeme (illegalLiteral cs) c r

/-- The tokens of a text, in order, up to (not including) its end. -/
def scan (cs : List Char) : List Token :=
  match _h : skipTrivia cs with
  | [] => []
  | c :: r => (lexeme (illegalLiteral cs) c r).1 :: scan (lexeme (illegalLiteral cs) c r).2
termination_by cs.length
decreasing_by
  have h1 := (skipTrivia_suffix cs).length_le
  have h2 := (lexeme_suffix (illegalLiteral cs) c r).length_le
  rw [_h] at h1
  simp only [List.length_cons] at h1
  omega

/-- The tokens of a source text with the end token after them. -/
def lex (src : String) : List Token := scan src.toList ++ [Token.eof]

end Token

end Monkey
