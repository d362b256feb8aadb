import Monkey.Token.Lexer

/-!
# Reading back spelled tokens

A token is *canonical* when the lexer reads its literal back as that very token: a name or a
keyword is a word of ASCII letters and underscores, of the kind the keyword table gives the
word; a number is a digit followed by digits and points; a string is any text without a quote;
and every other token is the symbol its kind is named by. A token is spelled as its literal, a
string between quotes.

The lexer reads a spelled canonical token back whatever text follows it, as long as the first
character of that text cannot be read with the token (`Token.gluesTo`): blanks before the token
are passed over, and the text after it is left as it was (`Token.scan_blanks_spelling`). So a
sequence of canonical tokens written with a space between neighbours is read back exactly, and
then the end token (`Token.lex_spelled`).
-/

namespace Monkey

namespace TokenKind

/-- The kinds written as a fixed symbol: the operators and the punctuation. `&&` and `||` are
among them, though they may also be written as the words `and` and `or`. -/
def isSymbol : TokenKind → Bool
  | assign | plus | minus | bang | asterisk | slash | modulus | lt | gt | lte | gte | eq | notEq
  | and | or | comma | semicolon | colon | dot | lparen | rparen | lbrace | rbrace | lbracket
  | rbracket => true
  | _ => false

end TokenKind

namespace Token

/-- The tokens the lexer reads back from their own spelling. -/
inductive Canonical : Token → Prop
  /-- a name or a keyword: a word of ASCII letters and underscores, of the word's own kind -/
  | word {w : String} : w ≠ "" → (∀ c ∈ w.toList, c.isAlpha ∨ c = '_') →
      Canonical ⟨TokenKind.ofWord w, w⟩
  /-- a number: a digit followed by digits and points -/
  | number {d : Char} {ds : List Char} : d.isDigit → (∀ c ∈ ds, c.isDigit ∨ c = '.') →
      Canonical ⟨.int, String.ofList (d :: ds)⟩
  /-- a string: any text without a quote -/
  | string {s : String} : '"' ∉ s.toList → Canonical ⟨.string, s⟩
  /-- an operator or a punctuation mark: the symbol its kind is named by -/
  | symbol {k : TokenKind} : k.isSymbol → Canonical ⟨k, k.name⟩

/-- How a token is written: a string between quotes, any other token as its literal. -/
def spelling (t : Token) : String :=
  if t.kind = .string then "\"" ++ t.literal ++ "\"" else t.literal

/-- Whether a character written right after a token would be read together with it: a word
goes on with word characters and a number with digits and points, `=`, `!`, `<` and `>` take
a following `=`, and `/` followed by `/` or `*` opens a comment. Nothing goes on after a
string or after any other symbol. -/
def gluesTo (t : Token) (c : Char) : Bool :=
  if t.kind = .string then false
  else if t.kind = .int then Lexer.isNumeral c
  else if t.literal = "/" then c == '/' || c == '*'
  else if t.literal ∈ ["=", "!", "<", ">"] then c == '='
  else t.literal.toList.all Lexer.isWordChar && Lexer.isWordChar c

end Token

namespace Lexer

theorem isWordChar_iff (c : Char) :
  isWordChar c = true ↔ c.isAlpha ∨ c = '_'
  := by
  have hα : c.isAlpha = (decide (c.val ≥ 'A'.val ∧ c.val ≤ 'Z'.val) ||
      (decide (c.val ≥ 'a'.val) && decide (c.val ≤ 'z'.val))) := rfl
  rw [hα]
  simp only [isWordChar, Bool.or_eq_true, Bool.and_eq_true, decide_eq_true_eq, beq_iff_eq,
    Char.le_def, ge_iff_le, UInt32.le_iff_toNat_le, Char.ext_iff, ← UInt32.toNat_inj]
  have : '_'.val.toNat = 95 := rfl
  have : 'a'.val.toNat = 97 := rfl
  have : 'z'.val.toNat = 122 := rfl
  have : 'A'.val.toNat = 65 := rfl
  have : 'Z'.val.toNat = 90 := rfl
  omega

theorem isDigit_iff (c : Char) :
  isDigit c = true ↔ c.isDigit
  := by
  simp only [isDigit, Char.isDigit, Bool.and_eq_true, decide_eq_true_eq, Char.le_def, ge_iff_le,
    UInt32.le_iff_toNat_le]

/-- Digits end a word: they are no word characters. -/
theorem isWordChar_of_isDigit {c : Char} (h : isDigit c = true) :
  isWordChar c = false
  := by
  simp only [isDigit, Bool.and_eq_true, decide_eq_true_eq, Char.le_def] at h
  simp only [isWordChar, Bool.or_eq_false_iff, Bool.and_eq_false_iff, decide_eq_false_iff_not,
    Char.le_def, beq_eq_false_iff_ne, ne_eq, Char.ext_iff]
  simp only [UInt32.le_iff_toNat_le, ← UInt32.toNat_inj] at *
  have : '_'.val.toNat = 95 := rfl
  have : 'a'.val.toNat = 97 := rfl
  have : 'z'.val.toNat = 122 := rfl
  have : 'A'.val.toNat = 65 := rfl
  have : 'Z'.val.toNat = 90 := rfl
  have : '0'.val.toNat = 48 := rfl
  have : '9'.val.toNat = 57 := rfl
  omega

/-- Nothing a text starts with is read as part of a word, number or symbol before it when the
text is empty or starts with a character the class refuses. -/
theorem takeWhile_dropWhile_of_head {p : Char → Bool} {rest : List Char}
    (h : ∀ c ∈ rest.head?, p c = false) :
  rest.takeWhile p = [] ∧ rest.dropWhile p = rest
  := by
  cases rest with
  | nil => simp
  | cons c r =>
    have hc : p c = false := h c rfl
    simp [List.takeWhile_cons_of_neg, List.dropWhile_cons_of_neg, hc]

theorem skipTrivia_blanks_append {bs : List Char} (hbs : ∀ b ∈ bs, isBlank b = true)
    (cs : List Char) :
  skipTrivia (bs ++ cs) = skipTrivia cs
  := by
  have h : skipBlanks (bs ++ cs) = skipBlanks cs := by
    simp only [skipBlanks]
    rw [List.dropWhile_append_of_pos hbs]
  simp only [skipTrivia, h]

/-- A text that starts with neither a blank nor a comment is its own text after the trivia. -/
theorem skipTrivia_cons {c : Char} {r : List Char} (hc : isBlank c = false)
    (hcom : c = '/' → ∀ d ∈ r.head?, d ≠ '/' ∧ d ≠ '*') :
  skipTrivia (c :: r) = c :: r
  := by
  have hb : skipBlanks (c :: r) = c :: r := by
    simp [skipBlanks, List.dropWhile_cons_of_neg, hc]
  have hl : skipLineComment (c :: r) = c :: r := by
    unfold skipLineComment
    split
    · rename_i r' heq
      simp only [List.cons.injEq] at heq
      obtain ⟨rfl, rfl⟩ := heq
      exact absurd rfl (hcom rfl '/' rfl).1
    · rfl
  have hk : skipBlockComment (c :: r) = c :: r := by
    unfold skipBlockComment
    split
    · rename_i r' heq
      simp only [List.cons.injEq] at heq
      obtain ⟨rfl, rfl⟩ := heq
      exact absurd rfl (hcom rfl '*' rfl).2
    · rfl
  simp only [skipTrivia, hb, hl, hk]

theorem isWordChar_of_isBlank {c : Char} (h : isBlank c = true) :
  isWordChar c = false
  := by
  simp only [isBlank, Bool.or_eq_true, beq_iff_eq] at h
  rcases h with ((rfl | rfl) | rfl) | rfl <;> rfl

theorem isDigit_of_isBlank {c : Char} (h : isBlank c = true) :
  isDigit c = false
  := by
  simp only [isBlank, Bool.or_eq_true, beq_iff_eq] at h
  rcases h with ((rfl | rfl) | rfl) | rfl <;> rfl

theorem ofSymbol?_of_isWordChar {c : Char} (h : isWordChar c = true) :
  TokenKind.ofSymbol? c = none
  := by
  unfold TokenKind.ofSymbol?
  split <;> simp_all [isWordChar]

theorem ofSymbol?_of_isDigit {c : Char} (h : isDigit c = true) :
  TokenKind.ofSymbol? c = none
  := by
  unfold TokenKind.ofSymbol?
  split <;> simp_all [isDigit]

/-- A word is read whole, as the token of the word's kind, when what follows is no word
character. -/
theorem lexeme_word {c : Char} {cs rest : List Char} (hc : isWordChar c = true)
    (hcs : ∀ d ∈ cs, isWordChar d = true) (hr : ∀ d ∈ rest.head?, isWordChar d = false)
    (ill : String) :
  lexeme ill c (cs ++ rest)
    = (⟨TokenKind.ofWord (String.ofList (c :: cs)), String.ofList (c :: cs)⟩, rest)
  := by
  obtain ⟨htake, hdrop⟩ := takeWhile_dropWhile_of_head hr
  have hsym := ofSymbol?_of_isWordChar hc
  have hw : (cs ++ rest).takeWhile isWordChar = cs := by
    rw [List.takeWhile_append_of_pos hcs, htake, List.append_nil]
  have hd : (cs ++ rest).dropWhile isWordChar = rest := by
    rw [List.dropWhile_append_of_pos hcs, hdrop]
  unfold lexeme
  split <;> simp_all [isWordChar]

/-- A numeral is read whole, as a number token, when what follows is no digit or point. -/
theorem lexeme_number {d : Char} {ds rest : List Char} (hd : isDigit d = true)
    (hds : ∀ c ∈ ds, isNumeral c = true) (hr : ∀ c ∈ rest.head?, isNumeral c = false)
    (ill : String) :
  lexeme ill d (ds ++ rest) = (⟨.int, String.ofList (d :: ds)⟩, rest)
  := by
  obtain ⟨htake, hdrop⟩ := takeWhile_dropWhile_of_head hr
  have hsym := ofSymbol?_of_isDigit hd
  have hword := isWordChar_of_isDigit hd
  have hn : (ds ++ rest).takeWhile isNumeral = ds := by
    rw [List.takeWhile_append_of_pos hds, htake, List.append_nil]
  have hn' : (ds ++ rest).dropWhile isNumeral = rest := by
    rw [List.dropWhile_append_of_pos hds, hdrop]
  unfold lexeme
  split <;> simp_all [isDigit]

/-- A string is read up to its closing quote, which is passed. -/
theorem lexeme_string {s : List Char} (hs : '"' ∉ s) (rest : List Char) (ill : String) :
  lexeme ill '"' (s ++ '"' :: rest) = (⟨.string, String.ofList s⟩, rest)
  := by
  have hne : ∀ c ∈ s, (c != '"') = true := by
    intro c hc
    simp only [bne_iff_ne, ne_eq]
    rintro rfl
    exact hs hc
  have htake : (s ++ '"' :: rest).takeWhile (· != '"') = s := by
    rw [List.takeWhile_append_of_pos hne]
    simp
  have hdrop : (s ++ '"' :: rest).dropWhile (· != '"') = '"' :: rest := by
    rw [List.dropWhile_append_of_pos hne]
    simp
  simp [lexeme, htake, hdrop]

/-- A symbol is read as the token of its kind when what follows does not extend it. -/
theorem lexeme_symbol {k : TokenKind} (hk : k.isSymbol = true) {rest : List Char}
    (hr : ∀ c ∈ rest.head?, Token.gluesTo ⟨k, k.name⟩ c = false) {c : Char} {cs : List Char}
    (hs : k.name.toList = c :: cs) (ill : String) :
  lexeme ill c (cs ++ rest) = (⟨k, k.name⟩, rest)
  := by
  cases k <;> simp [TokenKind.isSymbol] at hk <;> simp [TokenKind.name] at hs <;>
    obtain ⟨rfl, rfl⟩ := hs
  all_goals
    cases rest <;>
      simp_all [lexeme, Token.gluesTo, TokenKind.ofSymbol?, TokenKind.name]

end Lexer

namespace Token

open Lexer

theorem scan_of_skipTrivia {cs : List Char} {c : Char} {r : List Char}
    (h : skipTrivia cs = c :: r) :
  scan cs = (lexeme (illegalLiteral cs) c r).1 :: scan (lexeme (illegalLiteral cs) c r).2
  := by
  rw [scan]
  split
  · rename_i heq
    rw [h] at heq
    cases heq
  · rename_i c' r' heq
    rw [h] at heq
    cases heq
    rfl

theorem scan_blanks {bs : List Char} (hbs : ∀ b ∈ bs, isBlank b = true) :
  scan bs = []
  := by
  have h : skipTrivia bs = [] := by
    have := skipTrivia_blanks_append hbs []
    rw [List.append_nil] at this
    rw [this]
    rfl
  rw [scan]
  split
  · rfl
  · rename_i heq
    rw [h] at heq
    cases heq

namespace Canonical

variable {t : Token}

theorem ofWord_ne_string (w : String) :
  TokenKind.ofWord w ≠ .string
  := by
  unfold TokenKind.ofWord
  split <;> simp

theorem ofWord_ne_int (w : String) :
  TokenKind.ofWord w ≠ .int
  := by
  unfold TokenKind.ofWord
  split <;> simp

/-- A spelled token starts with a character that is no blank, and only the slash starts with
`/`, with nothing after it. -/
theorem spelling_cons (ht : t.Canonical) :
  ∃ c cs, t.spelling.toList = c :: cs ∧ isBlank c = false ∧
    (c = '/' → t = ⟨.slash, "/"⟩ ∧ cs = [])
  := by
  cases ht with
  | @word w hw hcs =>
    obtain ⟨c, cs, hs⟩ : ∃ c cs, w.toList = c :: cs := by
      cases h : w.toList with
      | nil => exact absurd (String.toList_eq_nil_iff.mp h) hw
      | cons c cs => exact ⟨c, cs, rfl⟩
    have hc : c.isAlpha ∨ c = '_' := hcs c (by simp [hs])
    rw [← isWordChar_iff] at hc
    refine ⟨c, cs, by simp [spelling, ofWord_ne_string, hs], ?_, ?_⟩
    · rw [Bool.eq_false_iff]
      intro hb
      rw [isWordChar_of_isBlank hb] at hc
      cases hc
    · rintro rfl
      simp [isWordChar] at hc
  | @number d ds hd hds =>
    rw [← isDigit_iff] at hd
    refine ⟨d, ds, by simp [spelling], ?_, ?_⟩
    · rw [Bool.eq_false_iff]
      intro hb
      rw [isDigit_of_isBlank hb] at hd
      cases hd
    · rintro rfl
      simp [isDigit] at hd
  | @string s hs =>
    exact ⟨'"', s.toList ++ ['"'], by simp [spelling], rfl, by simp⟩
  | @symbol k hk =>
    cases k <;> simp [TokenKind.isSymbol] at hk <;> exact ⟨_, _, rfl, rfl, by decide⟩

end Canonical

/-- A word token goes on with exactly the word characters. -/
theorem gluesTo_word {k : TokenKind} {w : String} (hk : k ≠ .string ∧ k ≠ .int)
    (hw : ∀ c ∈ w.toList, isWordChar c = true) (d : Char) :
  gluesTo ⟨k, w⟩ d = isWordChar d
  := by
  have hall : w.toList.all isWordChar = true := List.all_eq_true.mpr hw
  have h1 : w ≠ "/" := by
    rintro rfl
    simp [isWordChar] at hw
  have h2 : w ∉ ["=", "!", "<", ">"] := by
    simp only [List.mem_cons, List.not_mem_nil, or_false]
    rintro (rfl | rfl | rfl | rfl) <;> simp [isWordChar] at hw
  simp [gluesTo, hk.1, hk.2, h1, h2, hall]

/-- A space goes on with no token. -/
theorem gluesTo_space (t : Token) :
  t.gluesTo ' ' = false
  := by
  simp [gluesTo, isNumeral, isDigit, isWordChar]

namespace Canonical

variable {t : Token}

/-- A spelled token is read back as itself, and the text after it is left as it was. -/
theorem lexeme_spelling (ht : t.Canonical) {c : Char} {cs : List Char}
    (hs : t.spelling.toList = c :: cs) {rest : List Char}
    (hr : ∀ d ∈ rest.head?, t.gluesTo d = false) (ill : String) :
  lexeme ill c (cs ++ rest) = (t, rest)
  := by
  cases ht with
  | @word w hw hws =>
    have hs' : w.toList = c :: cs := by simpa [spelling, ofWord_ne_string] using hs
    have hwc : ∀ d ∈ w.toList, isWordChar d = true :=
      fun d hd => (isWordChar_iff d).mpr (hws d hd)
    have hrw : ∀ d ∈ rest.head?, isWordChar d = false := by
      intro d hd
      rw [← gluesTo_word ⟨ofWord_ne_string w, ofWord_ne_int w⟩ hwc d]
      exact hr d hd
    rw [hs'] at hwc
    rw [lexeme_word (hwc c (by simp)) (fun d hd => hwc d (by simp [hd])) hrw ill, ← hs',
      String.ofList_toList]
  | @number d ds hd hds =>
    have hs' : d :: ds = c :: cs := by simpa [spelling] using hs
    obtain ⟨rfl, rfl⟩ := List.cons.inj hs'
    have hnum : ∀ x ∈ ds, isNumeral x = true := by
      intro x hx
      rcases hds x hx with h | h
      · simp [isNumeral, (isDigit_iff x).mpr h]
      · simp [isNumeral, h]
    have hrn : ∀ x ∈ rest.head?, isNumeral x = false := by
      intro x hx
      simpa [gluesTo] using hr x hx
    exact lexeme_number ((isDigit_iff _).mpr hd) hnum hrn ill
  | @string s hq =>
    have hs' : '"' :: (s.toList ++ ['"']) = c :: cs := by simpa [spelling] using hs
    obtain ⟨rfl, rfl⟩ := List.cons.inj hs'
    rw [List.append_assoc, List.singleton_append, lexeme_string hq rest ill,
      String.ofList_toList]
  | @symbol k hk =>
    have hks : k ≠ .string := by
      rintro rfl
      simp [TokenKind.isSymbol] at hk
    have hs' : k.name.toList = c :: cs := by simpa [spelling, hks] using hs
    exact lexeme_symbol hk hr hs' ill

end Canonical

/-- A spelled canonical token, after blanks, is read back as itself, and the text after it is
read on as if it stood alone. -/
theorem scan_blanks_spelling {t : Token} (ht : t.Canonical) {bs : List Char}
    (hbs : ∀ b ∈ bs, isBlank b = true) {rest : List Char}
    (hr : ∀ d ∈ rest.head?, t.gluesTo d = false) :
  scan (bs ++ t.spelling.toList ++ rest) = t :: scan rest
  := by
  obtain ⟨c, cs, hs, hc, hslash⟩ := ht.spelling_cons
  have hskip : skipTrivia (bs ++ t.spelling.toList ++ rest) = c :: (cs ++ rest) := by
    rw [List.append_assoc, skipTrivia_blanks_append hbs, hs, List.cons_append]
    apply skipTrivia_cons hc
    intro hc'
    obtain ⟨rfl, rfl⟩ := hslash hc'
    intro d hd
    simpa [gluesTo] using hr d hd
  rw [scan_of_skipTrivia hskip, ht.lexeme_spelling hs hr]

/-- Canonical tokens spelled with a space between neighbours, after blanks, are read back in
order. -/
theorem scan_spelled {bs : List Char} (hbs : ∀ b ∈ bs, isBlank b = true) (ts : List Token)
    (hts : ∀ t ∈ ts, t.Canonical) :
  scan (bs ++ [' '].intercalate (ts.map (·.spelling.toList))) = ts
  := by
  induction ts generalizing bs with
  | nil => simpa using scan_blanks hbs
  | cons t ts ih =>
    have ht : t.Canonical := hts t (by simp)
    cases ts with
    | nil =>
      have h := @scan_blanks_spelling t ht bs hbs [] (by simp)
      simpa [scan_blanks] using h
    | cons t' ts' =>
      have hsp : ∀ b ∈ [' '], isBlank b = true := by simp [isBlank]
      have hsplit : ∀ (sp rest : List Char),
          bs ++ [' '].intercalate (sp :: rest :: ((ts'.map (·.spelling.toList))))
            = bs ++ sp ++ ([' '] ++ [' '].intercalate (rest :: ts'.map (·.spelling.toList))) := by
        intro sp rest
        simp
      rw [List.map_cons, List.map_cons, hsplit,
        scan_blanks_spelling ht hbs (by simp [gluesTo_space])]
      have h := ih hsp (fun u hu => hts u (List.mem_cons_of_mem t hu))
      rw [List.map_cons] at h
      rw [h]

/-- Canonical tokens written with a space between neighbours are scanned back. -/
theorem scan_intercalate_spelling (ts : List Token) (hts : ∀ t ∈ ts, t.Canonical) :
  scan (" ".intercalate (ts.map spelling)).toList = ts
  := by
  have h := @scan_spelled [] (by simp) ts hts
  simp only [List.nil_append] at h
  simp only [String.toList_intercalate, List.map_map]
  rw [show (String.toList ∘ spelling) = (·.spelling.toList) from rfl]
  simpa using h

/-- Canonical tokens written with a space between neighbours are read back exactly, and then
the end token. -/
theorem lex_spelled (ts : List Token) (hts : ∀ t ∈ ts, t.Canonical) :
  lex (" ".intercalate (ts.map spelling)) = ts ++ [Token.eof]
  := by
  simp only [lex, scan_intercalate_spelling ts hts]

/-- A line holding a keyword, a name with an underscore, a string with a blank in it, `and`
written as a word, a number with a point, and a slash before a blank. -/
theorem lex_spelled_line :
  (∀ t ∈ [⟨.letKw, "let"⟩, ⟨.ident, "x_y"⟩, ⟨.assign, "="⟩, ⟨.string, "a b"⟩,
      ⟨.and, "and"⟩, ⟨.int, "1.5"⟩, ⟨.slash, "/"⟩, ⟨.lte, "<="⟩], Canonical t) ∧
    lex (" ".intercalate ([⟨.letKw, "let"⟩, ⟨.ident, "x_y"⟩, ⟨.assign, "="⟩,
        ⟨.string, "a b"⟩, ⟨.and, "and"⟩, ⟨.int, "1.5"⟩, ⟨.slash, "/"⟩,
        ⟨.lte, "<="⟩].map spelling))
      = [⟨.letKw, "let"⟩, ⟨.ident, "x_y"⟩, ⟨.assign, "="⟩, ⟨.string, "a b"⟩,
        ⟨.and, "and"⟩, ⟨.int, "1.5"⟩, ⟨.slash, "/"⟩, ⟨.lte, "<="⟩, Token.eof]
  := by
  have h : ∀ t ∈ ([⟨.letKw, "let"⟩, ⟨.ident, "x_y"⟩, ⟨.assign, "="⟩, ⟨.string, "a b"⟩,
      ⟨.and, "and"⟩, ⟨.int, "1.5"⟩, ⟨.slash, "/"⟩, ⟨.lte, "<="⟩] : List Token),
      Canonical t := by
    simp only [List.mem_cons, List.not_mem_nil, or_false]
    rintro t (rfl | rfl | rfl | rfl | rfl | rfl | rfl | rfl)
    · exact Canonical.word (w := "let") (by simp) (by simp)
    · exact Canonical.word (w := "x_y") (by simp) (by simp)
    · exact Canonical.symbol (k := .assign) (by decide)
    · exact Canonical.string (by decide)
    · exact Canonical.word (w := "and") (by simp) (by simp)
    · exact @Canonical.number '1' ['.', '5'] (by decide) (by simp)
    · exact Canonical.symbol (k := .slash) (by decide)
    · exact Canonical.symbol (k := .lte) (by decide)
  exact ⟨h, lex_spelled _ h⟩

end Token

end Monkey
