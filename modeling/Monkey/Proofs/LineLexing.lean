import Mathlib.Data.List.TakeWhile
import Monkey.Proofs.Lexing

/-!
# Lexing line by line

Lines lexed one by one give the tokens of the lines joined by line ends, when the lexer meets
no comment in any of them (`Lexer.plain`) and each ends on a `;` (`Token.scan_intercalate`).

A line end is a blank. Before it, the last lexeme of a line, a `;`, reaches no further, and no
lexeme before that one does either: a word or a numeral stops at a blank, an operator of two
characters does not take a blank as its second, and a string is closed within the line, since
a string left open would run to the end of the line and be its last token
(`Lexer.lexeme_append`). After the line end, the trivia before the next line's first token are
those of that line alone. Only an `illegal` first token would be read differently, its literal
being the character that stood first before the trivia; a line that parses does not start
with one.
-/

namespace Monkey

namespace TokenKind

theorem ofWord_ne_illegal (w : String) :
  ofWord w ≠ .illegal
  := by
  unfold ofWord
  split <;> simp

theorem ofSymbol?_ne_illegal (c : Char) :
  ofSymbol? c ≠ some .illegal
  := by
  unfold ofSymbol?
  split <;> simp

end TokenKind

namespace Lexer

/-- Whether the lexer meets no comment in a text: before each token, and at the end, the
trivia are blanks only. -/
def plain (cs : List Char) : Bool :=
  match _h : skipBlanks cs with
  | [] => true
  | c :: r => skipTrivia cs == c :: r && plain (lexeme (illegalLiteral cs) c r).2
termination_by cs.length
decreasing_by
  have h1 := (skipBlanks_suffix cs).length_le
  have h2 := (lexeme_suffix (illegalLiteral cs) c r).length_le
  rw [_h] at h1
  simp only [List.length_cons] at h1
  omega

/-! ## Reading up to a blank -/

/-- Reading characters while `p` holds stops at one where it fails. -/
theorem takeWhile_append_stop {p : Char → Bool} {b : Char} (hb : p b = false)
    (r s : List Char) :
  (r ++ b :: s).takeWhile p = r.takeWhile p ∧
    (r ++ b :: s).dropWhile p = r.dropWhile p ++ b :: s
  := by
  induction r with
  | nil => simp [hb]
  | cons x r ih =>
    cases hx : p x <;> simp [hx, ih]

/-- Reading characters while `p` holds stops within a text that has one where it fails. -/
theorem takeWhile_append_within {p : Char → Bool} {x : Char} {r : List Char} (hx : x ∈ r)
    (hpx : p x = false) (s : List Char) :
  (r ++ s).takeWhile p = r.takeWhile p ∧
    ((r ++ s).dropWhile p).drop 1 = (r.dropWhile p).drop 1 ++ s
  := by
  induction r with
  | nil => cases hx
  | cons y r ih =>
    cases hy : p y with
    | false => simp [hy]
    | true =>
      have hx' : x ∈ r := by
        rcases List.mem_cons.1 hx with rfl | h
        · rw [hpx] at hy
          cases hy
        · exact h
      simp [hy, ih hx']

theorem isNumeral_of_isBlank {b : Char} (hb : isBlank b = true) :
  isNumeral b = false
  := by
  simp only [isBlank, Bool.or_eq_true, beq_iff_eq] at hb
  rcases hb with ((rfl | rfl) | rfl) | rfl <;> rfl

/-- A lexeme followed by a blank is read the same when more text follows the blank, unless it
is a string the text does not close. -/
theorem lexeme_append (ill : String) (c : Char) (r : List Char) {b : Char}
    (hb : isBlank b = true) (s : List Char) (hstr : c = '"' → '"' ∈ r) :
  lexeme ill c (r ++ b :: s) = ((lexeme ill c r).1, (lexeme ill c r).2 ++ b :: s)
  := by
  have hbe : b ≠ '=' ∧ b ≠ '&' ∧ b ≠ '|' := by
    simp only [isBlank, Bool.or_eq_true, beq_iff_eq] at hb
    rcases hb with ((rfl | rfl) | rfl) | rfl <;> decide
  obtain ⟨hw1, hw2⟩ := takeWhile_append_stop (isWordChar_of_isBlank hb) r s
  obtain ⟨hn1, hn2⟩ := takeWhile_append_stop (isNumeral_of_isBlank hb) r s
  have hq : c = '"' → (r ++ b :: s).takeWhile (· != '"') = r.takeWhile (· != '"') ∧
      ((r ++ b :: s).dropWhile (· != '"')).drop 1 = (r.dropWhile (· != '"')).drop 1 ++ b :: s :=
    fun hc => takeWhile_append_within (hstr hc) (by simp) _
  cases r with
  | nil =>
    have hc : c ≠ '"' := fun hc => by simpa using hstr hc
    rw [List.nil_append] at hw1 hw2 hn1 hn2 ⊢
    have nil : ∀ {e : Char} {r' : List Char}, [] = e :: r' → False :=
      fun hr => List.cons_ne_nil _ _ hr.symm
    conv => lhs; rw [lexeme.eq_def]
    split
    case h_1 | h_2 | h_3 | h_4 | h_5 | h_6 =>
      rename_i heq
      cases heq
      simp at hbe
    case h_7 | h_8 | h_9 | h_10 => rfl
    case h_11 => exact absurd rfl hc
    case h_12 c _ _ h1 h2 h3 h4 h5 _ _ _ _ _ _ =>
      rw [lexeme.eq_12 ill c [] h1 h2 h3 h4 h5 (fun _ _ => nil) (fun _ _ => nil)
        (fun _ _ => nil) (fun _ _ => nil) (fun _ _ => nil) (fun _ _ => nil), hw1, hw2, hn1, hn2]
      split
      · rfl
      split
      · simp
      split <;> simp
  | cons d r =>
    have lift : ∀ {e : Char} {r' : List Char}, d :: r = e :: r' →
        d :: (r ++ b :: s) = e :: (r ++ b :: s) :=
      fun hr => by rw [(List.cons.inj hr).1]
    conv => lhs; rw [lexeme.eq_def]
    split
    case h_12 c _ _ h1 h2 h3 h4 h5 p1 p2 p3 p4 p5 p6 =>
      rw [lexeme.eq_12 ill c (d :: r) h1 h2 h3 h4 h5 (fun _ hc hr => p1 _ hc (lift hr))
        (fun _ hc hr => p2 _ hc (lift hr)) (fun _ hc hr => p3 _ hc (lift hr))
        (fun _ hc hr => p4 _ hc (lift hr)) (fun _ hc hr => p5 _ hc (lift hr))
        (fun _ hc hr => p6 _ hc (lift hr)), hw1, hw2, hn1, hn2]
      split
      · rfl
      split
      · simp
      split <;> simp
    all_goals simp_all [lexeme]

/-- The literal of an `illegal` token matters to no other token. -/
theorem lexeme_illegal (ill ill' : String) (c : Char) (r : List Char)
    (h : (lexeme ill c r).1.kind ≠ .illegal) :
  lexeme ill' c r = lexeme ill c r
  := by
  revert h
  unfold lexeme
  split
  case h_12 =>
    split
    · exact fun _ => rfl
    split
    · exact fun _ => rfl
    split
    · exact fun _ => rfl
    · exact fun h => absurd rfl h
  all_goals exact fun _ => rfl

/-- A lexeme that is `illegal` is the one character it starts with. -/
theorem lexeme_of_illegal {ill : String} {c : Char} {r : List Char}
    (h : (lexeme ill c r).1.kind = .illegal) :
  lexeme ill c r = (⟨.illegal, ill⟩, r)
  := by
  revert h
  fun_cases lexeme ill c r
  case case12 => exact fun h => absurd (h ▸ ‹_›) (TokenKind.ofSymbol?_ne_illegal c)
  case case13 => exact fun h => absurd h (TokenKind.ofWord_ne_illegal _)
  case case15 => exact fun _ => rfl
  all_goals simp

theorem illegalLiteral_append {l : List Char} (hl : l ≠ []) (s : List Char) :
  illegalLiteral (l ++ s) = illegalLiteral l
  := by
  cases l with
  | nil => exact absurd rfl hl
  | cons c l => rfl

/-! ## Trivia around a line end -/

/-- Blanks only, then more text: the blanks are passed. -/
theorem skipBlanks_append_of_nil {l : List Char} (hl : skipBlanks l = []) (s : List Char) :
  skipBlanks (l ++ s) = skipBlanks s
  := by
  unfold skipBlanks at hl ⊢
  rw [List.dropWhile_append, hl]
  rfl

theorem skipBlanks_append {l : List Char} (hl : skipBlanks l ≠ []) (s : List Char) :
  skipBlanks (l ++ s) = skipBlanks l ++ s
  := by
  unfold skipBlanks at hl ⊢
  rw [List.dropWhile_append, if_neg (by simpa using hl)]

theorem skipBlanks_line_end (r : List Char) :
  skipBlanks ('\n' :: r) = skipBlanks r
  := by
  simp [skipBlanks, isBlank]

/-- What the trivia of a text pass is no longer than the text after its first two characters,
when the text starts a comment. -/
theorem skipTrivia_short_of_comment {c d : Char} {r : List Char} (hc : c = '/')
    (hd : d = '/' ∨ d = '*') :
  (skipBlockComment (skipLineComment (c :: d :: r))).length < (c :: d :: r).length
  := by
  subst hc
  rcases hd with rfl | rfl
  · have e : skipLineComment ('/' :: '/' :: r) = skipBlanks (afterLineComment r) := rfl
    have h1 := (skipBlanks_suffix (afterLineComment r)).length_le
    have h2 : (afterLineComment r).length ≤ r.length := (List.dropWhile_suffix _).length_le
    have h3 := (skipBlockComment_suffix (skipBlanks (afterLineComment r))).length_le
    rw [e]
    simp only [List.length_cons]
    omega
  · have e1 : skipLineComment ('/' :: '*' :: r) = '/' :: '*' :: r := rfl
    have e2 : skipBlockComment ('/' :: '*' :: r) = skipBlanks (afterBlockComment ('*' :: r)) :=
      rfl
    have h1 := (skipBlanks_suffix (afterBlockComment ('*' :: r))).length_le
    have h2 := (afterBlockComment_suffix ('*' :: r)).length_le
    rw [e1, e2]
    simp only [List.length_cons] at h2 ⊢
    omega

/-- A token start where the trivia are blanks only starts no comment. -/
theorem no_comment {l : List Char} {c : Char} {r : List Char} (hb : skipBlanks l = c :: r)
    (ht : skipTrivia l = c :: r) :
  c = '/' → ∀ d ∈ r.head?, d ≠ '/' ∧ d ≠ '*'
  := by
  intro hc d hd
  cases r with
  | nil => cases hd
  | cons d' r =>
    simp only [List.head?_cons, Option.mem_def, Option.some.injEq] at hd
    subst hd
    rw [skipTrivia, hb] at ht
    have key : ¬(d' = '/' ∨ d' = '*') := fun hd => by
      have := @skipTrivia_short_of_comment c d' r hc hd
      rw [ht] at this
      exact Nat.lt_irrefl _ this
    exact ⟨fun h => key (Or.inl h), fun h => key (Or.inr h)⟩

theorem head_not_blank {l : List Char} {c : Char} {r : List Char} (hb : skipBlanks l = c :: r) :
  isBlank c = false
  := by
  have := List.head?_dropWhile_not isBlank l
  unfold skipBlanks at hb
  rw [hb] at this
  exact this

/-- At a token start where the trivia are blanks only, text after the line leaves the trivia
as they were. -/
theorem skipTrivia_append {l : List Char} {c : Char} {r : List Char}
    (hb : skipBlanks l = c :: r) (ht : skipTrivia l = c :: r) (s : List Char) :
  skipTrivia (l ++ '\n' :: s) = c :: (r ++ '\n' :: s)
  := by
  have hcat : skipBlanks (l ++ '\n' :: s) = c :: (r ++ '\n' :: s) := by
    rw [skipBlanks_append (by simp [hb]), hb, List.cons_append]
  have hcom := no_comment hb ht
  have hnb := head_not_blank hb
  have hself : skipTrivia (c :: (r ++ '\n' :: s)) = c :: (r ++ '\n' :: s) := by
    refine skipTrivia_cons hnb fun hc d hd => ?_
    cases r with
    | nil =>
      simp only [List.nil_append, List.head?_cons, Option.mem_def, Option.some.injEq] at hd
      subst hd
      decide
    | cons d' r =>
      simp only [List.cons_append, List.head?_cons, Option.mem_def, Option.some.injEq] at hd
      subst hd
      exact hcom hc d' rfl
  have hb' : skipBlanks (c :: (r ++ '\n' :: s)) = c :: (r ++ '\n' :: s) := by
    simp [skipBlanks, List.dropWhile_cons_of_neg, hnb]
  rw [skipTrivia, hb'] at hself
  rw [skipTrivia, hcat, hself]

/-- Blanks only, then a line end and more text: the trivia are those of the text. -/
theorem skipTrivia_blanks_line_end {l : List Char} (hl : skipBlanks l = []) (s : List Char) :
  skipTrivia (l ++ '\n' :: s) = skipTrivia s
  := by
  simp only [skipTrivia, skipBlanks_append_of_nil hl, skipBlanks_line_end]

end Lexer

namespace Token

open Lexer

/-- The token with the literal of an `illegal` token dropped. -/
def blind (t : Token) : Token := if t.kind = .illegal then ⟨.illegal, ""⟩ else t

theorem blind_of_ne {t : Token} (h : t.kind ≠ .illegal) :
  t.blind = t
  := if_neg h

theorem blind_kind (t : Token) :
  t.blind.kind = t.kind
  := by
  unfold blind
  split <;> simp_all

/-- Token lists that are the same but for the literal of an `illegal` first token. -/
def Alike (ts ts' : List Token) : Prop :=
  ts.tail = ts'.tail ∧ ts.head?.map blind = ts'.head?.map blind

theorem Alike.map_blind {ts ts' : List Token} (h : Alike ts ts') :
  ts.map blind = ts'.map blind
  := by
  obtain ⟨ht, hh⟩ := h
  cases ts with
  | nil => cases ts' with
    | nil => rfl
    | cons _ _ => cases hh
  | cons t r => cases ts' with
    | nil => cases hh
    | cons t' r' =>
      simp only [List.tail_cons] at ht
      simp only [List.head?_cons, Option.map_some, Option.some.injEq] at hh
      simp [ht, hh]

/-- Alike lists are equal when the second does not start with an `illegal` token. -/
theorem Alike.eq {ts ts' : List Token} (h : Alike ts ts')
    (hne : ∀ t ∈ ts'.head?, t.kind ≠ .illegal) :
  ts = ts'
  := by
  obtain ⟨ht, hh⟩ := h
  cases ts with
  | nil => cases ts' with
    | nil => rfl
    | cons _ _ => cases hh
  | cons t r => cases ts' with
    | nil => cases hh
    | cons t' r' =>
      simp only [List.tail_cons] at ht
      simp only [List.head?_cons, Option.map_some, Option.some.injEq] at hh
      have hk' : t'.kind ≠ .illegal := hne t' rfl
      rw [blind_of_ne hk'] at hh
      have hk : t.kind ≠ .illegal := by
        rw [← blind_kind, hh]
        exact hk'
      rw [blind_of_ne hk] at hh
      rw [hh, ht]

theorem scan_of_nil {cs : List Char} (h : skipTrivia cs = []) :
  scan cs = []
  := by
  rw [scan]
  split
  · rfl
  · rename_i heq
    rw [h] at heq
    cases heq

/-- Texts with the same trivia before their first token are read alike. -/
theorem scan_alike {cs cs' : List Char} (h : skipTrivia cs = skipTrivia cs') :
  Alike (scan cs) (scan cs')
  := by
  cases ht : skipTrivia cs' with
  | nil =>
    rw [scan_of_nil ht, scan_of_nil (h.trans ht)]
    exact ⟨rfl, rfl⟩
  | cons c r =>
    rw [scan_of_skipTrivia ht, scan_of_skipTrivia (h.trans ht)]
    by_cases hk : (lexeme (illegalLiteral cs') c r).1.kind = .illegal
    · have hk' : (lexeme (illegalLiteral cs) c r).1.kind = .illegal := by
        by_contra hne
        rw [lexeme_illegal (illegalLiteral cs) (illegalLiteral cs') c r hne] at hk
        exact hne hk
      rw [lexeme_of_illegal hk, lexeme_of_illegal hk']
      exact ⟨rfl, by simp [blind]⟩
    · rw [lexeme_illegal (illegalLiteral cs') (illegalLiteral cs) c r hk]
      exact ⟨rfl, rfl⟩

/-- A string left open is the last token. -/
theorem string_closed {cs : List Char} {r : List Char} (ht : skipTrivia cs = '"' :: r)
    (hend : ∀ t ∈ (scan cs).getLast?, t.kind = .semicolon) :
  '"' ∈ r
  := by
  apply Classical.byContradiction
  intro hq
  have hall : ∀ x ∈ r, (x != '"') = true := by
    intro x hx
    simp only [bne_iff_ne, ne_eq]
    rintro rfl
    exact hq hx
  have hrest : (lexeme (illegalLiteral cs) '"' r).2 = [] := by
    rw [lexeme.eq_11, List.dropWhile_eq_nil_iff.2 hall]
    rfl
  have hs := scan_of_skipTrivia ht
  rw [hrest, scan_of_nil (show skipTrivia [] = [] from rfl)] at hs
  have := hend _ (by rw [hs]; rfl)
  rw [lexeme.eq_11] at this
  cases this

/-- A line with no comment that ends on a `;`, then a line end and more text: the tokens of
the line, then those of the text, but for the literal of an `illegal` first token of the text,
which reports the character after the line's last token. -/
theorem scan_append_line_alike (l : List Char) (s : List Char) (hl : plain l = true)
    (hend : ∀ t ∈ (scan l).getLast?, t.kind = .semicolon) :
  ∃ ts, scan (l ++ '\n' :: s) = scan l ++ ts ∧ Alike ts (scan s)
  := by
  rw [plain] at hl
  split at hl
  · rename_i hbl
    have hnil : skipTrivia l = [] := by
      simp [skipTrivia, hbl, skipLineComment, skipBlockComment]
    rw [scan_of_nil hnil]
    exact ⟨_, rfl, scan_alike (skipTrivia_blanks_line_end hbl s)⟩
  · rename_i c r hbl
    obtain ⟨hbeq, hrest⟩ := Bool.and_eq_true_iff.1 hl
    have htr : skipTrivia l = c :: r := beq_iff_eq.1 hbeq
    have hl0 : l ≠ [] := by
      rintro rfl
      cases hbl
    have hstr : c = '"' → '"' ∈ r := by
      rintro rfl
      exact string_closed htr hend
    have hlex := lexeme_append (illegalLiteral l) c r (show isBlank '\n' = true from rfl) s hstr
    have hlen : (lexeme (illegalLiteral l) c r).2.length < l.length := by
      have h1 := (skipBlanks_suffix l).length_le
      have h2 := (lexeme_suffix (illegalLiteral l) c r).length_le
      rw [hbl] at h1
      simp only [List.length_cons] at h1
      omega
    obtain ⟨ts, hts, hal⟩ := scan_append_line_alike _ s hrest (fun t ht => hend t (by
      rw [Option.mem_def] at ht
      rw [scan_of_skipTrivia htr, List.getLast?_cons, ht]
      rfl))
    refine ⟨ts, ?_, hal⟩
    rw [scan_of_skipTrivia (skipTrivia_append hbl htr s), illegalLiteral_append hl0, hlex,
      scan_of_skipTrivia htr, List.cons_append, hts]
termination_by l.length

/-- A line with no comment that ends on a `;`, then a line end and more text: the tokens of
the line, then those of the text, when the text does not start with an `illegal` token. -/
theorem scan_append_line (l : List Char) {s : List Char} (hl : plain l = true)
    (hend : ∀ t ∈ (scan l).getLast?, t.kind = .semicolon)
    (hs : ∀ t ∈ (scan s).head?, t.kind ≠ .illegal) :
  scan (l ++ '\n' :: s) = scan l ++ scan s
  := by
  obtain ⟨ts, hts, hal⟩ := scan_append_line_alike l s hl hend
  rw [hts, hal.eq hs]

/-- The first token of lines lexed one by one is the first token of some line. -/
theorem head_flatten_scan (ls : List (List Char))
    (hfirst : ∀ l ∈ ls, ∀ t ∈ (scan l).head?, t.kind ≠ .illegal) :
  ∀ t ∈ (ls.map scan).flatten.head?, t.kind ≠ .illegal
  := by
  induction ls with
  | nil => simp
  | cons l ls ih =>
    intro t ht
    rw [List.map_cons, List.flatten_cons, List.head?_append] at ht
    cases hl : (scan l).head? with
    | some t' =>
      rw [hl, Option.some_or, ← hl] at ht
      exact hfirst l List.mem_cons_self t ht
    | none =>
      rw [hl, Option.none_or] at ht
      exact ih (fun l' h' => hfirst l' (List.mem_cons_of_mem _ h')) t ht

/-- Lines with no comment, each ending on a `;` and none starting with an `illegal` token,
lexed as one text joined by line ends: the tokens of each line in turn. -/
theorem scan_intercalate (ls : List (List Char)) (hplain : ∀ l ∈ ls, plain l = true)
    (hend : ∀ l ∈ ls, ∀ t ∈ (scan l).getLast?, t.kind = .semicolon)
    (hfirst : ∀ l ∈ ls, ∀ t ∈ (scan l).head?, t.kind ≠ .illegal) :
  scan (['\n'].intercalate ls) = (ls.map scan).flatten
  := by
  induction ls with
  | nil => exact scan_of_nil (show skipTrivia [] = [] from rfl)
  | cons l ls ih =>
    have ih' := ih (fun l' h' => hplain l' (List.mem_cons_of_mem _ h'))
      (fun l' h' => hend l' (List.mem_cons_of_mem _ h'))
      (fun l' h' => hfirst l' (List.mem_cons_of_mem _ h'))
    cases ls with
    | nil => simp
    | cons l' ls =>
      rw [List.intercalate_cons_cons, List.append_assoc, List.singleton_append,
        scan_append_line l (hplain l List.mem_cons_self) (hend l List.mem_cons_self), ih']
      · simp
      rw [ih']
      exact head_flatten_scan _ fun l'' h'' => hfirst l'' (List.mem_cons_of_mem _ h'')

end Token

end Monkey
