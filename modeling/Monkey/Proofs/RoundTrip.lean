import Monkey.Proofs.PrintedText

/-!
# Printing and parsing back

The text the printer writes for a printable program is parsed back as the same program, with
no error (`Program.parse_render`).

The two halves of the proof meet at the tokens of the fragment (`Expr.Written` and the
relations beside it): the lexer reads the printed text as those tokens
(`Program.scan_render`), and the parser reads those tokens as the tree. For the second half
each relation has a reading fact, stated for its tokens followed by any others, since the
parser reads on from there. After an expression the parser stands on the expression's last
token, so the facts leave it on the token before what follows:

- an expression parsed at a strength below a call's is read as the first part of an expression,
  whatever follows it but `else`, which would go on with a conditional (`ParsesExpr`); before a
  closing bracket or a separator nothing more is read (`ParsesExpr.stop`);
- the tokens between parentheses are read as the grouped expression (`ParsesGroup`), a list
  after its bracket as the arguments (`ParsesArgs`, `ParsesMore`), the pairs of a hash literal
  as its pairs (`ParsesPairs`), a statement up to its `;` (`ParsesStmt`) and a sequence of
  statements up to a `}` (`ParsesSeq`).

Each construct has its own lemma from the facts of its parts, and one mutual induction over the
fragment puts them together.
-/

namespace Monkey

namespace TokenKind

/-- The kinds that end an expression of the fragment: closing brackets and separators. -/
def closes : TokenKind → Bool
  | .rparen | .rbracket | .rbrace | .comma | .colon | .semicolon => true
  | _ => false

theorem strength_of_closes {k : TokenKind} (h : k.closes = true) :
  k.strength = 0
  := by
  cases k <;> simp_all [closes, strength]

theorem ne_else_of_closes {k : TokenKind} (h : k.closes = true) :
  k ≠ .elseKw
  := by
  rintro rfl
  simp [closes] at h

theorem ne_else_of_isBinary {k : TokenKind} (h : k.isBinary = true) :
  k ≠ .elseKw
  := by
  rintro rfl
  simp [isBinary] at h

end TokenKind

namespace Parser

open Token

theorem closes_cons {d : Token} (hd : d.kind.closes = true) {rest : List Token} :
  ∀ t ∈ (d :: rest).head?, t.kind.closes = true
  := by
  rintro t ⟨⟩
  exact hd

theorem ne_else_cons {d : Token} (hd : d.kind ≠ .elseKw) {rest : List Token} :
  ∀ t ∈ (d :: rest).head?, t.kind ≠ .elseKw
  := by
  rintro t ⟨⟩
  exact hd

/-- The peek token is no `else` when the tokens after the current one do not start with one. -/
theorem peek_ne_else {t : Token} {rest : List Token} (h : ∀ d ∈ rest.head?, d.kind ≠ .elseKw)
    (errs : Array String) :
  (Parser.peek ⟨t :: rest, errs⟩).kind ≠ .elseKw
  := by
  cases rest with
  | nil => simp [peek, Token.eof]
  | cons d rest => exact h d rfl

/-- The operators are not read on before a closing bracket, a separator or the end. -/
theorem continues_of_closes {x : Token} {rest : List Token}
    (hd : ∀ d ∈ rest.head?, d.kind.closes = true) (errs : Array String) (prec : Nat) :
  Parser.continues ⟨x :: rest, errs⟩ prec = false
  := by
  cases rest with
  | nil => simp [continues, peek, Token.eof, TokenKind.strength]
  | cons d rest => exact continues_of_strength_zero (TokenKind.strength_of_closes (hd d rfl))

/-! ### What the parser reads from the tokens of each relation -/

/-- The tokens `ts`, followed by any tokens but `else` and parsed at a strength below a call's,
are read as the first part `e` of an expression: what follows is read as operators after `e`. -/
def ParsesExpr (e : Expr) (ts : List Token) : Prop :=
  ∀ prec rest errs, prec < 9 → (∀ d ∈ rest.head?, d.kind ≠ .elseKw) →
    ∃ x, (parseExpr prec ⟨ts ++ rest, errs⟩).out = (infixLoop prec (some e) ⟨x :: rest, errs⟩).out

/-- The tokens between parentheses, followed by the `)`, are read as `e`. -/
def ParsesGroup (e : Expr) (ts : List Token) : Prop :=
  ∀ rest errs, ∃ x,
    (parseExpr 0 ⟨ts ++ sym .rparen :: rest, errs⟩).out = (some e, ⟨x :: sym .rparen :: rest, errs⟩)

/-- The tokens of a list after its opening bracket, followed by its closing `)` or `]`, are read
as the list `as`. -/
def ParsesArgs (as : List (Option Expr)) (us : List Token) : Prop :=
  ∀ close o c rest errs, c.kind = close → (close = .rparen ∨ close = .rbracket) →
    (exprList close ⟨o :: (us ++ c :: rest), errs⟩ (List.cons_ne_nil _ _)).out
      = (some as, ⟨c :: rest, errs⟩)

/-- The tokens of a list after its first element are read as the other elements `as`. -/
def ParsesMore (as : List (Option Expr)) (us : List Token) : Prop :=
  ∀ close x c rest errs acc, c.kind = close → (close = .rparen ∨ close = .rbracket) →
    (exprListLoop close ⟨x :: (us ++ c :: rest), errs⟩ acc).out
      = (some (acc.toList ++ as), ⟨c :: rest, errs⟩)

/-- The tokens of the pairs of a hash literal, followed by its `}`, are read as the pairs `ps`. -/
def ParsesPairs (ps : List (Option Expr × Option Expr)) (us : List Token) : Prop :=
  ∀ x rb rest errs acc, rb.kind = .rbrace →
    (hashLoop ⟨x :: (us ++ rb :: rest), errs⟩ (List.cons_ne_nil _ _) acc).out
      = (some (acc ++ ps), ⟨rb :: rest, errs⟩)

/-- The tokens of a statement are read as `st`, up to its `;`. -/
def ParsesStmt (st : Stmt) (ts : List Token) : Prop :=
  ∀ rest errs, (parseStatement ⟨ts ++ rest, errs⟩).out = (some st, ⟨sym .semicolon :: rest, errs⟩)

/-- The tokens of a sequence of statements, followed by a `}`, are read as the statements `ss`. -/
def ParsesSeq (ss : List Stmt) (ts : List Token) : Prop :=
  ∀ rb rest errs acc, rb.kind = .rbrace →
    (blockLoop ⟨ts ++ rb :: rest, errs⟩ acc).out = (acc.toList ++ ss, ⟨rb :: rest, errs⟩)

/-- Before a closing bracket or a separator an expression is read and nothing after it. -/
theorem ParsesExpr.stop {e : Expr} {ts : List Token} (h : ParsesExpr e ts) {prec : Nat}
    (hprec : prec < 9) (rest : List Token) (hd : ∀ d ∈ rest.head?, d.kind.closes = true)
    (errs : Array String) :
  ∃ x, (parseExpr prec ⟨ts ++ rest, errs⟩).out = (some e, ⟨x :: rest, errs⟩)
  := by
  obtain ⟨x, hx⟩ := h prec rest errs hprec fun d hd' => TokenKind.ne_else_of_closes (hd d hd')
  exact ⟨x, hx.trans (infixLoop_stop (continues_of_closes hd errs prec))⟩

/-! ### Atoms -/

theorem parsesExpr_atom {t : Token} {e : Expr} (hs : startsExpr t.kind = true)
    (hp : ∀ toks errs, (parsePrefix ⟨t :: toks, errs⟩).out = (some e, ⟨t :: toks, errs⟩)) :
  ParsesExpr e [t]
  := fun _ rest errs _ _ => ⟨t, parseExpr_of_parsePrefix hs (hp rest errs)⟩

theorem ParsesExpr.ident {t : Token} (ht : t.IsName) :
  ParsesExpr (.ident ⟨t, t.literal⟩) [t]
  := parsesExpr_atom (by simp [startsExpr, ht.2]) (parsePrefix_ident ht.2)

theorem parsePrefix_numeral {t : Token} {v : Number} (h : Numeral t v) (toks : List Token)
    (errs : Array String) :
  (parsePrefix ⟨t :: toks, errs⟩).out = (some (.number t v), ⟨t :: toks, errs⟩)
  := by
  cases h with
  | @int s hne hd hlen =>
    have hdot : '.' ∉ s.toList := fun h => by simpa using hd '.' h
    have hn := Decimal.readInt?_of_digits hne
      (fun c hc => by rw [Decimal.isDigit_eq]; exact hd c hc) hlen
    exact parsePrefix_int rfl hdot hn toks errs
  | @point ds fs hne hd =>
    have hdot : '.' ∈ (String.ofList (ds ++ '.' :: fs)).toList := by
      rw [String.toList_ofList]
      exact List.mem_append_right _ List.mem_cons_self
    have hx := @Decimal.readFloat?_of_point ds fs hne fun c hc => by
      rw [Decimal.isDigit_eq]; exact hd c hc
    exact parsePrefix_float (t := ⟨.int, String.ofList (ds ++ '.' :: fs)⟩) rfl hdot hx toks errs

theorem ParsesExpr.number {t : Token} {v : Number} (h : Numeral t v) :
  ParsesExpr (.number t v) [t]
  := parsesExpr_atom (by cases h <;> rfl) (parsePrefix_numeral h)

theorem ParsesExpr.boolean (b : Bool) :
  ParsesExpr (.boolean (word (toString b)) b) [word (toString b)]
  := by
  cases b with
  | true => exact parsesExpr_atom rfl (parsePrefix_true rfl)
  | false => exact parsesExpr_atom rfl (parsePrefix_false rfl)

/-! ### Bracketed expressions -/

theorem ParsesExpr.grouped {e : Expr} {ts : List Token} (h : ParsesGroup e ts) :
  ParsesExpr e (sym .lparen :: ts ++ [sym .rparen])
  := by
  intro prec rest errs _ _
  obtain ⟨x, hx⟩ := h rest errs
  have htoks : (sym .lparen :: ts ++ [sym .rparen]) ++ rest =
      sym .lparen :: (ts ++ sym .rparen :: rest) := by
    simp
  refine ⟨sym .rparen, ?_⟩
  rw [htoks]
  exact parseExpr_of_parsePrefix rfl ((parsePrefix_grouped rfl _ _).trans (parseGrouped_out hx rfl))

theorem ParsesGroup.prefixOp {t : Token} {r : Expr} {rs : List Token} (ht : t.IsPrefixOp)
    (hr : ParsesExpr r rs) :
  ParsesGroup (.prefixOp t t.literal (some r)) (t :: rs)
  := by
  intro rest errs
  obtain ⟨x, hx⟩ := hr.stop (show prefixStrength < 9 by decide) (sym .rparen :: rest)
    (closes_cons rfl) errs
  refine ⟨x, ?_⟩
  rw [List.cons_append, parseExpr_prefixOp 0 ht.kind, Step.val_eq hx, Step.state_eq hx]
  exact infixLoop_stop_at rfl

theorem ParsesGroup.infixOp {t : Token} {l r : Expr} {ls rs : List Token} (ht : t.IsBinaryOp)
    (hl : ParsesExpr l ls) (hr : ParsesExpr r rs) :
  ParsesGroup (.infixOp t (some l) t.literal (some r)) (ls ++ t :: rs)
  := by
  intro rest errs
  have hop := TokenKind.ne_of_isBinary ht.1
  obtain ⟨x, hx⟩ := hl 0 (t :: (rs ++ sym .rparen :: rest)) errs (by omega)
    (ne_else_cons (TokenKind.ne_else_of_isBinary ht.1))
  obtain ⟨y, hy⟩ := hr.stop (Nat.lt_of_le_of_lt (TokenKind.strength_le_of_isBinary ht.1)
    (by decide)) (sym .rparen :: rest) (closes_cons rfl) errs
  refine ⟨y, ?_⟩
  rw [List.append_assoc, List.cons_append, hx,
    infixLoop_infix (TokenKind.strength_pos_of_isBinary ht.1) hop.1 hop.2.1 hop.2.2.1,
    Step.val_eq hy, Step.state_eq hy]
  exact infixLoop_stop_at rfl

theorem ParsesGroup.index {l k : Expr} {ls ks : List Token} (hl : ParsesExpr l ls)
    (hk : ParsesExpr k ks) :
  ParsesGroup (.index (sym .lbracket) (some l) (some k))
    (ls ++ sym .lbracket :: ks ++ [sym .rbracket])
  := by
  intro rest errs
  obtain ⟨x, hx⟩ := hl 0 (sym .lbracket :: (ks ++ sym .rbracket :: sym .rparen :: rest)) errs
    (by omega) (ne_else_cons (by decide))
  obtain ⟨y, hy⟩ := hk.stop (show 0 < 9 by decide) (sym .rbracket :: sym .rparen :: rest)
    (closes_cons rfl) errs
  have hi : (parseIndex (some l) ⟨sym .lbracket :: (ks ++ sym .rbracket :: sym .rparen :: rest),
      errs⟩ (List.cons_ne_nil _ _)).out
      = (some (.index (sym .lbracket) (some l) (some k)),
          ⟨sym .rbracket :: sym .rparen :: rest, errs⟩) :=
    parseIndex_out hy rfl
  have htoks : (ls ++ sym .lbracket :: ks ++ [sym .rbracket]) ++ sym .rparen :: rest
      = ls ++ sym .lbracket :: (ks ++ sym .rbracket :: sym .rparen :: rest) := by
    simp
  refine ⟨sym .rbracket, ?_⟩
  rw [htoks, hx, infixLoop_index rfl (by omega), Step.val_eq hi, Step.state_eq hi]
  exact infixLoop_stop_at rfl

/-! ### Lists, arrays and hash literals -/

theorem closes_of_close {close : TokenKind} (h : close = .rparen ∨ close = .rbracket) :
  close.closes = true
  := by
  rcases h with rfl | rfl <;> rfl

/-- The tokens after an element: the other elements, each after a comma, and the closing
bracket. Nothing more is read after the element. -/
theorem closes_more_head {as : List (Option Expr)} {us : List Token} (hm : Expr.More as us)
    {c : Token} (hc : c.kind.closes = true) (rest : List Token) :
  ∀ d ∈ (us ++ c :: rest).head?, d.kind.closes = true
  := by
  cases hm with
  | nil => exact closes_cons hc
  | cons => exact closes_cons rfl

/-- A list that is not empty does not close at once: its first token starts an expression. -/
theorem peek_ne_close {e : Expr} {es : List Token} (hw : Expr.Written e es) {close : TokenKind}
    (hclose : close = .rparen ∨ close = .rbracket) (o : Token) (toks : List Token)
    (errs : Array String) :
  (Parser.peek ⟨o :: (es ++ toks), errs⟩).kind ≠ close
  := by
  obtain ⟨t, es', rfl⟩ := List.exists_cons_of_ne_nil hw.ne_nil
  have hs := hw.startsExpr_head t rfl
  show t.kind ≠ close
  rcases hclose with rfl | rfl <;> intro hk <;> simp [hk, startsExpr] at hs

theorem parsesArgs_nil :
  ParsesArgs [] []
  := fun _ _ _ _ _ hc _ => exprList_empty hc

theorem ParsesArgs.cons {e : Expr} {es : List Token} {as : List (Option Expr)} {us : List Token}
    (hw : Expr.Written e es) (he : ParsesExpr e es) (hm : Expr.More as us)
    (hms : ParsesMore as us) :
  ParsesArgs (some e :: as) (es ++ us)
  := by
  intro close o c rest errs hc hclose
  obtain ⟨x, hx⟩ := he.stop (show 0 < 9 by decide) (us ++ c :: rest)
    (closes_more_head hm (hc ▸ closes_of_close hclose) rest) errs
  have hpeek := peek_ne_close hw hclose o (us ++ c :: rest) errs
  rw [← List.append_assoc] at hx hpeek
  rw [exprList_first hpeek hx, hms close x c rest errs _ hc hclose]
  simp

theorem parsesMore_nil :
  ParsesMore [] []
  := by
  intro close x c rest errs acc hc hclose
  rw [List.nil_append, exprListLoop_close hc (by rcases hclose with rfl | rfl <;> decide) acc,
    List.append_nil]

theorem ParsesMore.cons {e : Expr} {es : List Token} {as : List (Option Expr)} {us : List Token}
    (he : ParsesExpr e es) (hm : Expr.More as us) (hms : ParsesMore as us) :
  ParsesMore (some e :: as) (sym .comma :: es ++ us)
  := by
  intro close x c rest errs acc hc hclose
  obtain ⟨y, hy⟩ := he.stop (show 0 < 9 by decide) (us ++ c :: rest)
    (closes_more_head hm (hc ▸ closes_of_close hclose) rest) errs
  have htoks : (sym .comma :: es ++ us) ++ c :: rest = sym .comma :: (es ++ (us ++ c :: rest)) := by
    simp
  rw [htoks, exprListLoop_comma rfl acc hy, hms close y c rest errs _ hc hclose]
  simp

theorem ParsesExpr.array {as : List (Option Expr)} {us : List Token} (ha : ParsesArgs as us) :
  ParsesExpr (.array (sym .lbracket) (some as)) (sym .lbracket :: us ++ [sym .rbracket])
  := by
  intro prec rest errs _ _
  have h := ha .rbracket (sym .lbracket) (sym .rbracket) rest errs rfl (Or.inr rfl)
  have htoks : (sym .lbracket :: us ++ [sym .rbracket]) ++ rest
      = sym .lbracket :: (us ++ sym .rbracket :: rest) := by
    simp
  refine ⟨sym .rbracket, ?_⟩
  rw [htoks]
  refine parseExpr_of_parsePrefix rfl ((parsePrefix_array rfl _ _).trans ?_)
  rw [parseArray_out, Step.val_eq h, Step.state_eq h]

theorem ParsesExpr.call {f : Expr} {fs : List Token} {as : List (Option Expr)} {us : List Token}
    (hf : ParsesExpr f fs) (ha : ParsesArgs as us) :
  ParsesExpr (.call (sym .lparen) (some f) (some as)) (fs ++ sym .lparen :: us ++ [sym .rparen])
  := by
  intro prec rest errs hprec _
  obtain ⟨x, hx⟩ := hf prec (sym .lparen :: (us ++ sym .rparen :: rest)) errs hprec
    (ne_else_cons (by decide))
  have h := ha .rparen (sym .lparen) (sym .rparen) rest errs rfl (Or.inl rfl)
  have hc : (parseCall (some f) ⟨sym .lparen :: (us ++ sym .rparen :: rest), errs⟩
      (List.cons_ne_nil _ _)).out
      = (some (.call (sym .lparen) (some f) (some as)), ⟨sym .rparen :: rest, errs⟩) := by
    rw [parseCall_out, Step.val_eq h, Step.state_eq h]
  have htoks : (fs ++ sym .lparen :: us ++ [sym .rparen]) ++ rest
      = fs ++ sym .lparen :: (us ++ sym .rparen :: rest) := by
    simp
  refine ⟨sym .rparen, ?_⟩
  rw [htoks, hx, infixLoop_call rfl hprec, Step.val_eq hc, Step.state_eq hc]

theorem parsesPairs_nil :
  ParsesPairs [] []
  := fun _ _ _ _ acc hrb => by simpa using hashLoop_close hrb acc

/-- A pair is read as its key, its `:` and its value, up to the comma or the `}` after it. -/
theorem parsesPair {k v : Expr} {ks vs : List Token} (hw : Expr.Written k ks)
    (hk : ParsesExpr k ks) (hv : ParsesExpr v vs) {y : Token} (hy : y.kind.closes = true)
    (rest : List Token) (errs : Array String) :
  ∃ x z, (parseExpr 0 ⟨(ks ++ sym .colon :: vs) ++ y :: rest, errs⟩).out
      = (some k, ⟨x :: sym .colon :: (vs ++ y :: rest), errs⟩) ∧
    (parseExpr 0 ⟨vs ++ y :: rest, errs⟩).out = (some v, ⟨z :: y :: rest, errs⟩) ∧
    ∀ t, (Parser.peek ⟨t :: ((ks ++ sym .colon :: vs) ++ y :: rest), errs⟩).kind ≠ .rbrace
  := by
  obtain ⟨x, hx⟩ := hk.stop (show 0 < 9 by decide) (sym .colon :: (vs ++ y :: rest))
    (closes_cons rfl) errs
  obtain ⟨z, hz⟩ := hv.stop (show 0 < 9 by decide) (y :: rest) (closes_cons hy) errs
  have htoks : (ks ++ sym .colon :: vs) ++ y :: rest = ks ++ sym .colon :: (vs ++ y :: rest) := by
    simp
  rw [htoks]
  refine ⟨x, z, hx, hz, fun t => ?_⟩
  obtain ⟨u, ks', rfl⟩ := List.exists_cons_of_ne_nil hw.ne_nil
  have hs := hw.startsExpr_head u rfl
  show u.kind ≠ .rbrace
  intro hu
  simp [hu, startsExpr] at hs

theorem ParsesPairs.one {k v : Expr} {ks vs : List Token} (hw : Expr.Written k ks)
    (hk : ParsesExpr k ks) (hv : ParsesExpr v vs) :
  ParsesPairs [(some k, some v)] (ks ++ sym .colon :: vs)
  := by
  intro x rb rest errs acc hrb
  obtain ⟨y, z, hy, hz, hpeek⟩ := parsesPair hw hk hv (y := rb) (by rw [hrb]; rfl) rest errs
  rw [hashLoop_last (hpeek x) hy rfl hz hrb acc]
  rfl

theorem ParsesPairs.cons {k v : Expr} {ks vs : List Token} {p : Option Expr × Option Expr}
    {ps : List (Option Expr × Option Expr)} {us : List Token} (hw : Expr.Written k ks)
    (hk : ParsesExpr k ks) (hv : ParsesExpr v vs) (hps : ParsesPairs (p :: ps) us) :
  ParsesPairs ((some k, some v) :: p :: ps) (ks ++ sym .colon :: vs ++ sym .comma :: us)
  := by
  intro x rb rest errs acc hrb
  obtain ⟨y, z, hy, hz, hpeek⟩ := parsesPair hw hk hv (y := sym .comma) rfl (us ++ rb :: rest) errs
  rw [show ks ++ sym .colon :: vs ++ sym .comma :: (us ++ rb :: rest)
    = ks ++ sym .colon :: vs ++ sym .comma :: us ++ rb :: rest by simp] at hy hpeek
  rw [hashLoop_more (hpeek x) hy rfl hz rfl acc, hps (sym .comma) rb rest errs _ hrb]
  simp [putPair]

theorem ParsesExpr.hash {ps : List (Option Expr × Option Expr)} {us : List Token}
    (hp : ParsesPairs ps us) :
  ParsesExpr (.hash (sym .lbrace) ps) (sym .lbrace :: us ++ [sym .rbrace])
  := by
  intro prec rest errs _ _
  have h := hp (sym .lbrace) (sym .rbrace) rest errs [] rfl
  rw [List.nil_append] at h
  have htoks : (sym .lbrace :: us ++ [sym .rbrace]) ++ rest
      = sym .lbrace :: (us ++ sym .rbrace :: rest) := by
    simp
  refine ⟨sym .rbrace, ?_⟩
  rw [htoks]
  exact parseExpr_of_parsePrefix rfl ((parsePrefix_hash rfl _ _).trans (parseHash_out h))

/-! ### Blocks, functions, classes and conditionals -/

theorem ParsesSeq.block {ss : List Stmt} {bs : List Token} (h : ParsesSeq ss bs)
    (rest : List Token) (errs : Array String) :
  (parseBlock ⟨sym .lbrace :: (bs ++ sym .rbrace :: rest), errs⟩ (List.cons_ne_nil _ _)).out
    = (.mk (sym .lbrace) ss, ⟨sym .rbrace :: rest, errs⟩)
  := parseBlock_out (by simpa using h (sym .rbrace) rest errs #[] rfl)

/-- A parameter list is read as its names, each the text of its token. -/
theorem paramsLoop_names {ys : List Ident} (hys : ∀ y ∈ ys, y.name = y.token.literal)
    (n : Token) {rp : Token} (hrp : rp.kind = .rparen) (rest : List Token) (errs : Array String)
    (acc : Array Ident) :
  (paramsLoop ⟨n :: (ys.flatMap (fun y => [sym .comma, y.token]) ++ rp :: rest), errs⟩ acc).out
    = (some (acc.toList ++ ys), ⟨rp :: rest, errs⟩)
  := by
  induction ys generalizing n acc with
  | nil =>
    rw [List.append_nil]
    exact paramsLoop_close hrp acc
  | cons y ys ih =>
    have hy : (⟨y.token, y.token.literal⟩ : Ident) = y := by rw [← hys y (by simp)]
    have htoks : (y :: ys).flatMap (fun y => [sym .comma, y.token]) ++ rp :: rest
        = sym .comma :: y.token :: (ys.flatMap (fun y => [sym .comma, y.token]) ++ rp :: rest) := by
      simp
    rw [htoks, paramsLoop_comma rfl acc, hy, ih (fun z hz => hys z (by simp [hz])) y.token]
    simp

theorem params_names {xs : List Ident} (hxs : ∀ x ∈ xs, x.token.IsName ∧ x.name = x.token.literal)
    (lp : Token) (rest : List Token) (errs : Array String) :
  (params ⟨lp :: (Token.params xs ++ sym .rparen :: rest), errs⟩).out
    = (some xs, ⟨sym .rparen :: rest, errs⟩)
  := by
  cases xs with
  | nil => exact params_empty rfl
  | cons x xs =>
    have hx := hxs x (by simp)
    have hx' : (⟨x.token, x.token.literal⟩ : Ident) = x := by rw [← hx.2]
    have htoks : Token.params (x :: xs) ++ sym .rparen :: rest
        = x.token :: (xs.flatMap (fun y => [sym .comma, y.token]) ++ sym .rparen :: rest) := by
      simp [Token.params]
    rw [htoks, params_first (by rw [hx.1.2]; decide), hx',
      paramsLoop_names (fun y hy => (hxs y (by simp [hy])).2) x.token rfl rest errs]
    simp

theorem ParsesExpr.function {xs : List Ident} {ss : List Stmt} {bs : List Token}
    (hxs : ∀ x ∈ xs, x.token.IsName ∧ x.name = x.token.literal) (hb : ParsesSeq ss bs) :
  ParsesExpr (.function (word "fn") (some xs) (.mk (sym .lbrace) ss))
    (word "fn" :: sym .lparen :: Token.params xs ++ sym .rparen :: braced bs)
  := by
  intro prec rest errs _ _
  have htoks : (word "fn" :: sym .lparen :: Token.params xs ++ sym .rparen :: braced bs) ++ rest
      = word "fn" :: sym .lparen ::
          (Token.params xs ++ sym .rparen :: sym .lbrace :: (bs ++ sym .rbrace :: rest)) := by
    simp [braced]
  refine ⟨sym .rbrace, ?_⟩
  rw [htoks]
  refine parseExpr_of_parsePrefix rfl ((parsePrefix_function rfl _ _).trans ?_)
  exact parseFunction_out rfl (params_names hxs _ _ errs) rfl (hb.block rest errs)

theorem ParsesExpr.classDef {ss : List Stmt} {bs : List Token} (hb : ParsesSeq ss bs) :
  ParsesExpr (.classDef (word "class") (.mk (sym .lbrace) ss)) (word "class" :: braced bs)
  := by
  intro prec rest errs _ _
  have htoks : (word "class" :: braced bs) ++ rest
      = word "class" :: sym .lbrace :: (bs ++ sym .rbrace :: rest) := by
    simp [braced]
  refine ⟨sym .rbrace, ?_⟩
  rw [htoks]
  exact parseExpr_of_parsePrefix rfl
    ((parsePrefix_class rfl _ _).trans (parseClass_out rfl (hb.block rest errs)))

theorem ParsesExpr.ifThen {c : Expr} {cs : List Token} {ss : List Stmt} {ys : List Token}
    (hc : ParsesGroup c cs) (hy : ParsesSeq ss ys) :
  ParsesExpr (.ifElse (word "if") (some c) (.mk (sym .lbrace) ss) none)
    (word "if" :: sym .lparen :: cs ++ sym .rparen :: braced ys)
  := by
  intro prec rest errs _ hne
  obtain ⟨x, hx⟩ := hc (sym .lbrace :: (ys ++ sym .rbrace :: rest)) errs
  have htoks : (word "if" :: sym .lparen :: cs ++ sym .rparen :: braced ys) ++ rest
      = word "if" :: sym .lparen ::
          (cs ++ sym .rparen :: sym .lbrace :: (ys ++ sym .rbrace :: rest)) := by
    simp [braced]
  refine ⟨sym .rbrace, ?_⟩
  rw [htoks]
  refine parseExpr_of_parsePrefix rfl ((parsePrefix_if rfl _ _).trans ?_)
  exact parseIf_then rfl hx rfl rfl (hy.block rest errs) (peek_ne_else hne errs)

theorem ParsesExpr.ifElse {c : Expr} {cs : List Token} {ss : List Stmt} {ys : List Token}
    {ns : List Stmt} {zs : List Token} (hc : ParsesGroup c cs) (hy : ParsesSeq ss ys)
    (hn : ParsesSeq ns zs) :
  ParsesExpr (.ifElse (word "if") (some c) (.mk (sym .lbrace) ss) (some (.mk (sym .lbrace) ns)))
    (word "if" :: sym .lparen :: cs ++ sym .rparen :: braced ys ++ word "else" :: braced zs)
  := by
  intro prec rest errs _ _
  obtain ⟨x, hx⟩ := hc (sym .lbrace :: (ys ++ sym .rbrace :: word "else" :: sym .lbrace ::
    (zs ++ sym .rbrace :: rest))) errs
  have htoks : (word "if" :: sym .lparen :: cs ++ sym .rparen :: braced ys ++
        word "else" :: braced zs) ++ rest
      = word "if" :: sym .lparen :: (cs ++ sym .rparen :: sym .lbrace :: (ys ++ sym .rbrace ::
          word "else" :: sym .lbrace :: (zs ++ sym .rbrace :: rest))) := by
    simp [braced]
  refine ⟨sym .rbrace, ?_⟩
  rw [htoks]
  refine parseExpr_of_parsePrefix rfl ((parsePrefix_if rfl _ _).trans ?_)
  exact parseIf_else rfl hx rfl rfl (hy.block _ errs) rfl rfl (hn.block rest errs)

/-! ### Statements -/

theorem ParsesStmt.letStmt {t : Token} {e : Expr} {es : List Token} (ht : t.IsName)
    (he : ParsesExpr e es) :
  ParsesStmt (.letStmt (word "let") ⟨t, t.literal⟩ (some e) none)
    (word "let" :: t :: sym .assign :: es ++ [sym .semicolon])
  := by
  intro rest errs
  obtain ⟨y, hy⟩ := he.stop (show 0 < 9 by decide) (sym .semicolon :: rest) (closes_cons rfl) errs
  have htoks : (word "let" :: t :: sym .assign :: es ++ [sym .semicolon]) ++ rest
      = word "let" :: t :: sym .assign :: (es ++ sym .semicolon :: rest) := by
    simp
  rw [htoks, parseStatement_let rfl]
  exact parseLet_out ht.2 rfl hy rfl

theorem parsesStmt_returnNone :
  ParsesStmt (.returnStmt (word "return") none) [word "return", sym .semicolon]
  := fun _ errs => (parseStatement_return rfl _ errs).trans (parseReturn_none rfl)

theorem ParsesStmt.returnSome {e : Expr} {es : List Token} (hw : Expr.Written e es)
    (he : ParsesExpr e es) :
  ParsesStmt (.returnStmt (word "return") (some e)) (word "return" :: es ++ [sym .semicolon])
  := by
  intro rest errs
  obtain ⟨y, hy⟩ := he.stop (show 0 < 9 by decide) (sym .semicolon :: rest) (closes_cons rfl) errs
  obtain ⟨f, es', rfl⟩ := List.exists_cons_of_ne_nil hw.ne_nil
  have hf : f.kind ≠ .semicolon := by
    have hs := hw.startsExpr_head f rfl
    intro hk
    simp [hk, startsExpr] at hs
  have htoks : (word "return" :: f :: es' ++ [sym .semicolon]) ++ rest
      = word "return" :: f :: (es' ++ sym .semicolon :: rest) := by
    simp
  rw [htoks, parseStatement_return rfl]
  exact parseReturn_some hf hy rfl

theorem ParsesStmt.exprStmt {e : Expr} {t : Token} {ts : List Token} (hw : Expr.Written e (t :: ts))
    (he : ParsesExpr e (t :: ts)) :
  ParsesStmt (.exprStmt t (some e)) (t :: ts ++ [sym .semicolon])
  := by
  intro rest errs
  obtain ⟨y, hy⟩ := he.stop (show 0 < 9 by decide) (sym .semicolon :: rest) (closes_cons rfl) errs
  have hs := hw.startsExpr_head t rfl
  have hkw : t.kind ≠ .letKw ∧ t.kind ≠ .returnKw ∧ t.kind ≠ .breakKw ∧ t.kind ≠ .continueKw := by
    refine ⟨?_, ?_, ?_, ?_⟩ <;> intro hk <;> simp [hk, startsExpr] at hs
  have hassign : t.kind = .ident →
      (Parser.peek ⟨t :: (ts ++ sym .semicolon :: rest), errs⟩).kind ≠ .assign := by
    intro hid
    cases ts with
    | nil => simp [peek, sym]
    | cons u ts =>
      have hu := hw.lparen_after_ident rfl hid u rfl
      simp [peek, hu]
  have htoks : (t :: ts ++ [sym .semicolon]) ++ rest = t :: (ts ++ sym .semicolon :: rest) := by
    simp
  rw [List.cons_append] at hy
  rw [htoks, parseStatement_exprStmt hkw hassign, parseExprStmt_out, Step.val_eq hy,
    Step.state_eq hy, skipSemicolon_next rfl]
  rfl

theorem ParsesStmt.assign {t : Token} {e : Expr} {es : List Token} (ht : t.IsName)
    (he : ParsesExpr e es) :
  ParsesStmt (.assign (sym .assign) ⟨t, t.literal⟩ (some e))
    (t :: sym .assign :: es ++ [sym .semicolon])
  := by
  intro rest errs
  obtain ⟨y, hy⟩ := he.stop (show 0 < 9 by decide) (sym .semicolon :: rest) (closes_cons rfl) errs
  have htoks : (t :: sym .assign :: es ++ [sym .semicolon]) ++ rest
      = t :: sym .assign :: (es ++ sym .semicolon :: rest) := by
    simp
  rw [htoks, parseStatement_assign ht.2 rfl]
  exact parseAssign_out rfl hy rfl

theorem parsesStmt_break :
  ParsesStmt .breakStmt [word "break", sym .semicolon]
  := fun rest errs => parseStatement_break rfl rfl rest errs

theorem parsesStmt_continue :
  ParsesStmt .continueStmt [word "continue", sym .semicolon]
  := fun rest errs => parseStatement_continue rfl rfl rest errs

theorem parsesSeq_nil :
  ParsesSeq [] []
  := fun _ _ _ acc hrb => by simpa using blockLoop_close hrb acc

theorem ParsesSeq.cons {s : Stmt} {ts : List Token} {ss : List Stmt} {us : List Token}
    (hw : Stmt.Written s ts) (hs : ParsesStmt s ts) (hss : ParsesSeq ss us) :
  ParsesSeq (s :: ss) (ts ++ us)
  := by
  intro rb rest errs acc hrb
  obtain ⟨t, ts', rfl⟩ := List.exists_cons_of_ne_nil hw.ne_nil
  have h : (parseStatement ⟨t :: (ts' ++ (us ++ rb :: rest)), errs⟩).out
      = (some s, ⟨sym .semicolon :: (us ++ rb :: rest), errs⟩) :=
    hs (us ++ rb :: rest) errs
  rw [List.append_assoc, List.cons_append, blockLoop_stmt (hw.head_ne_rbrace t rfl) h acc,
    hss rb rest errs _ hrb]
  simp

end Parser

/-! ### Every printable tree is parsed back -/

open Monkey.Parser

mutual

theorem Expr.Written.parses :
  ∀ {e : Expr} {ts : List Token}, Expr.Written e ts → ParsesExpr e ts
  | _, _, .ident ht => .ident ht
  | _, _, .number hn => .number hn
  | _, _, .boolean b => .boolean b
  | _, _, .grouped hg => .grouped hg.parses
  | _, _, .call hf ha => .call hf.parses ha.parses
  | _, _, .array ha => .array ha.parses
  | _, _, .hash hp => .hash hp.parses
  | _, _, .function hxs hb => .function hxs hb.parses
  | _, _, .classDef hb => .classDef hb.parses
  | _, _, .ifThen hc hy => .ifThen hc.parses hy.parses
  | _, _, .ifElse hc hy hn => .ifElse hc.parses hy.parses hn.parses

theorem Expr.Grouped.parses :
  ∀ {e : Expr} {ts : List Token}, Expr.Grouped e ts → ParsesGroup e ts
  | _, _, .prefixOp ht hr => .prefixOp ht hr.parses
  | _, _, .infixOp ht hl hr => .infixOp ht hl.parses hr.parses
  | _, _, .index hl hk => .index hl.parses hk.parses

theorem Expr.Args.parses :
  ∀ {as : List (Option Expr)} {us : List Token}, Expr.Args as us →
    ParsesArgs as us
  | _, _, .nil => parsesArgs_nil
  | _, _, .cons he hm => .cons he he.parses hm hm.parses

theorem Expr.More.parses :
  ∀ {as : List (Option Expr)} {us : List Token}, Expr.More as us →
    ParsesMore as us
  | _, _, .nil => parsesMore_nil
  | _, _, .cons he hm => .cons he.parses hm hm.parses

theorem Expr.Pairs.parses :
  ∀ {ps : List (Option Expr × Option Expr)} {us : List Token},
    Expr.Pairs ps us → ParsesPairs ps us
  | _, _, .nil => parsesPairs_nil
  | _, _, .one hk hv => .one hk hk.parses hv.parses
  | _, _, .cons hk hv hp => .cons hk hk.parses hv.parses hp.parses

theorem Stmt.Written.parses :
  ∀ {st : Stmt} {ts : List Token}, Stmt.Written st ts →
    ParsesStmt st ts
  | _, _, .letStmt ht he => .letStmt ht he.parses
  | _, _, .returnNone => parsesStmt_returnNone
  | _, _, .returnSome he => .returnSome he he.parses
  | _, _, .exprStmt he => .exprStmt he he.parses
  | _, _, .assign ht he => .assign ht he.parses
  | _, _, .breakStmt => parsesStmt_break
  | _, _, .continueStmt => parsesStmt_continue

theorem Stmt.Seq.parses :
  ∀ {ss : List Stmt} {ts : List Token}, Stmt.Seq ss ts → ParsesSeq ss ts
  | _, _, .nil => parsesSeq_nil
  | _, _, .cons hs hss => .cons hs hs.parses hss.parses

end

/-- A program's statements are read one after another to the end of the tokens. -/
theorem Stmt.Seq.programLoop :
  ∀ {ss : List Stmt} {ts : List Token}, Stmt.Seq ss ts →
    ∀ errs acc, Parser.programLoop ⟨ts, errs⟩ acc = ((acc.toList ++ ss).toArray, ⟨[], errs⟩)
  | _, _, .nil, errs, acc => by simp [programLoop_nil]
  | _, _, @Stmt.Seq.cons s ts ss us hs hss, errs, acc => by
    obtain ⟨t, ts', rfl⟩ := List.exists_cons_of_ne_nil hs.ne_nil
    have h : (parseStatement ⟨t :: (ts' ++ us), errs⟩).out
        = (some s, ⟨Token.sym .semicolon :: us, errs⟩) :=
      hs.parses us errs
    rw [List.cons_append, programLoop_cons h acc, hss.programLoop errs _]
    simp

/-- The text of a printable program is parsed back as the program itself, with no error. -/
theorem Program.parse_render {p : Program} (hp : p.Printable) :
  ∃ s, p.render = .ok s ∧ Program.parse s = ⟨p, []⟩
  := by
  obtain ⟨ts, hts⟩ := hp
  obtain ⟨s, hr, hscan⟩ := Program.scan_render hts
  refine ⟨s, hr, ?_⟩
  simp only [Program.parse, Parsed.ofTokens, hscan, hts.programLoop]
  simp

/-- `let f = fn(a) \x7b return (a + 1); \x7d; f(2);` is printed and parsed back. -/
theorem parse_render_function_call :
  let p : Program := ⟨[
    .letStmt (Token.word "let") ⟨⟨.ident, "f"⟩, "f"⟩
      (some (.function (Token.word "fn") (some [⟨⟨.ident, "a"⟩, "a"⟩])
        (.mk (Token.sym .lbrace)
          [.returnStmt (Token.word "return")
            (some (.infixOp ⟨.plus, "+"⟩ (some (.ident ⟨⟨.ident, "a"⟩, "a"⟩)) "+"
              (some (.number ⟨.int, "1"⟩ (.int 1)))))])))
      none,
    .exprStmt ⟨.ident, "f"⟩
      (some (.call (Token.sym .lparen) (some (.ident ⟨⟨.ident, "f"⟩, "f"⟩))
        (some [some (.number ⟨.int, "2"⟩ (.int 2))])))]⟩
  ∃ s, p.render = .ok s ∧ Program.parse s = ⟨p, []⟩
  := by
  intro p
  have hf : Token.IsName ⟨.ident, "f"⟩ := ⟨.name (by simp) (by simp) rfl, rfl⟩
  have ha : Token.IsName ⟨.ident, "a"⟩ := ⟨.name (by simp) (by simp) rfl, rfl⟩
  have h1 : Numeral ⟨.int, "1"⟩ (.int 1) :=
    .int (by simp) (by simp) (by simp [Decimal.intDigitLimit])
  have h2 : Numeral ⟨.int, "2"⟩ (.int 2) :=
    .int (by simp) (by simp) (by simp [Decimal.intDigitLimit])
  have hplus : Token.IsBinaryOp ⟨.plus, "+"⟩ := ⟨rfl, .symbol (k := .plus) rfl⟩
  have hxs : ∀ x ∈ [(⟨⟨.ident, "a"⟩, "a"⟩ : Ident)], x.token.IsName ∧ x.name = x.token.literal := by
    intro x hx
    rw [List.mem_singleton] at hx
    subst hx
    exact ⟨ha, rfl⟩
  exact Program.parse_render ⟨_,
    .cons (.letStmt hf (.function hxs
      (.cons (.returnSome (.grouped (.infixOp hplus (.ident ha) (.number h1)))) .nil)))
    (.cons (.exprStmt (.call (.ident hf) (.cons (.number h2) .nil))) .nil)⟩

end Monkey
