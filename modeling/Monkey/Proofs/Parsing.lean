import Mathlib.Data.List.TakeWhile
import Monkey.Syntax.Parser

/-!
# One step of the parser

What each parsing function does on a state whose next tokens are known, stated through
`Parser.Step.out`, the value a step gives with the state after it. Later proofs cite these
lemmas and never unfold the parser.

- An expression starting with a name or a number is that atom, continued by the operators
  after it (`parseExpr_ident`, `parseExpr_int`); one starting with `!` or `-` applies the
  operator to an expression read at the prefix strength (`parseExpr_prefixOp`).
- The operator loop stops at an operator that binds no more strongly than the strength it
  was started at, and at `;` (`infixLoop_stop`); otherwise it reads the operator, a call, an
  index or a binary operation (`operatorStep`), and goes on from where that ended
  (`infixLoop_continues`). A binary operator takes its right operand at its own strength
  (`infixLoop_infix`).
- A numeral of at most 4300 digits is read as the integer its digits denote
  (`Decimal.readInt?_of_digits`).
- A statement that starts with no keyword and no assignment is an expression statement
  (`parseStatement_exprStmt`), and a program whose first statement takes all of its tokens
  is that statement alone (`programLoop_single`).
-/

namespace Monkey

namespace Decimal

theorem isAsciiBlank_of_numeral {c : Char} (h : isDigit c = true ∨ c = '.') :
  isAsciiBlank c = false
  := by
  cases hb : isAsciiBlank c
  · rfl
  · simp only [isAsciiBlank, Bool.or_eq_true, beq_iff_eq] at hb
    rcases hb with ((((rfl | rfl) | rfl) | rfl) | rfl) | rfl <;> simp [isDigit] at h

theorem toNat_lt_of_isDigit {c : Char} (hc : isDigit c = true) :
  c.toNat < 128
  := by
  simp only [isDigit, Bool.and_eq_true, decide_eq_true_eq, Char.le_def] at hc
  simp only [Char.toNat, UInt32.le_iff_toNat_le] at *
  have : '9'.val.toNat = 57 := rfl
  omega

/-- An ASCII text is its own ASCII form. -/
theorem asciiForm_of_lt {s : String} (hs : ∀ c ∈ s.toList, c.toNat < 128) :
  asciiForm s = some s.toList
  := by
  unfold asciiForm
  generalize s.toList = cs at hs ⊢
  induction cs with
  | nil => rfl
  | cons c cs ih =>
    have hc : c.toNat < 128 := hs c List.mem_cons_self
    simp [List.mapM_cons, hc, ih fun c h => hs c (List.mem_cons_of_mem _ h)]

theorem dropWhile_of_head? {p : Char → Bool} {cs : List Char} (h : ∀ c ∈ cs.head?, p c = false) :
  cs.dropWhile p = cs
  := by
  cases cs with
  | nil => rfl
  | cons c cs => exact List.dropWhile_cons_of_neg (by simpa using h c rfl)

theorem underscoresBetweenDigits_of_not_mem {cs : List Char} (h : '_' ∉ cs) :
  underscoresBetweenDigits cs = true
  := by
  induction cs with
  | nil => rfl
  | cons c cs ih =>
    simp only [List.mem_cons, not_or] at h
    obtain ⟨hc, hcs⟩ := h
    rw [underscoresBetweenDigits.eq_4 c cs (fun b r hr => hcs (by simp [hr]))
      (fun hr => hcs (by simp [hr])) (fun h => hc h.symm)]
    exact ih hcs

theorem isDigit_underscore :
  isDigit '_' = false
  := rfl

theorem isDigit_eq (c : Char) :
  isDigit c = c.isDigit
  := by
  simp only [isDigit, Char.isDigit, Char.le_def, UInt32.le_iff_toNat_le]

/-- An ASCII text with no underscore and no blank at either end is its own prepared text. -/
theorem prepare_of_plain {s : String} (hs : ∀ c ∈ s.toList, c.toNat < 128) (hu : '_' ∉ s.toList)
    (hhead : ∀ c ∈ s.toList.head?, isAsciiBlank c = false)
    (hlast : ∀ c ∈ s.toList.getLast?, isAsciiBlank c = false) :
  prepare s = some s.toList
  := by
  have hx : underscoresBetweenDigits ('x' :: s.toList) = true :=
    underscoresBetweenDigits_of_not_mem (by simp [hu])
  have hf : s.toList.filter (· != '_') = s.toList :=
    List.filter_eq_self.2 fun c hc => by
      simp only [bne_iff_ne, ne_eq]
      rintro rfl
      exact hu hc
  have hrev : s.toList.reverse.dropWhile isAsciiBlank = s.toList.reverse :=
    dropWhile_of_head? (by simpa [List.head?_reverse] using hlast)
  simp [prepare, asciiForm_of_lt hs, dropWhile_of_head? hhead, hrev, hx, hf]

/-- A text of digits and points is its own prepared text: no blanks to drop and no
underscores. -/
theorem prepare_of_numeral {s : String} (hd : ∀ c ∈ s.toList, isDigit c = true ∨ c = '.') :
  prepare s = some s.toList
  := by
  refine prepare_of_plain (fun c hc => ?_) (fun hu => ?_) (fun c hc => ?_) (fun c hc => ?_)
  · rcases hd c hc with h | rfl
    · exact toNat_lt_of_isDigit h
    · decide
  · simpa [isDigit_underscore] using hd '_' hu
  · exact isAsciiBlank_of_numeral (hd c (List.mem_of_mem_head? hc))
  · exact isAsciiBlank_of_numeral (hd c (List.mem_of_mem_getLast? hc))

/-- A text that starts with a digit has no sign. -/
theorem splitSign_of_isDigit {c : Char} (hc : isDigit c = true) (cs : List Char) :
  splitSign (c :: cs) = (false, c :: cs)
  := by
  rw [splitSign.eq_3]
  · rintro r ⟨rfl, -⟩; simp [isDigit] at hc
  · rintro r ⟨rfl, -⟩; simp [isDigit] at hc

theorem splitSign_of_digits {cs : List Char} (hne : cs ≠ []) (hd : ∀ c ∈ cs, isDigit c = true) :
  splitSign cs = (false, cs)
  := by
  obtain ⟨c, cs', rfl⟩ := List.exists_cons_of_ne_nil hne
  exact splitSign_of_isDigit (hd c (by simp)) cs'

/-- A numeral of digits only, at most `intDigitLimit` of them, reads as the number they
denote. -/
theorem readInt?_of_digits {s : String} (hne : s.toList ≠ [])
    (hd : ∀ c ∈ s.toList, isDigit c = true) (hlen : s.toList.length ≤ intDigitLimit) :
  readInt? s = some (digitsValue s.toList : Int)
  := by
  simp [readInt?, prepare_of_numeral (fun c h => Or.inl (hd c h)), splitSign_of_digits hne hd,
    hne, Nat.not_lt.2 hlen]
  exact hd

/-- A numeral of more than `intDigitLimit` digits reads as no integer. -/
theorem readInt?_of_long {s : String} (hd : ∀ c ∈ s.toList, isDigit c = true)
    (hlen : intDigitLimit < s.toList.length) :
  readInt? s = none
  := by
  have hne : s.toList ≠ [] := by
    intro h
    rw [h] at hlen
    exact absurd hlen (Nat.not_lt_zero _)
  simp [readInt?, prepare_of_numeral (fun c h => Or.inl (hd c h)), splitSign_of_digits hne hd,
    hlen]

theorem toLower_of_isDigit {c : Char} (hc : isDigit c = true) :
  c.toLower = c
  := by
  have hnot : ¬ (c.val ≥ 'A'.val ∧ c.val ≤ 'Z'.val) := by
    simp only [isDigit, Bool.and_eq_true, decide_eq_true_eq, Char.le_def] at hc
    simp only [ge_iff_le, UInt32.le_iff_toNat_le] at *
    have : 'A'.val.toNat = 65 := rfl
    have : '9'.val.toNat = 57 := rfl
    omega
  exact dif_neg hnot

/-- Digits with one point among them, at least one digit before it, read as the double
nearest to the decimal they denote. -/
theorem readFloat?_of_point {ds fs : List Char} (hne : ds ≠ [])
    (hd : ∀ c ∈ ds ++ fs, isDigit c = true) :
  readFloat? (String.ofList (ds ++ '.' :: fs))
    = some (nearestFloat false (digitsValue (ds ++ fs)) (-(fs.length : Int)))
  := by
  obtain ⟨d, ds', rfl⟩ := List.exists_cons_of_ne_nil hne
  have hdd : isDigit d = true := hd d (by simp)
  have hfs : ∀ c ∈ fs, isDigit c = true := fun c hc => hd c (by simp [hc])
  have hds : ∀ c ∈ d :: ds', isDigit c = true := fun c hc => hd c (List.mem_append_left _ hc)
  have hdot : isDigit '.' = false := rfl
  have hnum : ∀ c ∈ (String.ofList (d :: ds' ++ '.' :: fs)).toList,
      isDigit c = true ∨ c = '.' := by
    intro c hc
    simp only [String.toList_ofList, List.mem_append, List.mem_cons] at hc
    rcases hc with (rfl | hc) | (rfl | hc)
    · exact Or.inl hdd
    · exact Or.inl (hds c (by simp [hc]))
    · exact Or.inr rfl
    · exact Or.inl (hfs c hc)
  have hdi : d ≠ 'i' := by rintro rfl; simp [isDigit] at hdd
  have hdn : d ≠ 'n' := by rintro rfl; simp [isDigit] at hdd
  have hwhole : (d :: (ds' ++ '.' :: fs)).takeWhile isDigit = d :: ds' := by
    rw [← List.cons_append, List.takeWhile_append_of_pos hds,
      List.takeWhile_cons_of_neg (by simp [hdot]), List.append_nil]
  have hafter : (d :: (ds' ++ '.' :: fs)).dropWhile isDigit = '.' :: fs := by
    rw [← List.cons_append, List.dropWhile_append_of_pos hds,
      List.dropWhile_cons_of_neg (by simp [hdot])]
  have hfrac : fs.takeWhile isDigit = fs := List.takeWhile_eq_self_iff.2 hfs
  have hrest : fs.dropWhile isDigit = [] := List.dropWhile_eq_nil_iff.2 hfs
  have hp : prepare (String.ofList (d :: ds' ++ '.' :: fs)) = some (d :: (ds' ++ '.' :: fs)) := by
    rw [prepare_of_numeral hnum, String.toList_ofList, List.cons_append]
  rw [readFloat?, hp]
  simp only [Option.bind_eq_bind, Option.bind_some, splitSign_of_isDigit hdd, hwhole, hafter]
  simp [String.ext_iff, toLower_of_isDigit hdd, hdi, hdn, hfrac, hrest]

end Decimal

namespace Parser

/-- What a parsing step gives: its value and the state after it. -/
def Step.out {α : Type} {n : Nat} (r : Step α n) : α × Parser := (r.val, r.state)

@[simp] theorem Step.out_mk {α : Type} {n : Nat} (v : α) (q : Parser)
    (h : q.toks.length ≤ n) :
  (Step.mk v q h).out = (v, q)
  := rfl

theorem Step.val_eq {α : Type} {n : Nat} {r : Step α n} {v : α} {q : Parser}
    (h : r.out = (v, q)) :
  r.val = v
  := congrArg Prod.fst h

theorem Step.state_eq {α : Type} {n : Nat} {r : Step α n} {v : α} {q : Parser}
    (h : r.out = (v, q)) :
  r.state = q
  := congrArg Prod.snd h

/-- An expression that can start at the current token is its first part, continued by the
operator loop. -/
theorem parseExpr_of_parsePrefix {prec : Nat} {p q : Parser} {left : Option Expr}
    (hs : startsExpr p.cur.kind = true) (h : (parsePrefix p).out = (left, q)) :
  (parseExpr prec p).out = (infixLoop prec left q).out
  := by
  have h' : (parseExpr prec p).out
      = (infixLoop prec (parsePrefix p).val (parsePrefix p).state).out := by
    rw [parseExpr]
    simp only [hs, Bool.not_true, Bool.false_eq_true, ↓reduceIte]
    rcases parsePrefix p with ⟨v, q, hq⟩
    rfl
  simp only [Step.out, Prod.mk.injEq] at h h' ⊢
  rw [h'.1, h'.2, h.1, h.2]
  exact ⟨rfl, rfl⟩

/-- The operator loop ends where the expression cannot continue. -/
theorem infixLoop_stop {prec : Nat} {left : Option Expr} {p : Parser}
    (h : p.continues prec = false) :
  (infixLoop prec left p).out = (left, p)
  := by
  rw [infixLoop]
  simp [h]

/-- The reading of the operator at the current token, after an operand: a call at `(`, an
index at `[`, and a binary operation at any other token. -/
def operatorStep (left : Option Expr) (p : Parser) (hp : p.toks ≠ []) :
    Step (Option Expr) p.toks.length :=
  if p.cur.kind = .lparen then parseCall left p hp
  else if p.cur.kind = .lbracket then parseIndex left p hp
  else parseInfix left p hp

/-- Where the expression continues, the operator loop reads the operator after the current
token and goes on from where that reading ended. -/
theorem infixLoop_continues {prec : Nat} {left : Option Expr} {p : Parser}
    (h : p.continues prec = true) :
  (infixLoop prec left p).out
    = (infixLoop prec (operatorStep left p.advance (toks_ne_nil_of_continues h).2).val
        (operatorStep left p.advance (toks_ne_nil_of_continues h).2).state).out
  := by
  rw [infixLoop, dif_pos h]
  unfold operatorStep
  split
  · rename_i hl
    rw [if_pos hl]
    rfl
  · rename_i hb
    rw [if_neg (by rw [hb]; decide), if_pos hb]
    rfl
  · rename_i hl hb
    rw [if_neg hl, if_neg hb]
    rfl

/-- A binary operator takes the given left operand and an expression read at its own strength
as its right operand. -/
theorem parseInfix_out (left : Option Expr) (op : Token) (toks : List Token)
    (errs : Array String) :
  (parseInfix left ⟨op :: toks, errs⟩ (List.cons_ne_nil _ _)).out
    = (some (.infixOp op left op.literal (parseExpr op.kind.strength ⟨toks, errs⟩).val),
        (parseExpr op.kind.strength ⟨toks, errs⟩).state)
  := by
  rw [parseInfix]
  dsimp only [cur, advance, List.headD_cons, List.tail_cons]
  rcases parseExpr op.kind.strength ⟨toks, errs⟩ with ⟨r, u, hu⟩
  rfl

/-- A binary operator after the current token, binding more strongly than the loop's strength,
takes what was read as its left operand, and the loop goes on after its right operand. -/
theorem infixLoop_infix {prec : Nat} {left : Option Expr} {t op : Token} {toks : List Token}
    {errs : Array String} (hop : prec < op.kind.strength) (hsemi : op.kind ≠ .semicolon)
    (hcall : op.kind ≠ .lparen) (hindex : op.kind ≠ .lbracket) :
  (infixLoop prec left ⟨t :: op :: toks, errs⟩).out
    = (infixLoop prec (some (.infixOp op left op.literal
          (parseExpr op.kind.strength ⟨toks, errs⟩).val))
        (parseExpr op.kind.strength ⟨toks, errs⟩).state).out
  := by
  have hc : continues ⟨t :: op :: toks, errs⟩ prec = true := by
    simp [continues, peek, hsemi, hop]
  rw [infixLoop]
  simp only [hc, ↓reduceDIte]
  have hcur : (advance ⟨t :: op :: toks, errs⟩).cur = op := rfl
  split
  · rename_i heq
    exact absurd (hcur ▸ heq) hcall
  · rename_i heq
    exact absurd (hcur ▸ heq) hindex
  · have h := parseInfix_out left op toks errs
    dsimp only [advance, List.tail_cons] at h ⊢
    simp only [Step.out, Prod.mk.injEq] at h ⊢
    rw [h.1, h.2]
    exact ⟨rfl, rfl⟩

/-- A name is read as itself. -/
theorem parsePrefix_ident {t : Token} (ht : t.kind = .ident) (toks : List Token)
    (errs : Array String) :
  (parsePrefix ⟨t :: toks, errs⟩).out = (some (.ident ⟨t, t.literal⟩), ⟨t :: toks, errs⟩)
  := by
  rw [parsePrefix]
  dsimp only [cur, List.headD_cons]
  simp only [List.cons_ne_nil, ↓reduceDIte, ht]
  rfl

/-- A numeral without a point that reads as an integer is read as that integer. -/
theorem parsePrefix_int {t : Token} (ht : t.kind = .int) {n : Int}
    (hdot : '.' ∉ t.literal.toList) (hn : Decimal.readInt? t.literal = some n)
    (toks : List Token) (errs : Array String) :
  (parsePrefix ⟨t :: toks, errs⟩).out = (some (.number t (.int n)), ⟨t :: toks, errs⟩)
  := by
  rw [parsePrefix]
  dsimp only [cur, List.headD_cons]
  simp only [List.cons_ne_nil, ↓reduceDIte, ht]
  simp [numberLiteral, cur, String.contains_char_eq, hdot, hn, Step.out]

/-- A numeral without a point that reads as no integer is an error, and no expression. -/
theorem parsePrefix_int_error {t : Token} (ht : t.kind = .int) (hdot : '.' ∉ t.literal.toList)
    (hn : Decimal.readInt? t.literal = none) (toks : List Token) (errs : Array String) :
  (parsePrefix ⟨t :: toks, errs⟩).out
    = (none, ⟨t :: toks, errs.push ("could not parse " ++ t.literal ++ " as integer")⟩)
  := by
  rw [parsePrefix]
  dsimp only [cur, List.headD_cons]
  simp only [List.cons_ne_nil, ↓reduceDIte, ht]
  simp [numberLiteral, cur, String.contains_char_eq, hdot, hn, Step.out, report]

/-- `!` and `-` apply to an expression read at the prefix strength. -/
theorem parsePrefix_prefixOp {t : Token} (ht : t.kind = .bang ∨ t.kind = .minus)
    (toks : List Token) (errs : Array String) :
  (parsePrefix ⟨t :: toks, errs⟩).out
    = (some (.prefixOp t t.literal (parseExpr prefixStrength ⟨toks, errs⟩).val),
        (parseExpr prefixStrength ⟨toks, errs⟩).state)
  := by
  have hop : (parsePrefixOp ⟨t :: toks, errs⟩ (List.cons_ne_nil _ _)).out
      = (some (.prefixOp t t.literal (parseExpr prefixStrength ⟨toks, errs⟩).val),
          (parseExpr prefixStrength ⟨toks, errs⟩).state) := by
    rw [parsePrefixOp]
    dsimp only [cur, advance, List.headD_cons, List.tail_cons]
    rcases parseExpr prefixStrength ⟨toks, errs⟩ with ⟨r, u, hu⟩
    rfl
  rw [parsePrefix]
  dsimp only [cur, List.headD_cons]
  rcases ht with ht | ht <;>
  · simp only [List.cons_ne_nil, ↓reduceDIte, ht]
    exact hop

/-- A name stands for itself, continued by the operators after it. -/
theorem parseExpr_ident (prec : Nat) {t : Token} (ht : t.kind = .ident) (toks : List Token)
    (errs : Array String) :
  (parseExpr prec ⟨t :: toks, errs⟩).out
    = (infixLoop prec (some (.ident ⟨t, t.literal⟩)) ⟨t :: toks, errs⟩).out
  := parseExpr_of_parsePrefix (by simp [cur, ht, startsExpr]) (parsePrefix_ident ht toks errs)

/-- A numeral without a point that reads as an integer stands for that integer, continued by
the operators after it. -/
theorem parseExpr_int (prec : Nat) {t : Token} (ht : t.kind = .int) {n : Int}
    (hdot : '.' ∉ t.literal.toList) (hn : Decimal.readInt? t.literal = some n)
    (toks : List Token) (errs : Array String) :
  (parseExpr prec ⟨t :: toks, errs⟩).out
    = (infixLoop prec (some (.number t (.int n))) ⟨t :: toks, errs⟩).out
  := parseExpr_of_parsePrefix (by simp [cur, ht, startsExpr]) (parsePrefix_int ht hdot hn toks errs)

/-- `!` and `-` apply to an expression read at the prefix strength, and the result is
continued by the operators after it. -/
theorem parseExpr_prefixOp (prec : Nat) {t : Token} (ht : t.kind = .bang ∨ t.kind = .minus)
    (toks : List Token) (errs : Array String) :
  (parseExpr prec ⟨t :: toks, errs⟩).out
    = (infixLoop prec (some (.prefixOp t t.literal (parseExpr prefixStrength ⟨toks, errs⟩).val))
        (parseExpr prefixStrength ⟨toks, errs⟩).state).out
  := parseExpr_of_parsePrefix (by rcases ht with ht | ht <;> simp [cur, ht, startsExpr])
    (parsePrefix_prefixOp ht toks errs)

/-! ### Moving over fixed tokens -/

/-- `expect` moves to the next token when it has the expected kind. -/
theorem expect_next {t d : Token} {toks : List Token} {errs : Array String} {k : TokenKind}
    (hd : d.kind = k) :
  Parser.expect ⟨t :: d :: toks, errs⟩ k = .ok ⟨d :: toks, errs⟩
  := by
  simp [expect, hd]

/-- A `;` after the current token is passed over. -/
theorem skipSemicolon_next {t d : Token} {toks : List Token} {errs : Array String}
    (hd : d.kind = .semicolon) :
  Parser.skipSemicolon ⟨t :: d :: toks, errs⟩ = ⟨d :: toks, errs⟩
  := by
  simp [skipSemicolon, peek, hd, advance]

/-- The operator loop stops before a token that binds at no strength: a closing bracket, a
separator, or the end of a statement. -/
theorem continues_of_strength_zero {t d : Token} {toks : List Token} {errs : Array String}
    {prec : Nat} (hd : d.kind.strength = 0) :
  Parser.continues ⟨t :: d :: toks, errs⟩ prec = false
  := by
  simp [continues, peek, hd]

theorem infixLoop_stop_at {prec : Nat} {left : Option Expr} {t d : Token} {toks : List Token}
    {errs : Array String} (hd : d.kind.strength = 0) :
  (infixLoop prec left ⟨t :: d :: toks, errs⟩).out = (left, ⟨t :: d :: toks, errs⟩)
  := infixLoop_stop (continues_of_strength_zero hd)

/-! ### Bracketed expressions -/

/-- A bracketed expression is the expression inside, read at the lowest strength, when its
closing bracket follows it. -/
theorem parseGrouped_out {lp t d : Token} {toks rest : List Token} {errs errs' : Array String}
    {e : Option Expr} (hin : (parseExpr 0 ⟨toks, errs⟩).out = (e, ⟨t :: d :: rest, errs'⟩))
    (hd : d.kind = .rparen) :
  (parseGrouped ⟨lp :: toks, errs⟩ (List.cons_ne_nil _ _)).out = (e, ⟨d :: rest, errs'⟩)
  := by
  rw [parseGrouped]
  dsimp only [advance, List.tail_cons]
  rcases hr : parseExpr 0 ⟨toks, errs⟩ with ⟨e', u, hu⟩
  rw [hr] at hin
  simp only [Step.out_mk, Prod.mk.injEq] at hin
  obtain ⟨rfl, rfl⟩ := hin
  split
  · rename_i r hex
    rw [expect_next hd] at hex
    cases hex
    rfl
  · rename_i r hex
    rw [expect_next hd] at hex
    cases hex

theorem parsePrefix_grouped {t : Token} (ht : t.kind = .lparen) (toks : List Token)
    (errs : Array String) :
  (parsePrefix ⟨t :: toks, errs⟩).out
    = (parseGrouped ⟨t :: toks, errs⟩ (List.cons_ne_nil _ _)).out
  := by
  rw [parsePrefix]
  dsimp only [cur, List.headD_cons]
  simp only [List.cons_ne_nil, ↓reduceDIte, ht]

/-! ### Lists of expressions -/

/-- A list closed at once is empty. -/
theorem exprList_empty {o c : Token} {toks : List Token} {errs : Array String} {close : TokenKind}
    (hc : c.kind = close) :
  (exprList close ⟨o :: c :: toks, errs⟩ (List.cons_ne_nil _ _)).out
    = (some [], ⟨c :: toks, errs⟩)
  := by
  rw [exprList]
  simp [peek, hc, advance]

/-- A list that is not closed at once is its first element, read at the lowest strength, and
the rest of the list after it. -/
theorem exprList_first {o : Token} {toks : List Token} {errs : Array String} {close : TokenKind}
    (hc : (Parser.peek ⟨o :: toks, errs⟩).kind ≠ close) {e : Option Expr} {q : Parser}
    (he : (parseExpr 0 ⟨toks, errs⟩).out = (e, q)) :
  (exprList close ⟨o :: toks, errs⟩ (List.cons_ne_nil _ _)).out
    = (exprListLoop close q #[e]).out
  := by
  rw [exprList]
  simp only [hc, if_false]
  dsimp only [advance, List.tail_cons]
  simp only [Step.out]
  rw [Step.val_eq he, Step.state_eq he]

/-- The list closes at its closing bracket, with the elements read so far. -/
theorem exprListLoop_close {t c : Token} {toks : List Token} {errs : Array String}
    {close : TokenKind} (hc : c.kind = close) (hcomma : close ≠ .comma)
    (acc : Array (Option Expr)) :
  (exprListLoop close ⟨t :: c :: toks, errs⟩ acc).out = (some acc.toList, ⟨c :: toks, errs⟩)
  := by
  rw [exprListLoop]
  have hnc : (Parser.peek ⟨t :: c :: toks, errs⟩).kind ≠ .comma := by
    simpa [peek, hc] using hcomma
  simp only [hnc, ↓reduceDIte]
  rw [closeList]
  split
  · rename_i q hq
    rw [expect_next hc] at hq
    cases hq
    rfl
  · rename_i q hq
    rw [expect_next hc] at hq
    cases hq

/-- After a comma the list goes on with the next element, read at the lowest strength. -/
theorem exprListLoop_comma {t c : Token} {toks : List Token} {errs : Array String}
    {close : TokenKind} (hc : c.kind = .comma) (acc : Array (Option Expr)) {e : Option Expr}
    {q : Parser} (he : (parseExpr 0 ⟨toks, errs⟩).out = (e, q)) :
  (exprListLoop close ⟨t :: c :: toks, errs⟩ acc).out = (exprListLoop close q (acc.push e)).out
  := by
  rw [exprListLoop]
  have hpc : (Parser.peek ⟨t :: c :: toks, errs⟩).kind = .comma := by simpa [peek] using hc
  simp only [hpc, ↓reduceDIte]
  dsimp only [advance, List.tail_cons]
  simp only [Step.out]
  rw [Step.val_eq he, Step.state_eq he]

/-! ### Calls and indexing -/

/-- A call takes the expression read so far as its callee and its arguments as a list closed
by `)`. -/
theorem parseCall_out (left : Option Expr) (lp : Token) (toks : List Token)
    (errs : Array String) :
  (parseCall left ⟨lp :: toks, errs⟩ (List.cons_ne_nil _ _)).out
    = (some (.call lp left (exprList .rparen ⟨lp :: toks, errs⟩ (List.cons_ne_nil _ _)).val),
        (exprList .rparen ⟨lp :: toks, errs⟩ (List.cons_ne_nil _ _)).state)
  := by
  rw [parseCall]
  dsimp only [cur, List.headD_cons]
  rcases exprList .rparen ⟨lp :: toks, errs⟩ (List.cons_ne_nil _ _) with ⟨r, u, hu⟩
  rfl

/-- An opening parenthesis after an expression, in a loop started below the call strength,
makes a call of it, and the loop goes on after the call. -/
theorem infixLoop_call {prec : Nat} {left : Option Expr} {t lp : Token} {toks : List Token}
    {errs : Array String} (hlp : lp.kind = .lparen) (hprec : prec < 9) :
  (infixLoop prec left ⟨t :: lp :: toks, errs⟩).out
    = (infixLoop prec (parseCall left ⟨lp :: toks, errs⟩ (List.cons_ne_nil _ _)).val
        (parseCall left ⟨lp :: toks, errs⟩ (List.cons_ne_nil _ _)).state).out
  := by
  have hc : continues ⟨t :: lp :: toks, errs⟩ prec = true := by
    simp [continues, peek, hlp, TokenKind.strength, hprec]
  rw [infixLoop]
  simp only [hc, ↓reduceDIte]
  have hcur : (advance ⟨t :: lp :: toks, errs⟩).cur = lp := rfl
  split
  · simp only [Step.out]
    rfl
  · rename_i heq
    rw [hcur, hlp] at heq
    cases heq
  · rename_i h1 h2
    exact absurd (hcur ▸ hlp) h1

/-- An index reads its key at the lowest strength and takes the expression read so far as its
target, when `]` follows the key. -/
theorem parseIndex_out {left : Option Expr} {lb t d : Token} {toks rest : List Token}
    {errs errs' : Array String} {k : Option Expr}
    (hk : (parseExpr 0 ⟨toks, errs⟩).out = (k, ⟨t :: d :: rest, errs'⟩)) (hd : d.kind = .rbracket) :
  (parseIndex left ⟨lb :: toks, errs⟩ (List.cons_ne_nil _ _)).out
    = (some (.index lb left k), ⟨d :: rest, errs'⟩)
  := by
  rw [parseIndex]
  dsimp only [cur, advance, List.headD_cons, List.tail_cons]
  rcases hr : parseExpr 0 ⟨toks, errs⟩ with ⟨k', u, hu⟩
  rw [hr] at hk
  simp only [Step.out_mk, Prod.mk.injEq] at hk
  obtain ⟨rfl, rfl⟩ := hk
  split
  · rename_i r hex
    rw [expect_next hd] at hex
    cases hex
    rfl
  · rename_i r hex
    rw [expect_next hd] at hex
    cases hex

/-- An opening bracket after an expression makes an index of it, and the loop goes on after
the index. -/
theorem infixLoop_index {prec : Nat} {left : Option Expr} {t lb : Token} {toks : List Token}
    {errs : Array String} (hlb : lb.kind = .lbracket) (hprec : prec < 10) :
  (infixLoop prec left ⟨t :: lb :: toks, errs⟩).out
    = (infixLoop prec (parseIndex left ⟨lb :: toks, errs⟩ (List.cons_ne_nil _ _)).val
        (parseIndex left ⟨lb :: toks, errs⟩ (List.cons_ne_nil _ _)).state).out
  := by
  have hc : continues ⟨t :: lb :: toks, errs⟩ prec = true := by
    simp [continues, peek, hlb, TokenKind.strength, hprec]
  rw [infixLoop]
  simp only [hc, ↓reduceDIte]
  have hcur : (advance ⟨t :: lb :: toks, errs⟩).cur = lb := rfl
  split
  · rename_i heq
    rw [hcur, hlb] at heq
    cases heq
  · simp only [Step.out]
    rfl
  · rename_i h1 h2
    exact absurd (hcur ▸ hlb) h2

/-! ### Literals, conditionals, functions and classes -/

theorem parsePrefix_true {t : Token} (ht : t.kind = .trueKw) (toks : List Token)
    (errs : Array String) :
  (parsePrefix ⟨t :: toks, errs⟩).out = (some (.boolean t true), ⟨t :: toks, errs⟩)
  := by
  rw [parsePrefix]
  dsimp only [cur, List.headD_cons]
  simp only [List.cons_ne_nil, ↓reduceDIte, ht]
  rfl

theorem parsePrefix_false {t : Token} (ht : t.kind = .falseKw) (toks : List Token)
    (errs : Array String) :
  (parsePrefix ⟨t :: toks, errs⟩).out = (some (.boolean t false), ⟨t :: toks, errs⟩)
  := by
  rw [parsePrefix]
  dsimp only [cur, List.headD_cons]
  simp only [List.cons_ne_nil, ↓reduceDIte, ht]
  rfl

/-- A numeral with a point that reads as a double is read as that double. -/
theorem parsePrefix_float {t : Token} (ht : t.kind = .int) {x : Float}
    (hdot : '.' ∈ t.literal.toList) (hx : Decimal.readFloat? t.literal = some x)
    (toks : List Token) (errs : Array String) :
  (parsePrefix ⟨t :: toks, errs⟩).out = (some (.number t (.float x)), ⟨t :: toks, errs⟩)
  := by
  rw [parsePrefix]
  dsimp only [cur, List.headD_cons]
  simp only [List.cons_ne_nil, ↓reduceDIte, ht]
  simp [numberLiteral, cur, String.contains_char_eq, hdot, hx, Step.out]

theorem parsePrefix_if {t : Token} (ht : t.kind = .ifKw) (toks : List Token)
    (errs : Array String) :
  (parsePrefix ⟨t :: toks, errs⟩).out = (parseIf ⟨t :: toks, errs⟩).out
  := by
  rw [parsePrefix]
  dsimp only [cur, List.headD_cons]
  simp only [List.cons_ne_nil, ↓reduceDIte, ht]

theorem parsePrefix_function {t : Token} (ht : t.kind = .fnKw) (toks : List Token)
    (errs : Array String) :
  (parsePrefix ⟨t :: toks, errs⟩).out = (parseFunction ⟨t :: toks, errs⟩).out
  := by
  rw [parsePrefix]
  dsimp only [cur, List.headD_cons]
  simp only [List.cons_ne_nil, ↓reduceDIte, ht]

theorem parsePrefix_class {t : Token} (ht : t.kind = .classKw) (toks : List Token)
    (errs : Array String) :
  (parsePrefix ⟨t :: toks, errs⟩).out = (parseClass ⟨t :: toks, errs⟩).out
  := by
  rw [parsePrefix]
  dsimp only [cur, List.headD_cons]
  simp only [List.cons_ne_nil, ↓reduceDIte, ht]

theorem parsePrefix_array {t : Token} (ht : t.kind = .lbracket) (toks : List Token)
    (errs : Array String) :
  (parsePrefix ⟨t :: toks, errs⟩).out
    = (parseArray ⟨t :: toks, errs⟩ (List.cons_ne_nil _ _)).out
  := by
  rw [parsePrefix]
  dsimp only [cur, List.headD_cons]
  simp only [List.cons_ne_nil, ↓reduceDIte, ht]

theorem parsePrefix_hash {t : Token} (ht : t.kind = .lbrace) (toks : List Token)
    (errs : Array String) :
  (parsePrefix ⟨t :: toks, errs⟩).out
    = (parseHash ⟨t :: toks, errs⟩ (List.cons_ne_nil _ _)).out
  := by
  rw [parsePrefix]
  dsimp only [cur, List.headD_cons]
  simp only [List.cons_ne_nil, ↓reduceDIte, ht]

/-- A conditional without `else`: its condition read inside parentheses, then a block that no
`else` follows. -/
theorem parseIf_then {t lp x rp lb : Token} {toks rest : List Token} {errs errs' : Array String}
    (hlp : lp.kind = .lparen) {c : Option Expr}
    (hc : (parseExpr 0 ⟨toks, errs⟩).out = (c, ⟨x :: rp :: lb :: rest, errs'⟩))
    (hrp : rp.kind = .rparen) (hlb : lb.kind = .lbrace) {yes : Block} {v : Parser}
    (hy : (parseBlock ⟨lb :: rest, errs'⟩ (List.cons_ne_nil _ _)).out = (yes, v))
    (hv : v.peek.kind ≠ .elseKw) :
  (parseIf ⟨t :: lp :: toks, errs⟩).out = (some (.ifElse t c yes none), v)
  := by
  rw [parseIf]
  split
  · rename_i q hq
    rw [expect_next hlp] at hq
    cases hq
  · rename_i q hq
    rw [expect_next hlp] at hq
    cases hq
    dsimp only [advance, List.tail_cons]
    split
    · rename_i s hs
      rw [Step.state_eq hc, expect_next hrp] at hs
      cases hs
    · rename_i s hs
      rw [Step.state_eq hc, expect_next hrp] at hs
      cases hs
      split
      · rename_i u hu
        rw [expect_next hlb] at hu
        cases hu
      · rename_i u hu
        rw [expect_next hlb] at hu
        cases hu
        have hv' : (parseBlock ⟨lb :: rest, errs'⟩ (List.cons_ne_nil _ _)).state.peek.kind
            ≠ .elseKw := by
          rw [Step.state_eq hy]
          exact hv
        rw [if_neg hv']
        simp only [Step.out, Prod.mk.injEq]
        rw [Step.val_eq hc, Step.val_eq hy, Step.state_eq hy]
        exact ⟨rfl, rfl⟩

/-- A conditional with `else`: its condition read inside parentheses, then a block, `else` and
a second block. -/
theorem parseIf_else {t lp x rp lb y e lb' : Token} {toks rest rest' : List Token}
    {errs errs' errs'' : Array String} (hlp : lp.kind = .lparen) {c : Option Expr}
    (hc : (parseExpr 0 ⟨toks, errs⟩).out = (c, ⟨x :: rp :: lb :: rest, errs'⟩))
    (hrp : rp.kind = .rparen) (hlb : lb.kind = .lbrace) {yes : Block}
    (hy : (parseBlock ⟨lb :: rest, errs'⟩ (List.cons_ne_nil _ _)).out
      = (yes, ⟨y :: e :: lb' :: rest', errs''⟩))
    (he : e.kind = .elseKw) (hlb' : lb'.kind = .lbrace) {no : Block} {w : Parser}
    (hn : (parseBlock ⟨lb' :: rest', errs''⟩ (List.cons_ne_nil _ _)).out = (no, w)) :
  (parseIf ⟨t :: lp :: toks, errs⟩).out = (some (.ifElse t c yes (some no)), w)
  := by
  rw [parseIf]
  split
  · rename_i q hq
    rw [expect_next hlp] at hq
    cases hq
  · rename_i q hq
    rw [expect_next hlp] at hq
    cases hq
    dsimp only [advance, List.tail_cons]
    split
    · rename_i s hs
      rw [Step.state_eq hc, expect_next hrp] at hs
      cases hs
    · rename_i s hs
      rw [Step.state_eq hc, expect_next hrp] at hs
      cases hs
      split
      · rename_i u hu
        rw [expect_next hlb] at hu
        cases hu
      · rename_i u hu
        rw [expect_next hlb] at hu
        cases hu
        have he' : (parseBlock ⟨lb :: rest, errs'⟩ (List.cons_ne_nil _ _)).state.peek.kind
            = .elseKw := by
          rw [Step.state_eq hy]
          exact he
        rw [if_pos he']
        split
        · rename_i w' hw
          rw [Step.state_eq hy] at hw
          dsimp only [List.tail_cons] at hw
          rw [expect_next hlb'] at hw
          cases hw
        · rename_i w' hw
          rw [Step.state_eq hy] at hw
          dsimp only [List.tail_cons] at hw
          rw [expect_next hlb'] at hw
          cases hw
          simp only [Step.out, Prod.mk.injEq]
          rw [Step.val_eq hc, Step.val_eq hy, Step.val_eq hn, Step.state_eq hn]
          exact ⟨rfl, rfl⟩

/-- An empty parameter list. -/
theorem params_empty {lp rp : Token} {rest : List Token} {errs : Array String}
    (hrp : rp.kind = .rparen) :
  (params ⟨lp :: rp :: rest, errs⟩).out = (some [], ⟨rp :: rest, errs⟩)
  := by
  rw [params]
  simp [peek, hrp, advance]

/-- A parameter list that is not closed at once starts with a name made of the token after
`(`. -/
theorem params_first {lp n : Token} {toks : List Token} {errs : Array String}
    (hn : n.kind ≠ .rparen) :
  (params ⟨lp :: n :: toks, errs⟩).out = (paramsLoop ⟨n :: toks, errs⟩ #[⟨n, n.literal⟩]).out
  := by
  rw [params]
  simp only [peek, hn, if_false]
  rfl

/-- The parameter list closes at `)`. -/
theorem paramsLoop_close {n rp : Token} {rest : List Token} {errs : Array String}
    (hrp : rp.kind = .rparen) (acc : Array Ident) :
  (paramsLoop ⟨n :: rp :: rest, errs⟩ acc).out = (some acc.toList, ⟨rp :: rest, errs⟩)
  := by
  have hnc : (Parser.peek ⟨n :: rp :: rest, errs⟩).kind ≠ .comma := by simp [peek, hrp]
  rw [paramsLoop]
  simp only [hnc, ↓reduceDIte]
  rw [closeParams]
  split
  · rename_i q hq
    rw [expect_next hrp] at hq
    cases hq
    rfl
  · rename_i q hq
    rw [expect_next hrp] at hq
    cases hq

/-- After a comma the next parameter is the name made of the token after it. -/
theorem paramsLoop_comma {n c m : Token} {rest : List Token} {errs : Array String}
    (hc : c.kind = .comma) (acc : Array Ident) :
  (paramsLoop ⟨n :: c :: m :: rest, errs⟩ acc).out
    = (paramsLoop ⟨m :: rest, errs⟩ (acc.push ⟨m, m.literal⟩)).out
  := by
  have hpc : (Parser.peek ⟨n :: c :: m :: rest, errs⟩).kind = .comma := by simpa [peek] using hc
  rw [paramsLoop]
  simp only [hpc, ↓reduceDIte]
  rfl

/-- A function literal: its parameter list, then its body. -/
theorem parseFunction_out {t lp x lb : Token} {toks rest : List Token}
    {errs errs' : Array String} (hlp : lp.kind = .lparen) {ps : Option (List Ident)}
    (hps : (params ⟨lp :: toks, errs⟩).out = (ps, ⟨x :: lb :: rest, errs'⟩))
    (hlb : lb.kind = .lbrace) {body : Block} {u : Parser}
    (hb : (parseBlock ⟨lb :: rest, errs'⟩ (List.cons_ne_nil _ _)).out = (body, u)) :
  (parseFunction ⟨t :: lp :: toks, errs⟩).out = (some (.function t ps body), u)
  := by
  rw [parseFunction]
  split
  · rename_i q hq
    rw [expect_next hlp] at hq
    cases hq
  · rename_i q hq
    rw [expect_next hlp] at hq
    cases hq
    split
    rename_i ps' r hr hps'
    rw [hps', Step.out_mk, Prod.mk.injEq] at hps
    obtain ⟨rfl, rfl⟩ := hps
    split
    · rename_i s hs
      rw [expect_next hlb] at hs
      cases hs
    · rename_i s hs
      rw [expect_next hlb] at hs
      cases hs
      simp only [Step.out, Prod.mk.injEq]
      rw [Step.val_eq hb, Step.state_eq hb]
      exact ⟨rfl, rfl⟩

/-- A class literal: its body. -/
theorem parseClass_out {t lb : Token} {toks : List Token} {errs : Array String}
    (hlb : lb.kind = .lbrace) {body : Block} {u : Parser}
    (hb : (parseBlock ⟨lb :: toks, errs⟩ (List.cons_ne_nil _ _)).out = (body, u)) :
  (parseClass ⟨t :: lb :: toks, errs⟩).out = (some (.classDef t body), u)
  := by
  rw [parseClass]
  split
  · rename_i q hq
    rw [expect_next hlb] at hq
    cases hq
  · rename_i q hq
    rw [expect_next hlb] at hq
    cases hq
    simp only [Step.out, Prod.mk.injEq]
    rw [Step.val_eq hb, Step.state_eq hb]
    exact ⟨rfl, rfl⟩

/-! ### Array and hash literals -/

/-- An array literal: its elements, a list closed by `]`. -/
theorem parseArray_out (lb : Token) (toks : List Token) (errs : Array String) :
  (parseArray ⟨lb :: toks, errs⟩ (List.cons_ne_nil _ _)).out
    = (some (.array lb (exprList .rbracket ⟨lb :: toks, errs⟩ (List.cons_ne_nil _ _)).val),
        (exprList .rbracket ⟨lb :: toks, errs⟩ (List.cons_ne_nil _ _)).state)
  := by
  rw [parseArray]
  rfl

/-- A hash literal closes at `}`, with the pairs read so far. -/
theorem hashLoop_close {t rb : Token} {rest : List Token} {errs : Array String}
    (hrb : rb.kind = .rbrace) (acc : List (Option Expr × Option Expr)) :
  (hashLoop ⟨t :: rb :: rest, errs⟩ (List.cons_ne_nil _ _) acc).out
    = (some acc, ⟨rb :: rest, errs⟩)
  := by
  have hp : (Parser.peek ⟨t :: rb :: rest, errs⟩).kind = .rbrace := by simpa [peek] using hrb
  rw [hashLoop]
  simp only [hp, if_true]
  split
  · rename_i q hq
    rw [expect_next hrb] at hq
    cases hq
    rfl
  · rename_i q hq
    rw [expect_next hrb] at hq
    cases hq

/-- The last pair of a hash literal: its key read at the lowest strength up to `:`, then its
value up to `}`. -/
theorem hashLoop_last {t : Token} {toks : List Token} {errs : Array String}
    (ht : (Parser.peek ⟨t :: toks, errs⟩).kind ≠ .rbrace) {key : Option Expr} {x col : Token}
    {toks' : List Token} {errs' : Array String}
    (hk : (parseExpr 0 ⟨toks, errs⟩).out = (key, ⟨x :: col :: toks', errs'⟩))
    (hcol : col.kind = .colon) {value : Option Expr} {y rb : Token} {rest : List Token}
    {errs'' : Array String}
    (hv : (parseExpr 0 ⟨toks', errs'⟩).out = (value, ⟨y :: rb :: rest, errs''⟩))
    (hrb : rb.kind = .rbrace) (acc : List (Option Expr × Option Expr)) :
  (hashLoop ⟨t :: toks, errs⟩ (List.cons_ne_nil _ _) acc).out
    = (some (putPair acc key value), ⟨rb :: rest, errs''⟩)
  := by
  have hp : (Parser.peek ⟨y :: rb :: rest, errs''⟩).kind = .rbrace := by simpa [peek] using hrb
  rw [hashLoop]
  simp only [ht, if_false]
  dsimp only [advance, List.tail_cons]
  split
  · rename_i r hr
    rw [Step.state_eq hk, expect_next hcol] at hr
    cases hr
  · rename_i r hr
    rw [Step.state_eq hk, expect_next hcol] at hr
    cases hr
    dsimp only [advance, List.tail_cons]
    have hp' : (parseExpr 0 ⟨toks', errs'⟩).state.peek.kind = .rbrace := by
      rw [Step.state_eq hv]
      exact hp
    simp only [hp', ↓reduceIte]
    split
    · rename_i u hu
      rw [Step.state_eq hv, expect_next hrb] at hu
      cases hu
      simp only [Step.out, Step.val_eq hk, Step.val_eq hv]
    · rename_i u hu
      rw [Step.state_eq hv, expect_next hrb] at hu
      cases hu

/-- A pair of a hash literal followed by `,`: its key read at the lowest strength up to `:`,
then its value up to the comma, after which the literal goes on. -/
theorem hashLoop_more {t : Token} {toks : List Token} {errs : Array String}
    (ht : (Parser.peek ⟨t :: toks, errs⟩).kind ≠ .rbrace) {key : Option Expr} {x col : Token}
    {toks' : List Token} {errs' : Array String}
    (hk : (parseExpr 0 ⟨toks, errs⟩).out = (key, ⟨x :: col :: toks', errs'⟩))
    (hcol : col.kind = .colon) {value : Option Expr} {y cm : Token} {rest : List Token}
    {errs'' : Array String}
    (hv : (parseExpr 0 ⟨toks', errs'⟩).out = (value, ⟨y :: cm :: rest, errs''⟩))
    (hcm : cm.kind = .comma) (acc : List (Option Expr × Option Expr)) :
  (hashLoop ⟨t :: toks, errs⟩ (List.cons_ne_nil _ _) acc).out
    = (hashLoop ⟨cm :: rest, errs''⟩ (List.cons_ne_nil _ _) (putPair acc key value)).out
  := by
  have hp : (Parser.peek ⟨y :: cm :: rest, errs''⟩).kind ≠ .rbrace := by simp [peek, hcm]
  rw [hashLoop]
  simp only [ht, if_false]
  dsimp only [advance, List.tail_cons]
  split
  · rename_i r hr
    rw [Step.state_eq hk, expect_next hcol] at hr
    cases hr
  · rename_i r hr
    rw [Step.state_eq hk, expect_next hcol] at hr
    cases hr
    dsimp only [advance, List.tail_cons]
    have hp' : (parseExpr 0 ⟨toks', errs'⟩).state.peek.kind ≠ .rbrace := by
      rw [Step.state_eq hv]
      exact hp
    simp only [hp', ↓reduceIte]
    split
    · rename_i u hu
      rw [Step.state_eq hv, expect_next hcm] at hu
      cases hu
    · rename_i u hu
      rw [Step.state_eq hv, expect_next hcm] at hu
      cases hu
      simp only [Step.out, Prod.mk.injEq]
      rw [Step.val_eq hk, Step.val_eq hv]
      exact ⟨rfl, rfl⟩

/-- A hash literal holds the pairs its loop reads. -/
theorem parseHash_out {lb : Token} {toks : List Token} {errs : Array String}
    {pairs : List (Option Expr × Option Expr)} {u : Parser}
    (h : (hashLoop ⟨lb :: toks, errs⟩ (List.cons_ne_nil _ _) []).out = (some pairs, u)) :
  (parseHash ⟨lb :: toks, errs⟩ (List.cons_ne_nil _ _)).out = (some (.hash lb pairs), u)
  := by
  rw [parseHash]
  split
  · rename_i u' hu' heq
    rw [heq] at h
    cases h
  · rename_i pairs' u' hu' heq
    rw [heq] at h
    simp only [Step.out_mk, Prod.mk.injEq, Option.some.injEq] at h
    obtain ⟨rfl, rfl⟩ := h
    rfl

/-! ### Blocks -/

/-- A block holds the statements its loop reads after `{`. -/
theorem parseBlock_out {lb : Token} {toks : List Token} {errs : Array String} {ss : List Stmt}
    {u : Parser} (h : (blockLoop ⟨toks, errs⟩ #[]).out = (ss, u)) :
  (parseBlock ⟨lb :: toks, errs⟩ (List.cons_ne_nil _ _)).out = (.mk lb ss, u)
  := by
  rw [parseBlock]
  simp only [Step.out, Prod.mk.injEq] at h ⊢
  dsimp only [advance, List.tail_cons]
  rw [h.1, h.2]
  exact ⟨rfl, rfl⟩

/-- The statements of a block end at `}`. -/
theorem blockLoop_close {rb : Token} {rest : List Token} {errs : Array String}
    (hrb : rb.kind = .rbrace) (acc : Array Stmt) :
  (blockLoop ⟨rb :: rest, errs⟩ acc).out = (acc.toList, ⟨rb :: rest, errs⟩)
  := by
  rw [blockLoop]
  simp [cur, hrb]

/-- A statement read up to its `;` is kept, and the block goes on after the `;`. -/
theorem blockLoop_stmt {t : Token} {toks : List Token} {errs : Array String}
    (ht : t.kind ≠ .rbrace) {st : Stmt} {sc : Token} {rest : List Token} {errs' : Array String}
    (hs : (parseStatement ⟨t :: toks, errs⟩).out = (some st, ⟨sc :: rest, errs'⟩))
    (acc : Array Stmt) :
  (blockLoop ⟨t :: toks, errs⟩ acc).out = (blockLoop ⟨rest, errs'⟩ (acc.push st)).out
  := by
  rw [blockLoop]
  simp only [List.cons_ne_nil, ↓reduceDIte, cur, List.headD_cons, ht, if_false, Step.out]
  rw [Step.state_eq hs, Step.val_eq hs]
  rfl

/-! ### Statements -/

theorem parseStatement_let {t : Token} (ht : t.kind = .letKw) (toks : List Token)
    (errs : Array String) :
  (parseStatement ⟨t :: toks, errs⟩).out = (parseLet ⟨t :: toks, errs⟩).out
  := by
  rw [parseStatement]
  dsimp only [cur, List.headD_cons]
  simp only [List.cons_ne_nil, ↓reduceDIte, ht]

theorem parseStatement_return {t : Token} (ht : t.kind = .returnKw) (toks : List Token)
    (errs : Array String) :
  (parseStatement ⟨t :: toks, errs⟩).out
    = (parseReturn ⟨t :: toks, errs⟩ (List.cons_ne_nil _ _)).out
  := by
  rw [parseStatement]
  dsimp only [cur, List.headD_cons]
  simp only [List.cons_ne_nil, ↓reduceDIte, ht]

theorem parseStatement_assign {t a : Token} (ht : t.kind = .ident) (ha : a.kind = .assign)
    (toks : List Token) (errs : Array String) :
  (parseStatement ⟨t :: a :: toks, errs⟩).out = (parseAssign ⟨t :: a :: toks, errs⟩).out
  := by
  rw [parseStatement]
  dsimp only [cur, List.headD_cons]
  simp [ht, peek, ha]

theorem parseStatement_break {t sc : Token} (ht : t.kind = .breakKw) (hsc : sc.kind = .semicolon)
    (rest : List Token) (errs : Array String) :
  (parseStatement ⟨t :: sc :: rest, errs⟩).out = (some .breakStmt, ⟨sc :: rest, errs⟩)
  := by
  rw [parseStatement]
  dsimp only [cur, List.headD_cons]
  simp only [List.cons_ne_nil, ↓reduceDIte, ht]
  rw [Step.out_mk, skipSemicolon_next hsc]

theorem parseStatement_continue {t sc : Token} (ht : t.kind = .continueKw)
    (hsc : sc.kind = .semicolon) (rest : List Token) (errs : Array String) :
  (parseStatement ⟨t :: sc :: rest, errs⟩).out = (some .continueStmt, ⟨sc :: rest, errs⟩)
  := by
  rw [parseStatement]
  dsimp only [cur, List.headD_cons]
  simp only [List.cons_ne_nil, ↓reduceDIte, ht]
  rw [Step.out_mk, skipSemicolon_next hsc]

/-- `let name = value;`: the name is made of the token after `let`, and the value is read at
the lowest strength up to the `;`, which is passed. -/
theorem parseLet_out {t n a : Token} {toks : List Token} {errs : Array String}
    (hn : n.kind = .ident) (ha : a.kind = .assign) {v : Option Expr} {y sc : Token}
    {rest : List Token} {errs' : Array String}
    (hv : (parseExpr 0 ⟨toks, errs⟩).out = (v, ⟨y :: sc :: rest, errs'⟩))
    (hsc : sc.kind = .semicolon) :
  (parseLet ⟨t :: n :: a :: toks, errs⟩).out
    = (some (.letStmt t ⟨n, n.literal⟩ v none), ⟨sc :: rest, errs'⟩)
  := by
  have hfield : (letField ⟨n :: a :: toks, errs⟩).out = (none, ⟨n :: a :: toks, errs⟩) := by
    simp [letField, peek, ha]
  rw [parseLet]
  split
  · rename_i q hq
    rw [expect_next hn] at hq
    cases hq
  · rename_i q hq
    rw [expect_next hn] at hq
    cases hq
    split
    rename_i field r hr hfield'
    rw [hfield', Step.out_mk, Prod.mk.injEq] at hfield
    obtain ⟨rfl, rfl⟩ := hfield
    split
    · rename_i s hs
      rw [expect_next ha] at hs
      cases hs
    · rename_i s hs
      rw [expect_next ha] at hs
      cases hs
      dsimp only [advance, List.tail_cons]
      simp only [Step.out, Prod.mk.injEq]
      rw [Step.val_eq hv, Step.state_eq hv, skipSemicolon_next hsc]
      exact ⟨rfl, rfl⟩

/-- `return;` has no value. -/
theorem parseReturn_none {t sc : Token} {rest : List Token} {errs : Array String}
    (hsc : sc.kind = .semicolon) :
  (parseReturn ⟨t :: sc :: rest, errs⟩ (List.cons_ne_nil _ _)).out
    = (some (.returnStmt t none), ⟨sc :: rest, errs⟩)
  := by
  rw [parseReturn]
  simp [advance, cur, hsc]

/-- `return value;`: the value is read at the lowest strength up to the `;`, which is
passed. -/
theorem parseReturn_some {t f : Token} {toks : List Token} {errs : Array String}
    (hf : f.kind ≠ .semicolon) {v : Option Expr} {y sc : Token} {rest : List Token}
    {errs' : Array String}
    (hv : (parseExpr 0 ⟨f :: toks, errs⟩).out = (v, ⟨y :: sc :: rest, errs'⟩))
    (hsc : sc.kind = .semicolon) :
  (parseReturn ⟨t :: f :: toks, errs⟩ (List.cons_ne_nil _ _)).out
    = (some (.returnStmt t v), ⟨sc :: rest, errs'⟩)
  := by
  rw [parseReturn]
  simp only [advance, cur, List.tail_cons, List.headD_cons, hf, if_false]
  simp only [Step.out, Prod.mk.injEq]
  rw [Step.val_eq hv, Step.state_eq hv, skipSemicolon_next hsc]
  exact ⟨rfl, rfl⟩

/-- `name = value;`: the value is read at the lowest strength up to the `;`, which is
passed. -/
theorem parseAssign_out {n a : Token} {toks : List Token} {errs : Array String}
    (ha : a.kind = .assign) {v : Option Expr} {y sc : Token} {rest : List Token}
    {errs' : Array String}
    (hv : (parseExpr 0 ⟨toks, errs⟩).out = (v, ⟨y :: sc :: rest, errs'⟩))
    (hsc : sc.kind = .semicolon) :
  (parseAssign ⟨n :: a :: toks, errs⟩).out
    = (some (.assign ⟨.assign, "="⟩ ⟨n, n.literal⟩ v), ⟨sc :: rest, errs'⟩)
  := by
  rw [parseAssign]
  split
  · rename_i q hq
    rw [expect_next ha] at hq
    cases hq
  · rename_i q hq
    rw [expect_next ha] at hq
    cases hq
    dsimp only [advance, List.tail_cons]
    simp only [Step.out, Prod.mk.injEq]
    rw [Step.val_eq hv, Step.state_eq hv, skipSemicolon_next hsc]
    exact ⟨rfl, rfl⟩

/-- An expression statement is the expression read at the lowest strength, with the `;` after
it passed over. -/
theorem parseExprStmt_out (p : Parser) :
  (parseExprStmt p).out
    = (some (.exprStmt p.cur (parseExpr 0 p).val), (parseExpr 0 p).state.skipSemicolon)
  := by
  rw [parseExprStmt]
  rcases parseExpr 0 p with ⟨v, u, hu⟩
  rfl

/-- A statement whose first token is no statement keyword, and is no name followed by `=`, is
an expression statement. -/
theorem parseStatement_exprStmt {t : Token} {toks : List Token} {errs : Array String}
    (hkw : t.kind ≠ .letKw ∧ t.kind ≠ .returnKw ∧ t.kind ≠ .breakKw ∧ t.kind ≠ .continueKw)
    (hassign : t.kind = .ident → (Parser.peek ⟨t :: toks, errs⟩).kind ≠ .assign) :
  (parseStatement ⟨t :: toks, errs⟩).out = (parseExprStmt ⟨t :: toks, errs⟩).out
  := by
  obtain ⟨hlet, hret, hbrk, hcont⟩ := hkw
  rw [parseStatement]
  dsimp only [cur, List.headD_cons]
  simp only [List.cons_ne_nil, ↓reduceDIte]
  split
  · contradiction
  · contradiction
  · rename_i hid
    simp [hassign hid]
  · contradiction
  · contradiction
  · rfl

/-- Nothing follows a last token: no `;` to pass. -/
theorem skipSemicolon_single (t : Token) (errs : Array String) :
  Parser.skipSemicolon ⟨[t], errs⟩ = ⟨[t], errs⟩
  := by
  simp [skipSemicolon, peek, Token.eof]

/-- A program ends with its tokens. -/
theorem programLoop_nil (errs : Array String) (acc : Array Stmt) :
  programLoop ⟨[], errs⟩ acc = (acc, ⟨[], errs⟩)
  := by
  rw [programLoop]
  simp

/-- A statement read up to its `;` is kept, and the program goes on after the `;`. -/
theorem programLoop_cons {t : Token} {toks : List Token} {errs : Array String} {st : Stmt}
    {sc : Token} {rest : List Token} {errs' : Array String}
    (hs : (parseStatement ⟨t :: toks, errs⟩).out = (some st, ⟨sc :: rest, errs'⟩))
    (acc : Array Stmt) :
  programLoop ⟨t :: toks, errs⟩ acc = programLoop ⟨rest, errs'⟩ (acc.push st)
  := by
  rw [programLoop]
  simp only [List.cons_ne_nil, ↓reduceDIte]
  rcases hr : parseStatement ⟨t :: toks, errs⟩ with ⟨v, q, hq⟩
  rw [hr] at hs
  simp only [Step.out_mk, Prod.mk.injEq] at hs
  obtain ⟨rfl, rfl⟩ := hs
  rfl

/-- A program whose first statement is read with only its last token left is that statement
alone, with the errors met in reading it. -/
theorem programLoop_single {p : Parser} (hp : p.toks ≠ []) {st : Stmt} {t : Token}
    {errs : Array String} (h : (parseStatement p).out = (some st, ⟨[t], errs⟩))
    (acc : Array Stmt) :
  programLoop p acc = (acc.push st, ⟨[], errs⟩)
  := by
  rw [programLoop]
  simp only [hp, ↓reduceDIte]
  rcases hs : parseStatement p with ⟨v, q, hq⟩
  rw [hs] at h
  simp only [Step.out_mk, Prod.mk.injEq] at h
  obtain ⟨rfl, rfl⟩ := h
  dsimp only
  rw [programLoop]
  rfl

end Parser

end Monkey
