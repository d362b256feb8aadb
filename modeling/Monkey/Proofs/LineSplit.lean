import Monkey.Proofs.Holes
import Monkey.Proofs.Lookahead

/-!
# A program read line by line

Lines whose statements each end on one of their own tokens, the last on a final `;`, are read
the same one by one as joined: the statements of the joined tokens are those of the lines, in
order (`Parsed.ofTokens_flatten`).

Every statement but a line's last ends with two tokens left, and reads the same when more
tokens follow (`Parser.statement_extends`). The last one ends with its final `;` alone. It is
not a `return`, so it is a `let`, an assignment, an expression, `break` or `continue`, and its
expression, being complete, does not end on the `;` (`Parser.expr_ends`): so the expression ends
with two tokens left, and the statement reads the same too (`Parser.statement_last`).
-/

namespace Monkey

/-- Whether a statement is a `return`. -/
def Stmt.isReturn : Stmt → Bool
  | .returnStmt .. => true
  | _ => false

namespace Parser

variable {p q : Parser} {rest : List Token}

theorem cur_advance (p : Parser) :
  p.advance.cur = p.peek
  := by
  obtain ⟨toks, errs⟩ := p
  match toks with
  | [] => rfl
  | [_] => rfl
  | _ :: _ :: _ => rfl

theorem expect_ok_cur {k : TokenKind} (h : p.expect k = .ok q) :
  q.cur.kind = k
  := by
  unfold expect at h
  split at h
  · split at h
    · cases h
      simpa [cur]
    · cases h
  · cases h

/-! ## Where a complete expression ends -/

/-- A step whose value satisfies `C` does not end on a `;`. -/
def EndsOff {α : Type} (C : α → Bool) (v : α) (q : Parser) : Prop :=
  C v = true → q.cur.kind ≠ .semicolon

/-- The statements of a block stop at its `}` or at the end of the input. -/
theorem blockLoop_end (p : Parser) (acc : Array Stmt) :
  (Parser.blockLoop p acc).state.cur.kind ≠ .semicolon
  := by
  rw [Parser.blockLoop]
  split
  · rename_i hp
    simp [cur, hp, Token.eof]
  rename_i hp
  split
  · rename_i hc
    rw [hc]
    decide
  generalize parseStatement p = st
  obtain ⟨s, q, hq⟩ := st
  have hlt : q.advance.toks.length < p.toks.length := by
    have := length_pos hp
    rw [length_advance]
    omega
  exact blockLoop_end q.advance _
termination_by p.toks.length

theorem block_end (p : Parser) (hp : p.toks ≠ []) :
  (parseBlock p hp).state.cur.kind ≠ .semicolon
  := by
  rw [parseBlock]
  exact blockLoop_end p.advance #[]

/-- A list of expressions that was closed stops at its closing bracket. -/
theorem exprListLoop_closes (close : TokenKind) (p : Parser) (acc : Array (Option Expr))
    (h : Expr.completeArgs (Parser.exprListLoop close p acc).val = true) :
  (Parser.exprListLoop close p acc).state.cur.kind = close
  := by
  generalize hx : Parser.exprListLoop close p acc = x at h ⊢
  rw [Parser.exprListLoop] at hx
  split at hx
  · rename_i hc
    dsimp only at hx
    generalize parseExpr 0 p.advance.advance = st at hx
    obtain ⟨e, u, hu⟩ := st
    subst hx
    have hlt : u.toks.length < p.toks.length := by
      have := two_le_of_peek (by rw [hc]; decide)
      have := length_advance p
      have := length_advance p.advance
      omega
    exact exprListLoop_closes close u _ h
  · subst hx
    unfold closeList at h ⊢
    split at h
    · exact expect_ok_cur ‹_›
    · simp [Expr.completeArgs] at h
termination_by p.toks.length

theorem exprList_closes (close : TokenKind) (p : Parser) (hp : p.toks ≠ [])
    (h : Expr.completeArgs (Parser.exprList close p hp).val = true) :
  (Parser.exprList close p hp).state.cur.kind = close
  := by
  have hl := exprListLoop_closes close
  generalize hx : Parser.exprList close p hp = x at h ⊢
  rw [Parser.exprList] at hx
  split at hx
  · subst hx
    rw [cur_advance]
    assumption
  · dsimp only at hx
    generalize parseExpr 0 p.advance = st at hx
    obtain ⟨e, u, hu⟩ := st
    dsimp only at hx
    have hu' := hl u #[e]
    generalize Parser.exprListLoop close u #[e] = st at hx hu'
    obtain ⟨es, r, hr⟩ := st
    subst hx
    exact hu' h

/-- The pairs of a hash literal that were read stop at the closing brace. -/
theorem hashLoop_closes (p : Parser) (hp : p.toks ≠ []) (acc : List (Option Expr × Option Expr))
    (h : (Parser.hashLoop p hp acc).val.isSome) :
  (Parser.hashLoop p hp acc).state.cur.kind = .rbrace
  := by
  generalize hx : Parser.hashLoop p hp acc = x at h ⊢
  rw [Parser.hashLoop] at hx
  split at hx
  · split at hx
    · subst hx
      exact expect_ok_cur ‹_›
    · subst hx
      simp at h
  dsimp only at hx
  generalize parseExpr 0 p.advance = st at hx
  obtain ⟨key, q, hq⟩ := st
  dsimp only at hx
  split at hx
  · subst hx
    simp at h
  rename_i r hr
  generalize parseExpr 0 r.advance = st at hx
  obtain ⟨value, s, hs⟩ := st
  dsimp only at hx
  split at hx
  · split at hx
    · subst hx
      exact expect_ok_cur ‹_›
    · subst hx
      simp at h
  split at hx
  · subst hx
    simp at h
  rename_i u hu
  subst hx
  have hlt : u.toks.length < p.toks.length := by
    have := expect_ok_lt hu
    have := expect_ok_lt hr
    have := advance_le r
    have := advance_lt hp
    omega
  exact hashLoop_closes u _ _ h
termination_by p.toks.length

/-! The expressions that end on a closing token: a bracket, or the `}` of a block. -/

theorem grouped_ends (p : Parser) (hp : p.toks ≠ []) :
  EndsOff Expr.completeOpt (parseGrouped p hp).val (parseGrouped p hp).state
  := by
  intro hc
  generalize hx : parseGrouped p hp = x at hc ⊢
  rw [parseGrouped] at hx
  dsimp only at hx
  generalize parseExpr 0 p.advance = st at hx
  obtain ⟨e, u, hu⟩ := st
  dsimp only at hx
  split at hx
  · subst hx
    rw [expect_ok_cur ‹_›]
    decide
  · subst hx
    simp [Expr.completeOpt] at hc

theorem index_ends (left : Option Expr) (p : Parser) (hp : p.toks ≠ []) :
  EndsOff Expr.completeOpt (parseIndex left p hp).val (parseIndex left p hp).state
  := by
  intro hc
  generalize hx : parseIndex left p hp = x at hc ⊢
  rw [parseIndex] at hx
  dsimp only at hx
  generalize parseExpr 0 p.advance = st at hx
  obtain ⟨i, u, hu⟩ := st
  dsimp only at hx
  split at hx
  · subst hx
    rw [expect_ok_cur ‹_›]
    decide
  · subst hx
    simp [Expr.completeOpt] at hc

theorem call_ends (left : Option Expr) (p : Parser) (hp : p.toks ≠ []) :
  EndsOff Expr.completeOpt (parseCall left p hp).val (parseCall left p hp).state
  := by
  intro hc
  have hl := exprList_closes .rparen p hp
  generalize hx : parseCall left p hp = x at hc ⊢
  rw [parseCall] at hx
  dsimp only at hx
  generalize Parser.exprList .rparen p hp = st at hx hl
  obtain ⟨args, u, hu⟩ := st
  subst hx
  replace hc : (Expr.completeOpt left && Expr.completeArgs args) = true := hc
  simp only [Bool.and_eq_true] at hc
  rw [hl hc.2]
  decide

theorem array_ends (p : Parser) (hp : p.toks ≠ []) :
  EndsOff Expr.completeOpt (parseArray p hp).val (parseArray p hp).state
  := by
  intro hc
  have hl := exprList_closes .rbracket p hp
  generalize hx : parseArray p hp = x at hc ⊢
  rw [parseArray] at hx
  dsimp only at hx
  generalize Parser.exprList .rbracket p hp = st at hx hl
  obtain ⟨es, u, hu⟩ := st
  subst hx
  rw [hl hc]
  decide

theorem hash_ends (p : Parser) (hp : p.toks ≠ []) :
  EndsOff Expr.completeOpt (parseHash p hp).val (parseHash p hp).state
  := by
  intro hc
  have hl := hashLoop_closes p hp []
  generalize hx : parseHash p hp = x at hc ⊢
  rw [parseHash] at hx
  generalize Parser.hashLoop p hp [] = st at hx hl
  obtain ⟨pairs, u, hu⟩ := st
  cases pairs
  · subst hx
    simp [Expr.completeOpt] at hc
  · subst hx
    rw [hl rfl]
    decide

theorem ifElse_ends (p : Parser) :
  EndsOff Expr.completeOpt (parseIf p).val (parseIf p).state
  := by
  intro hc
  generalize hx : parseIf p = x at hc ⊢
  rw [parseIf] at hx
  split at hx
  · subst hx
    simp [Expr.completeOpt] at hc
  dsimp only at hx
  generalize parseExpr 0 _ = st at hx
  obtain ⟨cond, r, hr⟩ := st
  dsimp only at hx
  split at hx
  · subst hx
    simp [Expr.completeOpt] at hc
  split at hx
  · subst hx
    simp [Expr.completeOpt] at hc
  rename_i u hu
  have hyes := block_end u (expect_ok_ne_nil hu)
  generalize parseBlock u _ = st at hx hyes
  obtain ⟨yes, v, hv⟩ := st
  dsimp only at hx
  split at hx
  · split at hx
    · subst hx
      simp [Expr.completeOpt] at hc
    rename_i w hw
    have hno := block_end w (expect_ok_ne_nil hw)
    generalize parseBlock w _ = st at hx hno
    obtain ⟨no, y, hy⟩ := st
    subst hx
    exact hno
  · subst hx
    exact hyes

theorem whileLoop_ends (p : Parser) :
  EndsOff Expr.completeOpt (parseWhile p).val (parseWhile p).state
  := by
  intro hc
  generalize hx : parseWhile p = x at hc ⊢
  rw [parseWhile] at hx
  split at hx
  · subst hx
    simp [Expr.completeOpt] at hc
  dsimp only at hx
  generalize parseExpr 0 _ = st at hx
  obtain ⟨cond, r, hr⟩ := st
  dsimp only at hx
  split at hx
  · subst hx
    simp [Expr.completeOpt] at hc
  split at hx
  · subst hx
    simp [Expr.completeOpt] at hc
  rename_i u hu
  have hbody := block_end u (expect_ok_ne_nil hu)
  generalize parseBlock u _ = st at hx hbody
  obtain ⟨body, v, hv⟩ := st
  subst hx
  exact hbody

theorem forLoop_ends (p : Parser) :
  EndsOff Expr.completeOpt (parseFor p).val (parseFor p).state
  := by
  intro hc
  generalize hx : parseFor p = x at hc ⊢
  rw [parseFor] at hx
  split at hx
  · subst hx
    simp [Expr.completeOpt] at hc
  dsimp only at hx
  generalize Parser.forInit _ = st at hx
  obtain ⟨init, r, hr⟩ := st
  cases init with
  | none =>
    subst hx
    simp [Expr.completeOpt] at hc
  | some init =>
  dsimp only at hx
  generalize Parser.forCond _ = st at hx
  obtain ⟨cond, s, hs⟩ := st
  dsimp only at hx
  generalize Parser.forStep _ = st at hx
  obtain ⟨step, u, hu⟩ := st
  dsimp only at hx
  split at hx
  · split at hx
    · subst hx
      simp [Expr.completeOpt] at hc
    rename_i v hv
    have hbody := block_end v (expect_ok_ne_nil hv)
    generalize parseBlock v _ = st at hx hbody
    obtain ⟨body, w, hw⟩ := st
    subst hx
    exact hbody
  · subst hx
    simp [Expr.completeOpt] at hc

theorem function_ends (p : Parser) :
  EndsOff Expr.completeOpt (parseFunction p).val (parseFunction p).state
  := by
  intro hc
  generalize hx : parseFunction p = x at hc ⊢
  rw [parseFunction] at hx
  split at hx
  · subst hx
    simp [Expr.completeOpt] at hc
  dsimp only at hx
  generalize params _ = st at hx
  obtain ⟨ps, r, hr⟩ := st
  dsimp only at hx
  split at hx
  · subst hx
    simp [Expr.completeOpt] at hc
  rename_i s hs
  have hbody := block_end s (expect_ok_ne_nil hs)
  generalize parseBlock s _ = st at hx hbody
  obtain ⟨body, u, hu⟩ := st
  subst hx
  exact hbody

theorem classDef_ends (p : Parser) :
  EndsOff Expr.completeOpt (parseClass p).val (parseClass p).state
  := by
  intro hc
  generalize hx : parseClass p = x at hc ⊢
  rw [parseClass] at hx
  split at hx
  · subst hx
    simp [Expr.completeOpt] at hc
  rename_i q hq
  have hbody := block_end q (expect_ok_ne_nil hq)
  generalize parseBlock q _ = st at hx hbody
  obtain ⟨body, u, hu⟩ := st
  subst hx
  exact hbody

/-! The expressions that end where their last operand does. -/

theorem prefixOp_ends (hp : p.toks ≠ [])
    (h : EndsOff Expr.completeOpt (parseExpr prefixStrength p.advance).val
      (parseExpr prefixStrength p.advance).state) :
  EndsOff Expr.completeOpt (parsePrefixOp p hp).val (parsePrefixOp p hp).state
  := by
  intro hc
  generalize hx : parsePrefixOp p hp = x at hc ⊢
  rw [parsePrefixOp] at hx
  dsimp only at hx
  generalize parseExpr prefixStrength p.advance = st at hx h
  obtain ⟨r, u, hu⟩ := st
  subst hx
  exact h hc

theorem infixOp_ends (left : Option Expr) (hp : p.toks ≠ [])
    (h : EndsOff Expr.completeOpt (parseExpr p.cur.kind.strength p.advance).val
      (parseExpr p.cur.kind.strength p.advance).state) :
  EndsOff Expr.completeOpt (parseInfix left p hp).val (parseInfix left p hp).state
  := by
  intro hc
  generalize hx : parseInfix left p hp = x at hc ⊢
  rw [parseInfix] at hx
  dsimp only at hx
  generalize parseExpr p.cur.kind.strength p.advance = st at hx h
  obtain ⟨r, u, hu⟩ := st
  subst hx
  replace hc : (Expr.completeOpt left && Expr.completeOpt r) = true := hc
  simp only [Bool.and_eq_true] at hc
  exact h hc.2

theorem numberLiteral_ends (p : Parser) (hk : p.cur.kind = .int) :
  EndsOff Expr.completeOpt (numberLiteral p).val (numberLiteral p).state
  := by
  intro _
  have hcur : (numberLiteral p).state.cur = p.cur := by
    unfold numberLiteral
    dsimp only
    split <;> split <;> rfl
  rw [hcur, hk]
  decide

/-- Where a complete expression, its first part and the operators after it end, for the
calls whose measure is below `n`. The operators after the first part may be none, and then
the loop ends where it started. -/
structure EndsWell (n : Nat) : Prop where
  expr : ∀ prec p, p.toks.length * 8 + 4 < n →
    EndsOff Expr.completeOpt (parseExpr prec p).val (parseExpr prec p).state
  first : ∀ p, p.toks.length * 8 + 3 < n →
    EndsOff Expr.completeOpt (parsePrefix p).val (parsePrefix p).state
  loop : ∀ prec left p, p.toks.length * 8 + 3 < n →
    ((infixLoop prec left p).state = p ∧ (infixLoop prec left p).val = left) ∨
      EndsOff Expr.completeOpt (infixLoop prec left p).val (infixLoop prec left p).state

namespace EndsWell

theorem expr_step (prec : Nat) (ih : EndsWell (p.toks.length * 8 + 4)) :
  EndsOff Expr.completeOpt (parseExpr prec p).val (parseExpr prec p).state
  := by
  intro hc
  generalize hx : parseExpr prec p = x at hc ⊢
  rw [parseExpr] at hx
  split at hx
  · subst hx
    simp [noPrefix, Expr.completeOpt] at hc
  have hf := ih.first p (by omega)
  generalize parsePrefix p = st at hx hf
  obtain ⟨left, q, hq⟩ := st
  dsimp only at hx
  have hl := ih.loop prec left q (by omega)
  generalize infixLoop prec left q = st at hx hl
  obtain ⟨e, r, hr⟩ := st
  subst hx
  rcases hl with ⟨hrq, hel⟩ | hl
  · dsimp only at hrq hel ⊢
    subst hrq hel
    exact hf hc
  · exact hl hc

theorem first_step (ih : EndsWell (p.toks.length * 8 + 3)) :
  EndsOff Expr.completeOpt (parsePrefix p).val (parsePrefix p).state
  := by
  generalize hx : parsePrefix p = x
  rw [parsePrefix] at hx
  split at hx
  · subst hx
    intro hc
    simp [noPrefix, Expr.completeOpt] at hc
  rename_i hp
  dsimp only at hx
  have he := ih.expr prefixStrength p.advance (by have := advance_lt hp; omega)
  split at hx <;> subst hx <;> rename_i hk
  · intro _
    rw [hk]
    decide
  · exact numberLiteral_ends p hk
  · intro _
    rw [hk]
    decide
  · intro _
    rw [hk]
    decide
  · intro _
    rw [hk]
    decide
  · exact prefixOp_ends hp he
  · exact prefixOp_ends hp he
  · exact grouped_ends p hp
  · exact ifElse_ends p
  · exact whileLoop_ends p
  · exact forLoop_ends p
  · exact function_ends p
  · exact classDef_ends p
  · exact array_ends p hp
  · exact hash_ends p hp
  · intro hc
    simp [noPrefix, Expr.completeOpt] at hc

/-- A complete operator after an operand does not end on a `;`, whichever reading it is. -/
theorem operator_ends (left : Option Expr) (hp : p.toks ≠ []) {n : Nat} (ih : EndsWell n)
    (hn : p.toks.length * 8 < n) :
  EndsOff Expr.completeOpt (operatorStep left p hp).val (operatorStep left p hp).state
  := by
  unfold operatorStep
  split
  · exact call_ends left p hp
  split
  · exact index_ends left p hp
  · exact infixOp_ends left hp (ih.expr _ p.advance (by have := advance_lt hp; omega))

theorem loop_step (prec : Nat) (left : Option Expr) (ih : EndsWell (p.toks.length * 8 + 3)) :
  ((infixLoop prec left p).state = p ∧ (infixLoop prec left p).val = left) ∨
    EndsOff Expr.completeOpt (infixLoop prec left p).val (infixLoop prec left p).state
  := by
  cases hc : p.continues prec with
  | false => exact Or.inl ⟨Step.state_eq (infixLoop_stop hc), Step.val_eq (infixLoop_stop hc)⟩
  | true =>
    have hne := toks_ne_nil_of_continues hc
    have hlt := advance_lt hne.1
    have hx : (infixLoop prec left p).out = _ := infixLoop_continues hc
    rw [Step.val_eq hx, Step.state_eq hx]
    right
    intro hcx
    have h₁ := operator_ends left hne.2 ih (by omega)
    generalize operatorStep left p.advance _ = x at h₁ hcx ⊢
    rcases ih.loop prec x.val x.state (by have := x.le; omega) with ⟨hsr, he⟩ | hl
    · rw [he] at hcx
      rw [hsr]
      exact h₁ hcx
    · exact hl hcx

theorem zero : EndsWell 0 where
  expr _ _ h := absurd h (Nat.not_lt_zero _)
  first _ h := absurd h (Nat.not_lt_zero _)
  loop _ _ _ h := absurd h (Nat.not_lt_zero _)

theorem mono {m n : Nat} (h : EndsWell n) (hle : m ≤ n) : EndsWell m where
  expr prec p hp := h.expr prec p (by omega)
  first p hp := h.first p (by omega)
  loop prec left p hp := h.loop prec left p (by omega)

theorem succ {n : Nat} (h : EndsWell n) : EndsWell (n + 1) where
  expr prec _ hp := expr_step prec (h.mono (by omega))
  first _ hp := first_step (h.mono (by omega))
  loop prec left _ hp := loop_step prec left (h.mono (by omega))

theorem all :
  ∀ n, EndsWell n
  | 0 => zero
  | n + 1 => (all n).succ

end EndsWell

/-- A complete expression does not end on a `;`. -/
theorem expr_ends (prec : Nat) (p : Parser) :
  EndsOff Expr.completeOpt (parseExpr prec p).val (parseExpr prec p).state
  := (EndsWell.all _).expr prec p (Nat.lt_succ_self _)

/-! ## The last statement of a line -/

/-- A step *closes a line* when its value is a complete statement, and it ends on a `;` with
nothing after it. -/
def Closes (v : Option Stmt) (q : Parser) : Prop :=
  (∃ st, v = some st ∧ st.complete = true) ∧ q.toks.length = 1 ∧ q.cur.kind = .semicolon

/-- A step `y` from the extended state agrees with the step `x` from the state itself when `x`
closes a line. -/
def Step.ExtendsLast {n m : Nat} (rest : List Token) (x : Step (Option Stmt) n)
    (y : Step (Option Stmt) m) : Prop :=
  Closes x.val x.state → (x.val, x.state.extend rest) = y.out

/-- A statement that ends on a final `;` its expression did not end on passed it from two
tokens. -/
theorem two_le_of_skipSemicolon {u : Parser} (hu : u.cur.kind ≠ .semicolon)
    (h1 : u.skipSemicolon.toks.length = 1) (hs : u.skipSemicolon.cur.kind = .semicolon) :
  2 ≤ u.toks.length
  := by
  unfold skipSemicolon at h1 hs
  by_cases hp : u.peek.kind = .semicolon
  · rw [if_pos hp, length_advance] at h1
    omega
  · rw [if_neg hp] at hs
    exact absurd hs hu

/-- A step that closes a line from a token other than `;` started with two tokens. -/
theorem two_le_of_closing (hr : Reaches p q) (h1 : q.toks.length = 1)
    (hs : q.cur.kind = .semicolon) (hp : p.cur.kind ≠ .semicolon) :
  2 ≤ p.toks.length
  := by
  apply Nat.not_lt.1
  intro hlt
  have heq : q.toks = p.toks := hr.suffix.eq_of_length (by have := hr.length_le; omega)
  apply hp
  rw [← hs]
  simp only [cur, heq]

theorem letStmt_last (p : Parser) (rest : List Token) :
  Step.ExtendsLast rest (parseLet p) (parseLet (p.extend rest))
  := by
  rintro ⟨⟨st, hv, hc⟩, h1, hsemi⟩
  generalize hx : parseLet p = x at hv h1 hsemi
  rw [parseLet] at hx
  rw [parseLet]
  split at hx
  · subst hx
    cases hv
  rename_i q hq
  have hp := two_le_of_expect_ok hq
  simp only [cur_extend (ne_nil_of_two_le hp)]
  split <;> rename_i _ hq' <;> rw [expect_extend_ok hp hq] at hq' <;> cases hq'
  have hf := letField_extends q rest
  generalize letField q = st at hx hf
  obtain ⟨field, r, hr⟩ := st
  dsimp only at hx
  split at hx
  · subst hx
    cases hv
  rename_i s hs
  have hr2 := two_le_of_expect_ok hs
  generalize letField (q.extend rest) = st at hf ⊢
  obtain ⟨field', r', hr'⟩ := st
  obtain ⟨rfl, rfl⟩ := hf.eq hr2
  dsimp only
  split <;> rename_i _ hs' <;> rw [expect_extend_ok hr2 hs] at hs' <;> cases hs'
  have he := expr_extends 0 s.advance rest
  rw [← advance_extend (expect_ok_ne_nil hs)] at he
  have hend := expr_ends 0 s.advance
  generalize parseExpr 0 s.advance = st at hx he hend
  obtain ⟨v, u, hu⟩ := st
  subst hx
  cases hv
  simp only [Stmt.complete] at hc
  have hu2 : 2 ≤ u.toks.length := two_le_of_skipSemicolon (hend hc) h1 hsemi
  generalize parseExpr 0 (s.extend rest).advance = st at he ⊢
  obtain ⟨v', u', hu'⟩ := st
  obtain ⟨rfl, rfl⟩ := he.eq hu2
  simp only [Step.out_mk, skipSemicolon_extend hu2, identHere_extend (expect_ok_ne_nil hq)]

theorem assign_last (p : Parser) (rest : List Token) :
  Step.ExtendsLast rest (parseAssign p) (parseAssign (p.extend rest))
  := by
  rintro ⟨⟨st, hv, hc⟩, h1, hsemi⟩
  generalize hx : parseAssign p = x at hv h1 hsemi
  rw [parseAssign] at hx
  rw [parseAssign]
  split at hx
  · subst hx
    cases hv
  rename_i q hq
  have hp := two_le_of_expect_ok hq
  simp only [identHere_extend (ne_nil_of_two_le hp)]
  split <;> rename_i _ hq' <;> rw [expect_extend_ok hp hq] at hq' <;> cases hq'
  have he := expr_extends 0 q.advance rest
  rw [← advance_extend (expect_ok_ne_nil hq)] at he
  have hend := expr_ends 0 q.advance
  generalize parseExpr 0 q.advance = st at hx he hend
  obtain ⟨v, u, hu⟩ := st
  subst hx
  cases hv
  simp only [Stmt.complete] at hc
  have hu2 : 2 ≤ u.toks.length := two_le_of_skipSemicolon (hend hc) h1 hsemi
  generalize parseExpr 0 (q.extend rest).advance = st at he ⊢
  obtain ⟨v', u', hu'⟩ := st
  obtain ⟨rfl, rfl⟩ := he.eq hu2
  simp only [Step.out_mk, skipSemicolon_extend hu2]

theorem exprStmt_last (p : Parser) (rest : List Token) :
  Step.ExtendsLast rest (parseExprStmt p) (parseExprStmt (p.extend rest))
  := by
  rintro ⟨⟨st, hv, hc⟩, h1, hsemi⟩
  have he := expr_extends 0 p rest
  have hend := expr_ends 0 p
  generalize hx : parseExprStmt p = x at hv h1 hsemi
  rw [parseExprStmt] at hx
  rw [parseExprStmt]
  generalize parseExpr 0 p = st at hx he hend
  obtain ⟨v, u, hu⟩ := st
  subst hx
  cases hv
  simp only [Stmt.complete] at hc
  have hu2 : 2 ≤ u.toks.length := two_le_of_skipSemicolon (hend hc) h1 hsemi
  generalize parseExpr 0 (p.extend rest) = st at he ⊢
  obtain ⟨v', u', hu'⟩ := st
  obtain ⟨rfl, rfl⟩ := he.eq hu2
  simp only [Step.out_mk, skipSemicolon_extend hu2,
    cur_extend (ne_nil_of_two_le (Nat.le_trans hu2 hu))]

theorem returnStmt_isReturn (p : Parser) (hp : p.toks ≠ []) {st : Stmt}
    (h : (parseReturn p hp).val = some st) :
  st.isReturn = true
  := by
  rw [parseReturn] at h
  dsimp only at h
  split at h
  · cases h
    rfl
  · generalize parseExpr 0 p.advance = r at h
    obtain ⟨v, u, hu⟩ := r
    cases h
    rfl

/-- A `return` that closes a line reads the same when more tokens follow, when it reports no
error and no `for` header after it is abandoned: its value is then there and complete, so it did
not end on the `;`. A value left out by an abandoned `for` would end there, and the tokens
that follow could go on with it. -/
theorem returnStmt_last (p : Parser) (hp : p.toks ≠ []) (rest : List Token)
    (hfor : NoAbandonedFor p.toks) (herr : (parseReturn p hp).state.errors.size ≤ p.errors.size) :
  Step.ExtendsLast rest (parseReturn p hp) (parseReturn (p.extend rest) (extend_ne_nil hp))
  := by
  rintro ⟨-, h1, hsemi⟩
  have hfine := (Sound.all _).expr 0 p.advance (Nat.lt_succ_self _)
  have he := expr_extends 0 p.advance rest
  rw [← advance_extend hp] at he
  have hend := expr_ends 0 p.advance
  generalize hx : parseReturn p hp = x at h1 hsemi herr
  rw [parseReturn] at hx
  rw [parseReturn]
  simp only [cur_extend hp, advance_extend hp]
  split at hx
  · rename_i hs
    subst hx
    have hne : p.advance.toks ≠ [] := by
      intro h
      simp [h] at h1
    rw [if_pos (by rw [cur_extend hne]; exact hs)]
    rfl
  rename_i hs
  generalize parseExpr 0 p.advance = y at hx hfine he hend
  obtain ⟨v, u, hu⟩ := y
  subst hx
  dsimp only at h1 hsemi herr hfine hend
  have hcv : Expr.completeOpt v = true := by
    exact hfine.sound (hfor.suffix (List.tail_suffix _))
      (Nat.le_trans (Reaches.skipSemicolon u).grows herr)
  have hu2 : 2 ≤ u.toks.length := two_le_of_skipSemicolon (hend hcv) h1 hsemi
  have hne : p.advance.toks ≠ [] := by
    intro h
    have hlen := hu
    rw [h, List.length_nil] at hlen
    omega
  rw [if_neg (by rw [cur_extend hne]; exact hs)]
  generalize parseExpr 0 (p.extend rest).advance = y' at he ⊢
  obtain ⟨v', u', hu'⟩ := y'
  obtain ⟨rfl, rfl⟩ := he.eq hu2
  simp only [Step.out_mk, skipSemicolon_extend hu2]

/-- The statement that closes a line reads the same when more tokens follow; a `return` when it
reports no error and no `for` header after it is abandoned. -/
theorem statement_last (p : Parser) (rest : List Token)
    (hret : p.cur.kind = .returnKw →
      NoAbandonedFor p.toks ∧ (parseStatement p).state.errors.size ≤ p.errors.size) :
  Step.ExtendsLast rest (parseStatement p) (parseStatement (p.extend rest))
  := by
  intro hcl
  have hr := (statement_fine p).reaches
  have hne : p.toks ≠ [] := by
    intro h
    have hle := hr.length_le
    rw [hcl.2.1, h] at hle
    cases hle
  generalize hx : parseStatement p = x at hcl hr hret
  rw [parseStatement, dif_neg hne] at hx
  rw [parseStatement, dif_neg (extend_ne_nil hne), cur_extend hne]
  generalize hk : p.cur.kind = k at hx ⊢
  cases k <;> dsimp only at hx ⊢
  case letKw =>
    subst hx
    exact letStmt_last p rest hcl
  case returnKw =>
    subst hx
    exact returnStmt_last p hne rest (hret hk).1 (hret hk).2 hcl
  case ident =>
    have hp2 := two_le_of_closing hr hcl.2.1 hcl.2.2 (by rw [hk]; decide)
    rw [peek_extend hp2]
    split at hx
    · rename_i ha
      rw [if_pos ha]
      subst hx
      exact assign_last p rest hcl
    · rename_i ha
      rw [if_neg ha]
      subst hx
      exact exprStmt_last p rest hcl
  case breakKw | continueKw =>
    have hp2 := two_le_of_closing hr hcl.2.1 hcl.2.2 (by rw [hk]; decide)
    subst hx
    simp only [Step.out_mk, skipSemicolon_extend hp2]
  all_goals
    subst hx
    exact exprStmt_last p rest hcl

/-! ## Reading on past a line -/

/-- Whether every statement read from `p` on ends on one of its tokens: each statement is read,
and its last token is still there when it is done. A statement whose block is never closed
runs to the end of the tokens and leaves none. -/
def endsWithin (p : Parser) : Bool :=
  if _hp : p.toks = [] then true
  else
    match parseStatement p with
    | ⟨none, _, _⟩ => false
    | ⟨some _, q, _hq⟩ => !q.toks.isEmpty && endsWithin q.advance
termination_by p.toks.length
decreasing_by have := length_pos _hp; rw [length_advance]; omega

theorem endsWithin_of_some (hp : p.toks ≠ []) {st : Stmt}
    (h : (parseStatement p).out = (some st, q)) (hw : endsWithin p = true) :
  q.toks ≠ [] ∧ endsWithin q.advance = true
  := by
  rw [endsWithin, dif_neg hp] at hw
  rcases hs : parseStatement p with ⟨v, q', hq'⟩
  rw [hs] at h hw
  simp only [Step.out_mk, Prod.mk.injEq] at h
  obtain ⟨rfl, rfl⟩ := h
  simpa using hw

theorem endsWithin_of_none (hp : p.toks ≠ []) (h : (parseStatement p).val = none) :
  endsWithin p = false
  := by
  rw [endsWithin, dif_neg hp]
  rcases hs : parseStatement p with ⟨v, q', hq'⟩
  rw [hs] at h
  cases h
  rfl

theorem programLoop_of_nil (hp : p.toks = []) (acc : Array Stmt) :
  programLoop p acc = (acc, p)
  := by
  rw [programLoop, dif_pos hp]

theorem programLoop_of_some (hp : p.toks ≠ []) {st : Stmt}
    (h : (parseStatement p).out = (some st, q)) (acc : Array Stmt) :
  programLoop p acc = programLoop q.advance (acc.push st)
  := by
  rw [programLoop, dif_neg hp]
  rcases hs : parseStatement p with ⟨v, q', hq'⟩
  rw [hs] at h
  simp only [Step.out_mk, Prod.mk.injEq] at h
  obtain ⟨rfl, rfl⟩ := h
  rfl

theorem programLoop_of_none (hp : p.toks ≠ []) (h : (parseStatement p).val = none)
    (acc : Array Stmt) :
  programLoop p acc = (acc, (parseStatement p).state)
  := by
  rw [programLoop, dif_neg hp]
  rcases hs : parseStatement p with ⟨v, q', hq'⟩
  rw [hs] at h
  cases h
  rfl

/-- The statements read before are kept in front of those read now. -/
theorem programLoop_acc (p : Parser) (acc acc' : Array Stmt) :
  programLoop p (acc ++ acc') = (acc ++ (programLoop p acc').1, (programLoop p acc').2)
  := by
  fun_induction programLoop p acc' with
  | case1 p acc' hp => rw [programLoop_of_nil hp]
  | case2 p acc' hp q _ heq =>
    rw [programLoop_of_none hp (by rw [heq]), heq]
  | case3 p acc' hp st q _ heq _ ih =>
    have hs : (parseStatement p).out = (some st, q) := by rw [heq]; rfl
    rw [programLoop_of_some hp hs, Array.push_append, ih]

theorem programLoop_fst (p : Parser) (acc : Array Stmt) :
  (programLoop p acc).1 = acc ++ (programLoop p #[]).1
  := by
  have h := programLoop_acc p acc #[]
  rw [Array.append_empty] at h
  rw [h]

theorem programLoop_snd (p : Parser) (acc : Array Stmt) :
  (programLoop p acc).2 = (programLoop p #[]).2
  := by
  have h := programLoop_acc p acc #[]
  rw [Array.append_empty] at h
  rw [h]

/-- When every statement ends within the tokens, the program is read to their end. -/
theorem programLoop_toks (p : Parser) (acc : Array Stmt) :
  endsWithin p = true → (programLoop p acc).2.toks = []
  := by
  fun_induction programLoop p acc with
  | case1 p acc hp => intro; exact hp
  | case2 p acc hp q _ heq =>
    intro hw
    rw [endsWithin_of_none hp (by rw [heq])] at hw
    cases hw
  | case3 p acc hp st q _ heq _ ih =>
    intro hw
    have hs : (parseStatement p).out = (some st, q) := by rw [heq]; rfl
    exact ih (endsWithin_of_some hp hs hw).2

theorem getLast?_of_suffix {l₁ l₂ : List Token} (h : l₁ <:+ l₂) (hne : l₁ ≠ []) :
  l₁.getLast? = l₂.getLast?
  := by
  obtain ⟨pre, rfl⟩ := h
  rw [List.getLast?_append, List.getLast?_eq_some_getLast hne]
  rfl

/-- A complete statement of a line that ends on one of the line's tokens is read the same when
more tokens follow: it ends with two tokens left, or on the line's last token, its `;`. A
`return` there must report no error and have no abandoned `for` header after it. -/
theorem statement_extend {st : Stmt} {hq : q.toks.length ≤ p.toks.length}
    (heq : parseStatement p = ⟨some st, q, hq⟩) (hqne : q.toks ≠ [])
    (hlast : ∀ t ∈ p.toks.getLast?, t.kind = .semicolon) (hst : st.complete = true)
    (hreturn : p.cur.kind = .returnKw →
      NoAbandonedFor p.toks ∧ (parseStatement p).state.errors.size ≤ p.errors.size)
    (rest : List Token) :
  (parseStatement (p.extend rest)).out = (some st, q.extend rest)
  := by
  by_cases h2 : 2 ≤ q.toks.length
  · have he := statement_extends p rest
    rw [heq] at he
    exact (he h2).symm
  have hr : Reaches p q := by
    have := (statement_fine p).reaches
    rwa [heq] at this
  have h1 : q.toks.length = 1 := by
    have := List.length_pos_iff.2 hqne
    omega
  obtain ⟨t, ht⟩ := List.length_eq_one_iff.1 h1
  have hlast' : p.toks.getLast? = some t := by
    rw [← getLast?_of_suffix hr.suffix hqne, ht]
    rfl
  have hsemi : q.cur.kind = .semicolon := by
    simp only [cur, ht, List.headD_cons]
    exact hlast t hlast'
  have he := statement_last p rest hreturn
  rw [heq] at he
  exact (he ⟨⟨st, rfl, hst⟩, h1, hsemi⟩).symm

/-- A line whose statements each end within it, the last on its final `;`, and are complete, is
read the same when more tokens follow; the reading then goes on after it. A `return` that ends
the line must report no error and have no abandoned `for` header after it. -/
theorem programLoop_extend (p : Parser) (rest : List Token) (acc : Array Stmt) :
  endsWithin p = true → (∀ t ∈ p.toks.getLast?, t.kind = .semicolon) →
  (∀ st ∈ (programLoop p #[]).1.toList, st.complete = true) →
  ((∀ st ∈ (programLoop p #[]).1.toList, st.isReturn = false) ∨
    NoAbandonedFor p.toks ∧ (programLoop p #[]).2.errors.size ≤ p.errors.size) →
  programLoop (p.extend rest) acc =
    programLoop ((programLoop p acc).2.extend rest) (programLoop p acc).1
  := by
  fun_induction programLoop p acc with
  | case1 p acc hp =>
    intro _ _ _ _
    rfl
  | case2 p acc hp q _ heq =>
    intro hw
    rw [endsWithin_of_none hp (by rw [heq])] at hw
    cases hw
  | case3 p acc hp st q hq heq _ ih =>
    intro hw hlast hst hret
    have hs : (parseStatement p).out = (some st, q) := by rw [heq]; rfl
    obtain ⟨hqne, hw'⟩ := endsWithin_of_some hp hs hw
    have hr : Reaches p q := by
      have := (statement_fine p).reaches
      rwa [heq] at this
    have hall : (programLoop p #[]).1.toList = st :: (programLoop q.advance #[]).1.toList := by
      rw [programLoop_of_some hp hs, programLoop_fst]
      simp
    have hend : (programLoop p #[]).2 = (programLoop q.advance #[]).2 := by
      rw [programLoop_of_some hp hs, programLoop_snd]
    have hgrow : q.errors.size ≤ (programLoop q.advance #[]).2.errors.size :=
      (programLoop_fine q.advance #[]).reaches.grows
    rw [hall] at hst hret
    have hreturn : p.cur.kind = .returnKw →
        NoAbandonedFor p.toks ∧ (parseStatement p).state.errors.size ≤ p.errors.size := by
      intro hk
      rcases hret with hno | ⟨hfor, herr⟩
      · have hv : (parseReturn p hp).val = some st := by
          have := congrArg Step.val heq
          rw [parseStatement, dif_neg hp] at this
          simpa [hk] using this
        have := hno st List.mem_cons_self
        rw [returnStmt_isReturn p hp hv] at this
        cases this
      · rw [heq]
        exact ⟨hfor, by rw [hend] at herr; exact Nat.le_trans hgrow herr⟩
    have hstep := statement_extend heq hqne hlast (hst st List.mem_cons_self) hreturn rest
    rw [programLoop_of_some (extend_ne_nil hp) hstep, advance_extend hqne]
    refine ih hw' ?_ (fun st' h' => hst st' (List.mem_cons_of_mem _ h')) ?_
    · intro t ht
      apply hlast
      rw [← getLast?_of_suffix ((List.tail_suffix q.toks).trans hr.suffix) ?_]
      · exact ht
      · intro hnil
        simp [advance, hnil] at ht
    · rcases hret with hno | ⟨hfor, herr⟩
      · exact .inl fun st' h' => hno st' (List.mem_cons_of_mem _ h')
      · refine .inr ⟨hfor.suffix ((List.tail_suffix q.toks).trans hr.suffix), ?_⟩
        rw [hend] at herr
        exact Nat.le_trans herr hr.grows

/-- A statement that starts with a token no expression starts with is an expression
statement with a hole. -/
theorem statement_illegal (hp : p.toks ≠ []) (hk : p.cur.kind = .illegal) :
  (parseStatement p).val = some (.exprStmt p.cur none)
  := by
  rw [parseStatement, dif_neg hp]
  simp only [hk]
  rw [parseExprStmt, parseExpr, if_pos (by rw [hk]; rfl)]
  rfl

/-- A statement that starts with an `illegal` token reports that no expression starts there, and
passes a `;` after the token. -/
theorem statement_illegal_state (hp : p.toks ≠ []) (hk : p.cur.kind = .illegal) :
  (parseStatement p).state = (noPrefix p).state.skipSemicolon
  := by
  rw [parseStatement, dif_neg hp]
  simp only [hk]
  rw [parseExprStmt, parseExpr, if_pos (by rw [hk]; rfl)]

/-- After a statement that starts with an `illegal` token the reading goes on from the same
place, whatever the token's literal. -/
theorem statement_illegal_advance {t t' : Token} (hk : t.kind = .illegal)
    (hk' : t'.kind = .illegal) (r : List Token) (e : Array String) :
  (parseStatement ⟨t :: r, e⟩).state.advance =
    (parseStatement ⟨t' :: r, e⟩).state.advance
  := by
  rw [statement_illegal_state (p := ⟨t :: r, e⟩) (by simp) hk,
    statement_illegal_state (p := ⟨t' :: r, e⟩) (by simp) hk']
  simp only [noPrefix, report, cur, List.headD_cons, hk, hk']
  cases r with
  | nil => rfl
  | cons u r => by_cases hu : u.kind = .semicolon <;> simp [skipSemicolon, peek, advance, hu]

/-- Tokens whose statements each end within them give at least one statement. -/
theorem programLoop_ne_nil (hp : p.toks ≠ []) (hw : endsWithin p = true) :
  (programLoop p #[]).1.toList ≠ []
  := by
  rcases hs : parseStatement p with ⟨v, q, hq⟩
  cases v with
  | none =>
    rw [endsWithin_of_none hp (by rw [hs])] at hw
    cases hw
  | some st =>
    rw [programLoop_of_some hp (by rw [hs]; rfl), programLoop_fst]
    simp

end Parser

theorem Parsed.ofTokens_stmts (ts : List Token) :
  (Parsed.ofTokens ts).program.stmts = (Parser.programLoop ⟨ts, #[]⟩ #[]).1.toList
  := rfl

theorem Parsed.ofTokens_errors (ts : List Token) :
  (Parsed.ofTokens ts).errors = (Parser.programLoop ⟨ts, #[]⟩ #[]).2.errors.toList
  := rfl

/-- A line of tokens that reads the same on its own and before more tokens: every statement
ends within it, the last on its final `;`, and it reads with no error into complete statements,
none of which is a `return` or with no abandoned `for` header in it. -/
structure ClosedLine (ts : List Token) : Prop where
  endsWithin : Parser.endsWithin ⟨ts, #[]⟩ = true
  last : ∀ t ∈ ts.getLast?, t.kind = .semicolon
  noErrors : (Parsed.ofTokens ts).errors = []
  complete : ∀ st ∈ (Parsed.ofTokens ts).program.stmts, st.complete = true
  returns : (∀ st ∈ (Parsed.ofTokens ts).program.stmts, st.isReturn = false) ∨
    Parser.NoAbandonedFor ts

/-- A closed line is read to its end with no error. -/
theorem ClosedLine.programLoop_snd {ts : List Token} (h : ClosedLine ts) (acc : Array Stmt) :
  (Parser.programLoop ⟨ts, #[]⟩ acc).2 = ⟨[], #[]⟩
  := by
  have htoks := Parser.programLoop_toks ⟨ts, #[]⟩ acc h.endsWithin
  have herr := h.noErrors
  rw [Parsed.ofTokens_errors, ← Parser.programLoop_snd _ acc, Array.toList_eq_nil_iff] at herr
  generalize (Parser.programLoop ⟨ts, #[]⟩ acc).2 = q at htoks herr
  cases q
  simp_all

/-- A closed line before more tokens: its statements, then those read from the tokens after it
as if they came alone. -/
theorem ClosedLine.programLoop_append {ts : List Token} (h : ClosedLine ts) (rest : List Token)
    (acc : Array Stmt) :
  Parser.programLoop ⟨ts ++ rest, #[]⟩ acc =
    Parser.programLoop ⟨rest, #[]⟩ (acc ++ (Parsed.ofTokens ts).program.stmts.toArray)
  := by
  have hsplit : (⟨ts ++ rest, #[]⟩ : Parser) = Parser.extend ⟨ts, #[]⟩ rest := rfl
  have hret : (∀ st ∈ (Parser.programLoop ⟨ts, #[]⟩ #[]).1.toList, st.isReturn = false) ∨
      Parser.NoAbandonedFor ts ∧
        (Parser.programLoop ⟨ts, #[]⟩ #[]).2.errors.size ≤ (#[] : Array String).size := by
    rw [h.programLoop_snd]
    exact h.returns.imp id fun hfor => ⟨hfor, Nat.le_refl _⟩
  rw [hsplit, Parser.programLoop_extend _ _ acc h.endsWithin h.last h.complete hret,
    h.programLoop_snd, Parser.programLoop_fst]
  rfl

/-- A closed line before more tokens: its statements, then those of the tokens after it read
alone, with their errors. -/
theorem ClosedLine.ofTokens_append {ts : List Token} (h : ClosedLine ts) (rest : List Token) :
  Parsed.ofTokens (ts ++ rest) =
    ⟨⟨(Parsed.ofTokens ts).program.stmts ++ (Parsed.ofTokens rest).program.stmts⟩,
      (Parsed.ofTokens rest).errors⟩
  := by
  have hs := Parsed.ofTokens_stmts (ts ++ rest)
  have he := Parsed.ofTokens_errors (ts ++ rest)
  rw [h.programLoop_append rest #[], Parser.programLoop_fst] at hs
  rw [h.programLoop_append rest #[], Parser.programLoop_snd] at he
  generalize Parsed.ofTokens (ts ++ rest) = r at hs he
  obtain ⟨⟨stmts⟩, errs⟩ := r
  simp only [Array.empty_append, Array.toList_append] at hs he
  subst hs he
  rfl

/-- Closed lines read together give the statements of each line in turn, and no error. -/
theorem Parsed.ofTokens_flatten (tss : List (List Token)) (h : ∀ ts ∈ tss, ClosedLine ts) :
  Parsed.ofTokens tss.flatten =
    ⟨⟨tss.flatMap fun ts => (Parsed.ofTokens ts).program.stmts⟩, []⟩
  := by
  induction tss with
  | nil => simp [Parsed.ofTokens, Parser.programLoop_nil]
  | cons ts tss ih =>
    rw [List.flatten_cons, (h ts List.mem_cons_self).ofTokens_append,
      ih (fun ts' h' => h ts' (List.mem_cons_of_mem _ h'))]
    simp

end Monkey
