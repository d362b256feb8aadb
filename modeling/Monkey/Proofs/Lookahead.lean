import Monkey.Proofs.Parsing

/-!
# How far the parser looks ahead

The parser reads the current token and the one after it, and nothing further. So a step that
ends with at least two tokens left has never looked past its own tokens: run on the same
tokens followed by any others, it gives the same value and stops at the same place, with the
others still after it (`Parser.statement_extends`).

The state with more tokens after its own is `Parser.extend`. Each primitive of the parser
commutes with it while the state keeps two tokens (`cur_extend`, `peek_extend`,
`expect_extend`, …), and every parsing function is proved to by the measure of its
definition (`Parser.Extensible`), one step lemma per function.

The step lemmas run the two parses in lockstep. The parse of the state itself is named `x`
and its definition is split where it branches; the parse of the extended state, in the goal,
is split at the same place, and the branch that disagrees with the first is closed by the
commuting lemma of the primitive that chose it. A call to another function is the induction
hypothesis, which needs that call to end with two tokens left; the bound is read off the
next step, whose end is never beyond its start.
-/

namespace Monkey

namespace Parser

/-- The state with the tokens `rest` after its own. -/
def extend (p : Parser) (rest : List Token) : Parser := ⟨p.toks ++ rest, p.errors⟩

variable {p q : Parser} {rest : List Token}

@[simp] theorem toks_extend :
  (p.extend rest).toks = p.toks ++ rest
  := rfl

@[simp] theorem errors_extend :
  (p.extend rest).errors = p.errors
  := rfl

theorem ne_nil_of_two_le (h : 2 ≤ p.toks.length) :
  p.toks ≠ []
  := by
  intro hp
  simp [hp] at h

theorem extend_ne_nil (hp : p.toks ≠ []) :
  (p.extend rest).toks ≠ []
  := by
  simp [hp]

theorem cur_extend (hp : p.toks ≠ []) :
  (p.extend rest).cur = p.cur
  := by
  obtain ⟨toks, errs⟩ := p
  cases toks with
  | nil => exact absurd rfl hp
  | cons t ts => rfl

theorem peek_extend (hp : 2 ≤ p.toks.length) :
  (p.extend rest).peek = p.peek
  := by
  obtain ⟨toks, errs⟩ := p
  match toks, hp with
  | _ :: _ :: _, _ => rfl

theorem advance_extend (hp : p.toks ≠ []) :
  (p.extend rest).advance = p.advance.extend rest
  := by
  obtain ⟨toks, errs⟩ := p
  cases toks with
  | nil => exact absurd rfl hp
  | cons t ts => rfl

theorem identHere_extend (hp : p.toks ≠ []) :
  (p.extend rest).identHere = p.identHere
  := by
  simp only [identHere, cur_extend hp]

theorem continues_extend (hp : 2 ≤ p.toks.length) (prec : Nat) :
  (p.extend rest).continues prec = p.continues prec
  := by
  simp only [continues, peek_extend hp]

theorem skipSemicolon_extend (hp : 2 ≤ p.toks.length) :
  (p.extend rest).skipSemicolon = p.skipSemicolon.extend rest
  := by
  unfold skipSemicolon
  rw [peek_extend hp]
  split
  · exact advance_extend (ne_nil_of_two_le hp)
  · rfl

/-- With two tokens, `expect` sees the same token on the extended state: it goes on to the
extended state, or fails with the extended report. -/
theorem expect_extend_ok {k : TokenKind} (hp : 2 ≤ p.toks.length) (h : p.expect k = .ok q) :
  (p.extend rest).expect k = .ok (q.extend rest)
  := by
  obtain ⟨toks, errs⟩ := p
  match toks, hp with
  | t :: d :: ts, _ =>
    simp only [expect] at h ⊢
    split at h
    · cases h
      simp only [extend, List.cons_append, if_pos ‹d.kind = k›]
    · cases h

theorem expect_extend_error {k : TokenKind} (hp : 2 ≤ p.toks.length)
    (h : p.expect k = .error q) :
  (p.extend rest).expect k = .error (q.extend rest)
  := by
  obtain ⟨toks, errs⟩ := p
  match toks, hp with
  | t :: d :: ts, _ =>
    simp only [expect] at h ⊢
    split at h
    · cases h
    · cases h
      simp only [extend, List.cons_append, if_neg ‹¬d.kind = k›]
      rfl

theorem two_le_of_expect_ok {k : TokenKind} (h : p.expect k = .ok q) :
  2 ≤ p.toks.length
  := by
  have h1 := expect_ok_lt h
  have h2 := List.length_pos_iff.2 (expect_ok_ne_nil h)
  omega

/-- A step `y` from the extended state agrees with the step `x` from the state itself when
`x` ends with two tokens left: the same value, and the same state with `rest` after it. -/
def Step.Extends {α : Type} {n m : Nat} (rest : List Token) (x : Step α n) (y : Step α m) :
    Prop :=
  2 ≤ x.state.toks.length → (x.val, x.state.extend rest) = y.out

theorem Step.Extends.eq {α : Type} {n m : Nat} {x : Step α n} {v : α} {u : Parser}
    {hu : u.toks.length ≤ m} (h : Step.Extends rest x ⟨v, u, hu⟩)
    (h2 : 2 ≤ x.state.toks.length) :
  v = x.val ∧ u = x.state.extend rest
  := by
  have := h h2
  simp only [Step.out, Prod.mk.injEq] at this
  exact ⟨this.1.symm, this.2.symm⟩

/-- Steps that give the same values and states as two that agree agree too. -/
theorem Step.Extends.of_out {α : Type} {n n' m m' : Nat} {x : Step α n} {x' : Step α n'}
    {y : Step α m} {y' : Step α m'} (hx : x.out = x'.out) (hy : y.out = y'.out)
    (h : Step.Extends rest x' y') :
  Step.Extends rest x y
  := by
  intro hlen
  have hv : x.val = x'.val := congrArg Prod.fst hx
  have hs : x.state = x'.state := congrArg Prod.snd hx
  rw [hv, hs, hy]
  exact h (hs ▸ hlen)

/-! ## The functions outside the recursion -/

theorem numberLiteral_extends :
  Step.Extends rest (numberLiteral p) (numberLiteral (p.extend rest))
  := by
  intro hlen
  have hp : p.toks ≠ [] := ne_nil_of_two_le (Nat.le_trans hlen (numberLiteral p).le)
  simp only [numberLiteral, cur_extend hp]
  split
  · split <;> rfl
  · split <;> rfl

theorem noPrefix_extends :
  Step.Extends rest (noPrefix p) (noPrefix (p.extend rest))
  := by
  intro hlen
  have hp : p.toks ≠ [] := ne_nil_of_two_le (Nat.le_trans hlen (noPrefix p).le)
  simp only [noPrefix, cur_extend hp]
  rfl

theorem closeParams_extends (acc : Array Ident) :
  Step.Extends rest (closeParams p acc) (closeParams (p.extend rest) acc)
  := by
  intro hlen
  have hp : 2 ≤ p.toks.length := Nat.le_trans hlen (closeParams p acc).le
  generalize hx : closeParams p acc = x at hlen
  rw [closeParams] at hx
  rw [closeParams]
  split at hx
  · rename_i q hq
    subst hx
    split <;> rename_i _ hq' <;> rw [expect_extend_ok hp hq] at hq' <;> cases hq'
    rfl
  · rename_i q hq
    subst hx
    split <;> rename_i _ hq' <;> rw [expect_extend_error hp hq] at hq' <;> cases hq'
    rfl

theorem closeList_extends (close : TokenKind) (acc : Array (Option Expr)) :
  Step.Extends rest (closeList close p acc) (closeList close (p.extend rest) acc)
  := by
  intro hlen
  have hp : 2 ≤ p.toks.length := Nat.le_trans hlen (closeList close p acc).le
  generalize hx : closeList close p acc = x at hlen
  rw [closeList] at hx
  rw [closeList]
  split at hx
  · rename_i q hq
    subst hx
    split <;> rename_i _ hq' <;> rw [expect_extend_ok hp hq] at hq' <;> cases hq'
    rfl
  · rename_i q hq
    subst hx
    split <;> rename_i _ hq' <;> rw [expect_extend_error hp hq] at hq' <;> cases hq'
    rfl

theorem paramsLoop_extends (rest : List Token) (p : Parser) (acc : Array Ident) :
  Step.Extends rest (paramsLoop p acc) (paramsLoop (p.extend rest) acc)
  := by
  induction p, acc using paramsLoop.induct with
  | case1 p acc hc _ v s hs heq ih =>
    intro hlen
    have hp : 2 ≤ p.toks.length := Nat.le_trans hlen (paramsLoop p acc).le
    have hne' : p.advance.toks ≠ [] := by
      apply List.ne_nil_of_length_pos
      have := two_le_of_peek (by rw [hc]; decide)
      rw [length_advance]
      omega
    generalize hx : paramsLoop p acc = x at hlen
    rw [paramsLoop, dif_pos hc, heq] at hx
    subst hx
    rw [paramsLoop, dif_pos (by rw [peek_extend hp]; exact hc)]
    have hs2 : 2 ≤ s.toks.length := hlen
    have hsne : p.advance.advance.toks ≠ [] := by
      apply List.ne_nil_of_length_pos
      omega
    rw [heq, ← identHere_extend hsne, ← advance_extend hne', ← advance_extend (ne_nil_of_two_le hp)]
      at ih
    generalize ((p.extend rest).advance.advance).paramsLoop _ = st at ih ⊢
    obtain ⟨v', s', hs'⟩ := st
    obtain ⟨rfl, rfl⟩ := ih.eq hs2
    rfl
  | case2 p acc hc =>
    intro hlen
    have hp : 2 ≤ p.toks.length := Nat.le_trans hlen (paramsLoop p acc).le
    rw [paramsLoop, dif_neg hc] at hlen ⊢
    rw [paramsLoop, dif_neg (by rw [peek_extend hp]; exact hc)]
    exact closeParams_extends acc hlen

theorem params_extends (p : Parser) (rest : List Token) :
  Step.Extends rest (params p) (params (p.extend rest))
  := by
  intro hlen
  have hp : 2 ≤ p.toks.length := Nat.le_trans hlen (params p).le
  have hne := ne_nil_of_two_le hp
  generalize hx : params p = x at hlen
  rw [params] at hx
  rw [params, peek_extend hp]
  split at hx
  · rename_i hc
    rw [if_pos hc]
    subst hx
    simp only [Step.out_mk, advance_extend hne]
  · rename_i hc
    rw [if_neg hc]
    dsimp only at hx ⊢
    have hl := paramsLoop_extends rest p.advance #[p.advance.identHere]
    generalize paramsLoop p.advance _ = st at hx hl
    obtain ⟨v, s, hs⟩ := st
    subst hx
    have hane : p.advance.toks ≠ [] := ne_nil_of_two_le (Nat.le_trans hlen hs)
    rw [← identHere_extend hane, ← advance_extend hne] at hl
    generalize paramsLoop (p.extend rest).advance _ = st at hl ⊢
    obtain ⟨v', s', hs'⟩ := st
    obtain ⟨rfl, rfl⟩ := hl.eq hlen
    rfl

theorem letField_extends (p : Parser) (rest : List Token) :
  Step.Extends rest (letField p) (letField (p.extend rest))
  := by
  intro hlen
  have hp : 2 ≤ p.toks.length := Nat.le_trans hlen (letField p).le
  generalize hx : letField p = x at hlen
  rw [letField] at hx
  rw [letField, peek_extend hp]
  split at hx
  · rename_i hc
    rw [if_pos hc]
    subst hx
    have haa : 2 ≤ p.advance.advance.toks.length := hlen
    have hane : p.advance.toks ≠ [] := ne_nil_of_two_le (Nat.le_trans haa (advance_le _))
    simp only [Step.out_mk, advance_extend (ne_nil_of_two_le hp), advance_extend hane,
      identHere_extend (ne_nil_of_two_le haa)]
  · rename_i hc
    rw [if_neg hc]
    subst hx
    rfl

/-! ## The recursive functions -/

/-- Every parsing function whose call has measure below `n` reads only its own tokens, when it
ends with two tokens left. The measure is the one of the definitions: eight times the tokens
left, plus the rank of the function. -/
structure Extensible (n : Nat) : Prop where
  statement : ∀ p, p.toks.length * 8 + 6 < n → ∀ rest,
    Step.Extends rest (parseStatement p) (parseStatement (p.extend rest))
  letStmt : ∀ p, p.toks.length * 8 + 5 < n → ∀ rest,
    Step.Extends rest (parseLet p) (parseLet (p.extend rest))
  returnStmt : ∀ p hp, p.toks.length * 8 + 5 < n → ∀ rest hp',
    Step.Extends rest (parseReturn p hp) (parseReturn (p.extend rest) hp')
  assign : ∀ p, p.toks.length * 8 + 5 < n → ∀ rest,
    Step.Extends rest (parseAssign p) (parseAssign (p.extend rest))
  exprStmt : ∀ p, p.toks.length * 8 + 5 < n → ∀ rest,
    Step.Extends rest (parseExprStmt p) (parseExprStmt (p.extend rest))
  expr : ∀ prec p, p.toks.length * 8 + 4 < n → ∀ rest,
    Step.Extends rest (parseExpr prec p) (parseExpr prec (p.extend rest))
  first : ∀ p, p.toks.length * 8 + 3 < n → ∀ rest,
    Step.Extends rest (parsePrefix p) (parsePrefix (p.extend rest))
  loop : ∀ prec left p, p.toks.length * 8 + 3 < n → ∀ rest,
    Step.Extends rest (infixLoop prec left p) (infixLoop prec left (p.extend rest))
  prefixOp : ∀ p hp, p.toks.length * 8 + 2 < n → ∀ rest hp',
    Step.Extends rest (parsePrefixOp p hp) (parsePrefixOp (p.extend rest) hp')
  grouped : ∀ p hp, p.toks.length * 8 + 2 < n → ∀ rest hp',
    Step.Extends rest (parseGrouped p hp) (parseGrouped (p.extend rest) hp')
  infixOp : ∀ left p hp, p.toks.length * 8 + 2 < n → ∀ rest hp',
    Step.Extends rest (parseInfix left p hp) (parseInfix left (p.extend rest) hp')
  call : ∀ left p hp, p.toks.length * 8 + 2 < n → ∀ rest hp',
    Step.Extends rest (parseCall left p hp) (parseCall left (p.extend rest) hp')
  index : ∀ left p hp, p.toks.length * 8 + 2 < n → ∀ rest hp',
    Step.Extends rest (parseIndex left p hp) (parseIndex left (p.extend rest) hp')
  exprList : ∀ close p hp, p.toks.length * 8 + 1 < n → ∀ rest hp',
    Step.Extends rest (exprList close p hp) (exprList close (p.extend rest) hp')
  exprListLoop : ∀ close p acc, p.toks.length * 8 + 1 < n → ∀ rest,
    Step.Extends rest (exprListLoop close p acc) (exprListLoop close (p.extend rest) acc)
  ifElse : ∀ p, p.toks.length * 8 + 2 < n → ∀ rest,
    Step.Extends rest (parseIf p) (parseIf (p.extend rest))
  whileLoop : ∀ p, p.toks.length * 8 + 2 < n → ∀ rest,
    Step.Extends rest (parseWhile p) (parseWhile (p.extend rest))
  forLoop : ∀ p, p.toks.length * 8 + 2 < n → ∀ rest,
    Step.Extends rest (parseFor p) (parseFor (p.extend rest))
  forInit : ∀ p, p.toks.length * 8 + 7 < n → ∀ rest,
    Step.Extends rest (forInit p) (forInit (p.extend rest))
  forCond : ∀ p, p.toks.length * 8 + 7 < n → ∀ rest,
    Step.Extends rest (forCond p) (forCond (p.extend rest))
  forStep : ∀ p, p.toks.length * 8 + 7 < n → ∀ rest,
    Step.Extends rest (forStep p) (forStep (p.extend rest))
  function : ∀ p, p.toks.length * 8 + 2 < n → ∀ rest,
    Step.Extends rest (parseFunction p) (parseFunction (p.extend rest))
  classDef : ∀ p, p.toks.length * 8 + 2 < n → ∀ rest,
    Step.Extends rest (parseClass p) (parseClass (p.extend rest))
  array : ∀ p hp, p.toks.length * 8 + 2 < n → ∀ rest hp',
    Step.Extends rest (parseArray p hp) (parseArray (p.extend rest) hp')
  hash : ∀ p hp, p.toks.length * 8 + 2 < n → ∀ rest hp',
    Step.Extends rest (parseHash p hp) (parseHash (p.extend rest) hp')
  hashLoop : ∀ p hp acc, p.toks.length * 8 + 1 < n → ∀ rest hp',
    Step.Extends rest (hashLoop p hp acc) (hashLoop (p.extend rest) hp' acc)
  block : ∀ p hp, p.toks.length * 8 + 2 < n → ∀ rest hp',
    Step.Extends rest (parseBlock p hp) (parseBlock (p.extend rest) hp')
  blockLoop : ∀ p acc, p.toks.length * 8 + 7 < n → ∀ rest,
    Step.Extends rest (blockLoop p acc) (blockLoop (p.extend rest) acc)

namespace Extensible

theorem statement_step (ih : Extensible (p.toks.length * 8 + 6)) (rest : List Token) :
  Step.Extends rest (parseStatement p) (parseStatement (p.extend rest))
  := by
  intro hlen
  have hp : 2 ≤ p.toks.length := Nat.le_trans hlen (parseStatement p).le
  have hne := ne_nil_of_two_le hp
  generalize hx : parseStatement p = x at hlen
  rw [parseStatement, dif_neg hne] at hx
  rw [parseStatement, dif_neg (extend_ne_nil hne), cur_extend hne]
  generalize p.cur.kind = k at hx ⊢
  cases k <;> dsimp only at hx ⊢
  case letKw =>
    subst hx
    exact ih.letStmt p (by omega) rest hlen
  case returnKw =>
    subst hx
    exact ih.returnStmt p hne (by omega) rest _ hlen
  case ident =>
    rw [peek_extend hp]
    split at hx
    · rename_i ha
      rw [if_pos ha]
      subst hx
      exact ih.assign p (by omega) rest hlen
    · rename_i ha
      rw [if_neg ha]
      subst hx
      exact ih.exprStmt p (by omega) rest hlen
  case breakKw | continueKw =>
    subst hx
    simp only [Step.out_mk, skipSemicolon_extend hp]
  all_goals
    subst hx
    exact ih.exprStmt p (by omega) rest hlen

theorem letStmt_step (ih : Extensible (p.toks.length * 8 + 5)) (rest : List Token) :
  Step.Extends rest (parseLet p) (parseLet (p.extend rest))
  := by
  intro hlen
  have hp : 2 ≤ p.toks.length := Nat.le_trans hlen (parseLet p).le
  generalize hx : parseLet p = x at hlen
  rw [parseLet] at hx
  rw [parseLet]
  simp only [cur_extend (ne_nil_of_two_le hp)]
  split at hx
  · rename_i q hq
    subst hx
    split <;> rename_i _ hq' <;> rw [expect_extend_error hp hq] at hq' <;> cases hq'
    rfl
  rename_i q hq
  split <;> rename_i _ hq' <;> rw [expect_extend_ok hp hq] at hq' <;> cases hq'
  have hqne := expect_ok_ne_nil hq
  have hqlt := expect_ok_lt hq
  have hf := letField_extends q rest
  generalize letField q = st at hx hf
  obtain ⟨field, r, hr⟩ := st
  dsimp only at hx
  have hr2 : 2 ≤ r.toks.length := by
    split at hx
    · subst hx
      rw [← expect_error_toks ‹_›]
      exact hlen
    · exact two_le_of_expect_ok ‹_›
  generalize letField (q.extend rest) = st at hf ⊢
  obtain ⟨field', r', hr'⟩ := st
  obtain ⟨rfl, rfl⟩ := hf.eq hr2
  dsimp only
  split at hx
  · rename_i s hs
    subst hx
    split <;> rename_i _ hs' <;> rw [expect_extend_error hr2 hs] at hs' <;> cases hs'
    rfl
  rename_i s hs
  split <;> rename_i _ hs' <;> rw [expect_extend_ok hr2 hs] at hs' <;> cases hs'
  have hsne := expect_ok_ne_nil hs
  have hc := ih.expr 0 s.advance (by have := expect_ok_lt hs; have := advance_le s; omega) rest
  rw [← advance_extend hsne] at hc
  generalize parseExpr 0 s.advance = st at hx hc
  obtain ⟨v, u, hu⟩ := st
  subst hx
  have hu2 : 2 ≤ u.toks.length := Nat.le_trans hlen (skipSemicolon_le u)
  generalize parseExpr 0 (s.extend rest).advance = st at hc ⊢
  obtain ⟨v', u', hu'⟩ := st
  obtain ⟨rfl, rfl⟩ := hc.eq hu2
  simp only [Step.out_mk, skipSemicolon_extend hu2, identHere_extend hqne]

theorem returnStmt_step (hp : p.toks ≠ []) (ih : Extensible (p.toks.length * 8 + 5))
    (rest : List Token) (hp' : (p.extend rest).toks ≠ []) :
  Step.Extends rest (parseReturn p hp) (parseReturn (p.extend rest) hp')
  := by
  intro hlen
  have hp2 : 2 ≤ p.toks.length := Nat.le_trans hlen (parseReturn p hp).le
  have hane : p.advance.toks ≠ [] :=
    List.ne_nil_of_length_pos (by rw [length_advance]; omega)
  have hk : (p.extend rest).advance.cur = p.advance.cur := by
    rw [advance_extend hp, cur_extend hane]
  generalize hx : parseReturn p hp = x at hlen
  rw [parseReturn] at hx
  rw [parseReturn]
  dsimp only at hx ⊢
  split at hx
  · rename_i hc
    rw [if_pos (by rw [hk]; exact hc)]
    subst hx
    simp only [Step.out_mk, advance_extend hp, cur_extend hp]
  rename_i hc
  rw [if_neg (by rw [hk]; exact hc)]
  have he := ih.expr 0 p.advance (by have := advance_lt hp; omega) rest
  rw [← advance_extend hp] at he
  generalize parseExpr 0 p.advance = st at hx he
  obtain ⟨v, u, hu⟩ := st
  subst hx
  have hu2 : 2 ≤ u.toks.length := Nat.le_trans hlen (skipSemicolon_le u)
  generalize parseExpr 0 (p.extend rest).advance = st at he ⊢
  obtain ⟨v', u', hu'⟩ := st
  obtain ⟨rfl, rfl⟩ := he.eq hu2
  simp only [Step.out_mk, skipSemicolon_extend hu2, cur_extend hp]

theorem assign_step (ih : Extensible (p.toks.length * 8 + 5)) (rest : List Token) :
  Step.Extends rest (parseAssign p) (parseAssign (p.extend rest))
  := by
  intro hlen
  have hp : 2 ≤ p.toks.length := Nat.le_trans hlen (parseAssign p).le
  generalize hx : parseAssign p = x at hlen
  rw [parseAssign] at hx
  rw [parseAssign]
  simp only [identHere_extend (ne_nil_of_two_le hp)]
  split at hx
  · rename_i q hq
    subst hx
    split <;> rename_i _ hq' <;> rw [expect_extend_error hp hq] at hq' <;> cases hq'
    rfl
  rename_i q hq
  split <;> rename_i _ hq' <;> rw [expect_extend_ok hp hq] at hq' <;> cases hq'
  have hqne := expect_ok_ne_nil hq
  have he := ih.expr 0 q.advance (by have := expect_ok_lt hq; have := advance_le q; omega) rest
  rw [← advance_extend hqne] at he
  generalize parseExpr 0 q.advance = st at hx he
  obtain ⟨v, u, hu⟩ := st
  subst hx
  have hu2 : 2 ≤ u.toks.length := Nat.le_trans hlen (skipSemicolon_le u)
  generalize parseExpr 0 (q.extend rest).advance = st at he ⊢
  obtain ⟨v', u', hu'⟩ := st
  obtain ⟨rfl, rfl⟩ := he.eq hu2
  simp only [Step.out_mk, skipSemicolon_extend hu2]

theorem exprStmt_step (ih : Extensible (p.toks.length * 8 + 5)) (rest : List Token) :
  Step.Extends rest (parseExprStmt p) (parseExprStmt (p.extend rest))
  := by
  intro hlen
  have hp : 2 ≤ p.toks.length := Nat.le_trans hlen (parseExprStmt p).le
  have he := ih.expr 0 p (by omega) rest
  generalize hx : parseExprStmt p = x at hlen
  rw [parseExprStmt] at hx
  rw [parseExprStmt]
  generalize parseExpr 0 p = st at hx he
  obtain ⟨v, u, hu⟩ := st
  subst hx
  have hu2 : 2 ≤ u.toks.length := Nat.le_trans hlen (skipSemicolon_le u)
  generalize parseExpr 0 (p.extend rest) = st at he ⊢
  obtain ⟨v', u', hu'⟩ := st
  obtain ⟨rfl, rfl⟩ := he.eq hu2
  simp only [Step.out_mk, skipSemicolon_extend hu2, cur_extend (ne_nil_of_two_le hp)]

theorem expr_step (prec : Nat) (ih : Extensible (p.toks.length * 8 + 4)) (rest : List Token) :
  Step.Extends rest (parseExpr prec p) (parseExpr prec (p.extend rest))
  := by
  intro hlen
  have hp : 2 ≤ p.toks.length := Nat.le_trans hlen (parseExpr prec p).le
  generalize hx : parseExpr prec p = x at hlen
  rw [parseExpr] at hx
  rw [parseExpr, cur_extend (ne_nil_of_two_le hp)]
  split at hx
  · rename_i hs
    rw [if_pos hs]
    subst hx
    exact noPrefix_extends hlen
  rename_i hs
  rw [if_neg hs]
  have hf := ih.first p (by omega) rest
  generalize parsePrefix p = st at hx hf
  obtain ⟨left, q, hq⟩ := st
  dsimp only at hx
  have hl := ih.loop prec left q (by omega) rest
  generalize infixLoop prec left q = st at hx hl
  obtain ⟨e, r, hr⟩ := st
  subst hx
  have hq2 : 2 ≤ q.toks.length := Nat.le_trans hlen hr
  generalize parsePrefix (p.extend rest) = st at hf ⊢
  obtain ⟨left', q', hq'⟩ := st
  obtain ⟨rfl, rfl⟩ := hf.eq hq2
  dsimp only
  generalize infixLoop prec _ (q.extend rest) = st at hl ⊢
  obtain ⟨e', r', hr'⟩ := st
  obtain ⟨rfl, rfl⟩ := hl.eq hlen
  rfl

theorem first_step (ih : Extensible (p.toks.length * 8 + 3)) (rest : List Token) :
  Step.Extends rest (parsePrefix p) (parsePrefix (p.extend rest))
  := by
  intro hlen
  have hp : 2 ≤ p.toks.length := Nat.le_trans hlen (parsePrefix p).le
  have hne := ne_nil_of_two_le hp
  generalize hx : parsePrefix p = x at hlen
  rw [parsePrefix, dif_neg hne] at hx
  rw [parsePrefix, dif_neg (extend_ne_nil hne)]
  dsimp only at hx ⊢
  rw [cur_extend hne]
  generalize p.cur.kind = k at hx ⊢
  cases k <;> dsimp only at hx ⊢ <;> subst hx
  case ident => simp only [Step.out_mk, identHere_extend hne]
  case int => exact numberLiteral_extends hlen
  case string | trueKw | falseKw => rfl
  case bang | minus => exact ih.prefixOp p hne (by omega) rest _ hlen
  case lparen => exact ih.grouped p hne (by omega) rest _ hlen
  case ifKw => exact ih.ifElse p (by omega) rest hlen
  case whileKw => exact ih.whileLoop p (by omega) rest hlen
  case forKw => exact ih.forLoop p (by omega) rest hlen
  case fnKw => exact ih.function p (by omega) rest hlen
  case classKw => exact ih.classDef p (by omega) rest hlen
  case lbracket => exact ih.array p hne (by omega) rest _ hlen
  case lbrace => exact ih.hash p hne (by omega) rest _ hlen
  all_goals exact noPrefix_extends hlen

/-- The operator after an operand reads only its own tokens, whichever reading it is. -/
theorem operator_step (left : Option Expr) (hp : p.toks ≠ []) {n : Nat} (ih : Extensible n)
    (hn : p.toks.length * 8 + 2 < n) (rest : List Token) (hp' : (p.extend rest).toks ≠ []) :
  Step.Extends rest (operatorStep left p hp) (operatorStep left (p.extend rest) hp')
  := by
  unfold operatorStep
  rw [cur_extend hp]
  by_cases hl : p.cur.kind = .lparen
  · rw [if_pos hl, if_pos hl]
    exact ih.call left p hp hn rest hp'
  by_cases hb : p.cur.kind = .lbracket
  · rw [if_neg hl, if_neg hl, if_pos hb, if_pos hb]
    exact ih.index left p hp hn rest hp'
  · rw [if_neg hl, if_neg hl, if_neg hb, if_neg hb]
    exact ih.infixOp left p hp hn rest hp'

theorem loop_step (prec : Nat) (left : Option Expr) (ih : Extensible (p.toks.length * 8 + 3))
    (rest : List Token) :
  Step.Extends rest (infixLoop prec left p) (infixLoop prec left (p.extend rest))
  := by
  intro hlen
  have hp : 2 ≤ p.toks.length := Nat.le_trans hlen (infixLoop prec left p).le
  cases hc : p.continues prec with
  | false =>
    have hx : (infixLoop prec left p).out = (left, p) := infixLoop_stop hc
    rw [Step.val_eq hx, Step.state_eq hx,
      infixLoop_stop (by rw [continues_extend hp]; exact hc)]
  | true =>
    have hne := toks_ne_nil_of_continues hc
    have hc' : (p.extend rest).continues prec = true := by rw [continues_extend hp]; exact hc
    refine Step.Extends.of_out (infixLoop_continues hc) (infixLoop_continues hc') ?_ hlen
    have h₁ := operator_step left hne.2 ih (by have := advance_lt hne.1; omega) rest
    rw [← advance_extend hne.1] at h₁
    specialize h₁ (toks_ne_nil_of_continues hc').2
    generalize operatorStep left p.advance _ = x at h₁ ⊢
    generalize operatorStep left (p.extend rest).advance _ = y at h₁ ⊢
    intro hlen'
    have hx2 : 2 ≤ x.state.toks.length := Nat.le_trans hlen' (infixLoop prec x.val x.state).le
    obtain ⟨v, u, hu⟩ := y
    obtain ⟨rfl, rfl⟩ := h₁.eq hx2
    exact ih.loop prec x.val x.state (by have := x.le; have := advance_lt hne.1; omega) rest hlen'

theorem prefixOp_step (hp : p.toks ≠ []) (ih : Extensible (p.toks.length * 8 + 2))
    (rest : List Token) (hp' : (p.extend rest).toks ≠ []) :
  Step.Extends rest (parsePrefixOp p hp) (parsePrefixOp (p.extend rest) hp')
  := by
  intro hlen
  have he := ih.expr prefixStrength p.advance (by have := advance_lt hp; omega) rest
  rw [← advance_extend hp] at he
  generalize hx : parsePrefixOp p hp = x at hlen
  rw [parsePrefixOp] at hx
  rw [parsePrefixOp]
  dsimp only at hx ⊢
  generalize parseExpr prefixStrength p.advance = st at hx he
  obtain ⟨r, u, hu⟩ := st
  subst hx
  generalize parseExpr prefixStrength (p.extend rest).advance = st at he ⊢
  obtain ⟨r', u', hu'⟩ := st
  obtain ⟨rfl, rfl⟩ := he.eq hlen
  simp only [Step.out_mk, cur_extend hp]

theorem grouped_step (hp : p.toks ≠ []) (ih : Extensible (p.toks.length * 8 + 2))
    (rest : List Token) (hp' : (p.extend rest).toks ≠ []) :
  Step.Extends rest (parseGrouped p hp) (parseGrouped (p.extend rest) hp')
  := by
  intro hlen
  have he := ih.expr 0 p.advance (by have := advance_lt hp; omega) rest
  rw [← advance_extend hp] at he
  generalize hx : parseGrouped p hp = x at hlen
  rw [parseGrouped] at hx
  rw [parseGrouped]
  dsimp only at hx ⊢
  generalize parseExpr 0 p.advance = st at hx he
  obtain ⟨e, u, hu⟩ := st
  dsimp only at hx
  have hu2 : 2 ≤ u.toks.length := by
    split at hx
    · exact two_le_of_expect_ok ‹_›
    · subst hx
      rw [← expect_error_toks ‹_›]
      exact hlen
  generalize parseExpr 0 (p.extend rest).advance = st at he ⊢
  obtain ⟨e', u', hu'⟩ := st
  obtain ⟨rfl, rfl⟩ := he.eq hu2
  dsimp only
  split at hx
  · rename_i r hr
    subst hx
    split <;> rename_i _ hr' <;> rw [expect_extend_ok hu2 hr] at hr' <;> cases hr'
    rfl
  · rename_i r hr
    subst hx
    split <;> rename_i _ hr' <;> rw [expect_extend_error hu2 hr] at hr' <;> cases hr'
    rfl

theorem infixOp_step (left : Option Expr) (hp : p.toks ≠ [])
    (ih : Extensible (p.toks.length * 8 + 2)) (rest : List Token)
    (hp' : (p.extend rest).toks ≠ []) :
  Step.Extends rest (parseInfix left p hp) (parseInfix left (p.extend rest) hp')
  := by
  intro hlen
  have he := ih.expr p.cur.kind.strength p.advance (by have := advance_lt hp; omega) rest
  rw [← advance_extend hp] at he
  generalize hx : parseInfix left p hp = x at hlen
  rw [parseInfix] at hx
  rw [parseInfix]
  dsimp only at hx ⊢
  rw [cur_extend hp]
  generalize parseExpr p.cur.kind.strength p.advance = st at hx he
  obtain ⟨r, u, hu⟩ := st
  subst hx
  generalize parseExpr p.cur.kind.strength (p.extend rest).advance = st at he ⊢
  obtain ⟨r', u', hu'⟩ := st
  obtain ⟨rfl, rfl⟩ := he.eq hlen
  rfl

theorem call_step (left : Option Expr) (hp : p.toks ≠ []) (ih : Extensible (p.toks.length * 8 + 2))
    (rest : List Token) (hp' : (p.extend rest).toks ≠ []) :
  Step.Extends rest (parseCall left p hp) (parseCall left (p.extend rest) hp')
  := by
  intro hlen
  have he := ih.exprList .rparen p hp (by omega) rest hp'
  generalize hx : parseCall left p hp = x at hlen
  rw [parseCall] at hx
  rw [parseCall]
  dsimp only at hx ⊢
  generalize Parser.exprList .rparen p hp = st at hx he
  obtain ⟨args, u, hu⟩ := st
  subst hx
  generalize Parser.exprList .rparen (p.extend rest) hp' = st at he ⊢
  obtain ⟨args', u', hu'⟩ := st
  obtain ⟨rfl, rfl⟩ := he.eq hlen
  simp only [Step.out_mk, cur_extend hp]

theorem index_step (left : Option Expr) (hp : p.toks ≠ []) (ih : Extensible (p.toks.length * 8 + 2))
    (rest : List Token) (hp' : (p.extend rest).toks ≠ []) :
  Step.Extends rest (parseIndex left p hp) (parseIndex left (p.extend rest) hp')
  := by
  intro hlen
  have he := ih.expr 0 p.advance (by have := advance_lt hp; omega) rest
  rw [← advance_extend hp] at he
  generalize hx : parseIndex left p hp = x at hlen
  rw [parseIndex] at hx
  rw [parseIndex]
  dsimp only at hx ⊢
  simp only [cur_extend hp]
  generalize parseExpr 0 p.advance = st at hx he
  obtain ⟨i, u, hu⟩ := st
  dsimp only at hx
  have hu2 : 2 ≤ u.toks.length := by
    split at hx
    · exact two_le_of_expect_ok ‹_›
    · subst hx
      rw [← expect_error_toks ‹_›]
      exact hlen
  generalize parseExpr 0 (p.extend rest).advance = st at he ⊢
  obtain ⟨i', u', hu'⟩ := st
  obtain ⟨rfl, rfl⟩ := he.eq hu2
  dsimp only
  split at hx
  · rename_i r hr
    subst hx
    split <;> rename_i _ hr' <;> rw [expect_extend_ok hu2 hr] at hr' <;> cases hr'
    rfl
  · rename_i r hr
    subst hx
    split <;> rename_i _ hr' <;> rw [expect_extend_error hu2 hr] at hr' <;> cases hr'
    rfl

theorem exprList_step (close : TokenKind) (hp : p.toks ≠ [])
    (ih : Extensible (p.toks.length * 8 + 1)) (rest : List Token)
    (hp' : (p.extend rest).toks ≠ []) :
  Step.Extends rest (Parser.exprList close p hp) (Parser.exprList close (p.extend rest) hp')
  := by
  intro hlen
  have hp2 : 2 ≤ p.toks.length := Nat.le_trans hlen (Parser.exprList close p hp).le
  generalize hx : Parser.exprList close p hp = x at hlen
  rw [Monkey.Parser.exprList] at hx
  rw [Monkey.Parser.exprList, peek_extend hp2]
  split at hx
  · rename_i hc
    rw [if_pos hc]
    subst hx
    simp only [Step.out_mk, advance_extend hp]
  rename_i hc
  rw [if_neg hc]
  dsimp only at hx ⊢
  have he := ih.expr 0 p.advance (by have := advance_lt hp; omega) rest
  rw [← advance_extend hp] at he
  generalize parseExpr 0 p.advance = st at hx he
  obtain ⟨e, u, hu⟩ := st
  dsimp only at hx
  have hl := ih.exprListLoop close u #[e] (by have := advance_lt hp; omega) rest
  generalize Parser.exprListLoop close u #[e] = st at hx hl
  obtain ⟨es, r, hr⟩ := st
  subst hx
  have hu2 : 2 ≤ u.toks.length := Nat.le_trans hlen hr
  generalize parseExpr 0 (p.extend rest).advance = st at he ⊢
  obtain ⟨e', u', hu'⟩ := st
  obtain ⟨rfl, rfl⟩ := he.eq hu2
  dsimp only
  generalize Parser.exprListLoop close (u.extend rest) _ = st at hl ⊢
  obtain ⟨es', r', hr'⟩ := st
  obtain ⟨rfl, rfl⟩ := hl.eq hlen
  rfl

theorem exprListLoop_step (close : TokenKind) (acc : Array (Option Expr))
    (ih : Extensible (p.toks.length * 8 + 1)) (rest : List Token) :
  Step.Extends rest (Parser.exprListLoop close p acc)
    (Parser.exprListLoop close (p.extend rest) acc)
  := by
  intro hlen
  have hp : 2 ≤ p.toks.length := Nat.le_trans hlen (Parser.exprListLoop close p acc).le
  generalize hx : Parser.exprListLoop close p acc = x at hlen
  rw [Monkey.Parser.exprListLoop] at hx
  rw [Monkey.Parser.exprListLoop]
  split at hx
  case isFalse hc =>
    rw [dif_neg (by rw [peek_extend hp]; exact hc)]
    subst hx
    exact closeList_extends close acc hlen
  rename_i hc
  rw [dif_pos (by rw [peek_extend hp]; exact hc)]
  have hane : p.advance.toks ≠ [] := by
    apply List.ne_nil_of_length_pos
    have := two_le_of_peek (by rw [hc]; decide)
    rw [length_advance]
    omega
  have hlt : p.advance.advance.toks.length < p.toks.length := by
    have := advance_le p.advance
    have := advance_lt (ne_nil_of_two_le hp)
    omega
  dsimp only at hx ⊢
  have he := ih.expr 0 p.advance.advance (by omega) rest
  rw [← advance_extend hane, ← advance_extend (ne_nil_of_two_le hp)] at he
  generalize parseExpr 0 p.advance.advance = st at hx he
  obtain ⟨e, u, hu⟩ := st
  dsimp only at hx
  have hl := ih.exprListLoop close u (acc.push e) (by omega) rest
  generalize Parser.exprListLoop close u (acc.push e) = st at hx hl
  obtain ⟨es, r, hr⟩ := st
  subst hx
  have hu2 : 2 ≤ u.toks.length := Nat.le_trans hlen hr
  generalize parseExpr 0 (p.extend rest).advance.advance = st at he ⊢
  obtain ⟨e', u', hu'⟩ := st
  obtain ⟨rfl, rfl⟩ := he.eq hu2
  dsimp only
  generalize Parser.exprListLoop close (u.extend rest) _ = st at hl ⊢
  obtain ⟨es', r', hr'⟩ := st
  obtain ⟨rfl, rfl⟩ := hl.eq hlen
  rfl

theorem ifElse_step (ih : Extensible (p.toks.length * 8 + 2)) (rest : List Token) :
  Step.Extends rest (parseIf p) (parseIf (p.extend rest))
  := by
  intro hlen
  have hp : 2 ≤ p.toks.length := Nat.le_trans hlen (parseIf p).le
  generalize hx : parseIf p = x at hlen
  rw [parseIf] at hx
  rw [parseIf]
  simp only [cur_extend (ne_nil_of_two_le hp)]
  split at hx
  · rename_i q hq
    subst hx
    split <;> rename_i _ hq' <;> rw [expect_extend_error hp hq] at hq' <;> cases hq'
    rfl
  rename_i q hq
  split <;> rename_i _ hq' <;> rw [expect_extend_ok hp hq] at hq' <;> cases hq'
  have hqne := expect_ok_ne_nil hq
  have hqlt := expect_ok_lt hq
  have hc := ih.expr 0 q.advance (by have := advance_le q; omega) rest
  rw [← advance_extend hqne] at hc
  generalize parseExpr 0 q.advance = st at hx hc
  obtain ⟨cond, r, hr⟩ := st
  dsimp only at hx
  have hr2 : 2 ≤ r.toks.length := by
    split at hx
    · subst hx
      rw [← expect_error_toks ‹_›]
      exact hlen
    · exact two_le_of_expect_ok ‹_›
  generalize parseExpr 0 (q.extend rest).advance = st at hc ⊢
  obtain ⟨cond', r', hr'⟩ := st
  obtain ⟨rfl, rfl⟩ := hc.eq hr2
  dsimp only
  split at hx
  · rename_i s hs
    subst hx
    split <;> rename_i _ hs' <;> rw [expect_extend_error hr2 hs] at hs' <;> cases hs'
    rfl
  rename_i s hs
  split <;> rename_i _ hs' <;> rw [expect_extend_ok hr2 hs] at hs' <;> cases hs'
  have hs2 : 2 ≤ s.toks.length := by
    split at hx
    · subst hx
      rw [← expect_error_toks ‹_›]
      exact hlen
    · exact two_le_of_expect_ok ‹_›
  split at hx
  · rename_i u hu
    subst hx
    split <;> rename_i _ hu' <;> rw [expect_extend_error hs2 hu] at hu' <;> cases hu'
    rfl
  rename_i u hu
  split <;> rename_i _ hu' <;> rw [expect_extend_ok hs2 hu] at hu' <;> cases hu'
  have hlt : u.toks.length < p.toks.length := by
    have := expect_ok_lt hu
    have := expect_ok_lt hs
    have := advance_le q
    omega
  have hyes := ih.block u (expect_ok_ne_nil hu) (by omega) rest
  generalize parseBlock u _ = st at hx hyes
  obtain ⟨yes, v, hv⟩ := st
  dsimp only at hx
  have hv2 : 2 ≤ v.toks.length := by
    split at hx
    · exact two_le_of_peek (by rw [‹v.peek.kind = _›]; decide)
    · subst hx
      exact hlen
  generalize hB : (u.extend rest).parseBlock _ = st
  specialize hyes (extend_ne_nil (expect_ok_ne_nil hu))
  rw [hB] at hyes
  obtain ⟨yes', v', hv'⟩ := st
  obtain ⟨rfl, rfl⟩ := hyes.eq hv2
  dsimp only
  rw [peek_extend hv2]
  split at hx
  case isFalse hel =>
    rw [if_neg hel]
    subst hx
    rfl
  rename_i hel
  rw [if_pos hel]
  have hvne : v.toks ≠ [] := ne_nil_of_two_le hv2
  have hva2 : 2 ≤ v.advance.toks.length := by
    split at hx
    · subst hx
      rw [← expect_error_toks ‹_›]
      exact hlen
    · exact two_le_of_expect_ok ‹_›
  split at hx
  · rename_i w hw
    subst hx
    split <;> rename_i _ hw' <;> rw [advance_extend hvne, expect_extend_error hva2 hw] at hw' <;>
      cases hw'
    rfl
  rename_i w hw
  split <;> rename_i _ hw' <;> rw [advance_extend hvne, expect_extend_ok hva2 hw] at hw' <;>
    cases hw'
  have hno := ih.block w (expect_ok_ne_nil hw)
    (by have := expect_ok_lt hw; have := advance_le v; omega) rest
  generalize parseBlock w _ = st at hx hno
  obtain ⟨no, y, hy⟩ := st
  subst hx
  generalize hB : (w.extend rest).parseBlock _ = st
  specialize hno (extend_ne_nil (expect_ok_ne_nil hw))
  rw [hB] at hno
  obtain ⟨no', y', hy'⟩ := st
  obtain ⟨rfl, rfl⟩ := hno.eq hlen
  rfl

theorem whileLoop_step (ih : Extensible (p.toks.length * 8 + 2)) (rest : List Token) :
  Step.Extends rest (parseWhile p) (parseWhile (p.extend rest))
  := by
  intro hlen
  have hp : 2 ≤ p.toks.length := Nat.le_trans hlen (parseWhile p).le
  generalize hx : parseWhile p = x at hlen
  rw [parseWhile] at hx
  rw [parseWhile]
  simp only [cur_extend (ne_nil_of_two_le hp)]
  split at hx
  · rename_i q hq
    subst hx
    split <;> rename_i _ hq' <;> rw [expect_extend_error hp hq] at hq' <;> cases hq'
    rfl
  rename_i q hq
  split <;> rename_i _ hq' <;> rw [expect_extend_ok hp hq] at hq' <;> cases hq'
  have hqne := expect_ok_ne_nil hq
  have hqlt := expect_ok_lt hq
  have hc := ih.expr 0 q.advance (by have := advance_le q; omega) rest
  rw [← advance_extend hqne] at hc
  generalize parseExpr 0 q.advance = st at hx hc
  obtain ⟨cond, r, hr⟩ := st
  dsimp only at hx
  have hr2 : 2 ≤ r.toks.length := by
    split at hx
    · subst hx
      rw [← expect_error_toks ‹_›]
      exact hlen
    · exact two_le_of_expect_ok ‹_›
  generalize parseExpr 0 (q.extend rest).advance = st at hc ⊢
  obtain ⟨cond', r', hr'⟩ := st
  obtain ⟨rfl, rfl⟩ := hc.eq hr2
  dsimp only
  split at hx
  · rename_i s hs
    subst hx
    split <;> rename_i _ hs' <;> rw [expect_extend_error hr2 hs] at hs' <;> cases hs'
    rfl
  rename_i s hs
  split <;> rename_i _ hs' <;> rw [expect_extend_ok hr2 hs] at hs' <;> cases hs'
  have hs2 : 2 ≤ s.toks.length := by
    split at hx
    · subst hx
      rw [← expect_error_toks ‹_›]
      exact hlen
    · exact two_le_of_expect_ok ‹_›
  split at hx
  · rename_i u hu
    subst hx
    split <;> rename_i _ hu' <;> rw [expect_extend_error hs2 hu] at hu' <;> cases hu'
    rfl
  rename_i u hu
  split <;> rename_i _ hu' <;> rw [expect_extend_ok hs2 hu] at hu' <;> cases hu'
  have hbody := ih.block u (expect_ok_ne_nil hu)
    (by have := expect_ok_lt hu; have := expect_ok_lt hs; have := advance_le q; omega) rest
  generalize parseBlock u _ = st at hx hbody
  obtain ⟨body, v, hv⟩ := st
  subst hx
  generalize hB : (u.extend rest).parseBlock _ = st
  specialize hbody (extend_ne_nil (expect_ok_ne_nil hu))
  rw [hB] at hbody
  obtain ⟨body', v', hv'⟩ := st
  obtain ⟨rfl, rfl⟩ := hbody.eq hlen
  rfl

theorem forLoop_step (ih : Extensible (p.toks.length * 8 + 2)) (rest : List Token) :
  Step.Extends rest (parseFor p) (parseFor (p.extend rest))
  := by
  intro hlen
  have hp : 2 ≤ p.toks.length := Nat.le_trans hlen (parseFor p).le
  generalize hx : parseFor p = x at hlen
  rw [parseFor] at hx
  rw [parseFor]
  simp only [cur_extend (ne_nil_of_two_le hp)]
  split at hx
  · rename_i q hq
    subst hx
    split <;> rename_i _ hq' <;> rw [expect_extend_error hp hq] at hq' <;> cases hq'
    rfl
  rename_i q hq
  split <;> rename_i _ hq' <;> rw [expect_extend_ok hp hq] at hq' <;> cases hq'
  have hqne := expect_ok_ne_nil hq
  have hqlt := expect_ok_lt hq
  have hi := ih.forInit q.advance (by have := advance_le q; omega) rest
  rw [← advance_extend hqne] at hi
  generalize Parser.forInit q.advance = st at hx hi
  obtain ⟨init, r, hr⟩ := st
  cases init with
  | none =>
    subst hx
    generalize Parser.forInit (q.extend rest).advance = st at hi ⊢
    obtain ⟨init', r', hr'⟩ := st
    obtain ⟨rfl, rfl⟩ := hi.eq hlen
    rfl
  | some init =>
  dsimp only at hx
  have hc := ih.forCond r.advance (by have := advance_le r; have := advance_le q; omega) rest
  generalize Parser.forCond r.advance = st at hx hc
  obtain ⟨cond, s, hs⟩ := st
  dsimp only at hx
  have hst := ih.forStep s.advance
    (by have := advance_le s; have := advance_le r; have := advance_le q; omega) rest
  generalize Parser.forStep s.advance = st at hx hst
  obtain ⟨step, u, hu⟩ := st
  dsimp only at hx
  have hu2 : 2 ≤ u.toks.length := by
    split at hx
    · split at hx
      · subst hx
        rw [← expect_error_toks ‹_›]
        exact hlen
      · exact two_le_of_expect_ok ‹_›
    · subst hx
      exact hlen
  have hs2 : 2 ≤ s.toks.length := by have := advance_le s; omega
  have hr2 : 2 ≤ r.toks.length := by have := advance_le r; omega
  generalize Parser.forInit (q.extend rest).advance = st at hi ⊢
  obtain ⟨init', r', hr'⟩ := st
  obtain ⟨rfl, rfl⟩ := hi.eq hr2
  dsimp only
  rw [← advance_extend (ne_nil_of_two_le hr2)] at hc
  generalize Parser.forCond (r.extend rest).advance = st at hc ⊢
  obtain ⟨cond', s', hs'⟩ := st
  obtain ⟨rfl, rfl⟩ := hc.eq hs2
  dsimp only
  rw [← advance_extend (ne_nil_of_two_le hs2)] at hst
  generalize Parser.forStep (s.extend rest).advance = st at hst ⊢
  obtain ⟨step', u', hu'⟩ := st
  obtain ⟨rfl, rfl⟩ := hst.eq hu2
  dsimp only
  rw [cur_extend (ne_nil_of_two_le hu2)]
  split at hx
  case isFalse hrp =>
    rw [if_neg hrp]
    subst hx
    rfl
  rename_i hrp
  rw [if_pos hrp]
  split at hx
  · rename_i v hv
    subst hx
    split <;> rename_i _ hv' <;> rw [expect_extend_error hu2 hv] at hv' <;> cases hv'
    rfl
  rename_i v hv
  split <;> rename_i _ hv' <;> rw [expect_extend_ok hu2 hv] at hv' <;> cases hv'
  have hbody := ih.block v (expect_ok_ne_nil hv)
    (by
      have := expect_ok_lt hv; have := advance_le s; have := advance_le r; have := advance_le q
      omega) rest
  generalize parseBlock v _ = st at hx hbody
  obtain ⟨body, w, hw⟩ := st
  subst hx
  generalize hB : (v.extend rest).parseBlock _ = st
  specialize hbody (extend_ne_nil (expect_ok_ne_nil hv))
  rw [hB] at hbody
  obtain ⟨body', w', hw'⟩ := st
  obtain ⟨rfl, rfl⟩ := hbody.eq hlen
  rfl

theorem forInit_step (ih : Extensible (p.toks.length * 8 + 7)) (rest : List Token) :
  Step.Extends rest (Parser.forInit p) (Parser.forInit (p.extend rest))
  := by
  intro hlen
  have hp : 2 ≤ p.toks.length := Nat.le_trans hlen (Parser.forInit p).le
  generalize hx : Parser.forInit p = x at hlen
  rw [Monkey.Parser.forInit] at hx
  rw [Monkey.Parser.forInit, cur_extend (ne_nil_of_two_le hp)]
  split at hx
  · rename_i h1
    rw [if_pos h1]
    subst hx
    rfl
  rename_i h1
  rw [if_neg h1]
  split at hx
  case isFalse h2 =>
    rw [if_neg h2]
    subst hx
    rfl
  rename_i h2
  rw [if_pos h2]
  have hs := ih.statement p (by omega) rest
  generalize parseStatement p = st at hx hs
  obtain ⟨v, r, hr⟩ := st
  subst hx
  generalize parseStatement (p.extend rest) = st at hs ⊢
  obtain ⟨v', r', hr'⟩ := st
  obtain ⟨rfl, rfl⟩ := hs.eq hlen
  rfl

theorem forCond_step (ih : Extensible (p.toks.length * 8 + 7)) (rest : List Token) :
  Step.Extends rest (Parser.forCond p) (Parser.forCond (p.extend rest))
  := by
  intro hlen
  have hp : 2 ≤ p.toks.length := Nat.le_trans hlen (Parser.forCond p).le
  generalize hx : Parser.forCond p = x at hlen
  rw [Monkey.Parser.forCond] at hx
  rw [Monkey.Parser.forCond, cur_extend (ne_nil_of_two_le hp)]
  split at hx
  · rename_i h1
    rw [if_pos h1]
    subst hx
    rfl
  · rename_i h1
    rw [if_neg h1]
    subst hx
    exact ih.statement p (by omega) rest hlen

theorem forStep_step (ih : Extensible (p.toks.length * 8 + 7)) (rest : List Token) :
  Step.Extends rest (Parser.forStep p) (Parser.forStep (p.extend rest))
  := by
  intro hlen
  have hp : 2 ≤ p.toks.length := Nat.le_trans hlen (Parser.forStep p).le
  generalize hx : Parser.forStep p = x at hlen
  rw [Monkey.Parser.forStep] at hx
  rw [Monkey.Parser.forStep, cur_extend (ne_nil_of_two_le hp)]
  split at hx
  · rename_i h1
    rw [if_pos h1]
    subst hx
    rfl
  rename_i h1
  rw [if_neg h1]
  have hs := ih.statement p (by omega) rest
  generalize parseStatement p = st at hx hs
  obtain ⟨v, u, hu⟩ := st
  subst hx
  have hu2 : 2 ≤ u.toks.length := Nat.le_trans hlen (advance_le u)
  generalize parseStatement (p.extend rest) = st at hs ⊢
  obtain ⟨v', u', hu'⟩ := st
  obtain ⟨rfl, rfl⟩ := hs.eq hu2
  simp only [Step.out_mk, advance_extend (ne_nil_of_two_le hu2)]

theorem function_step (ih : Extensible (p.toks.length * 8 + 2)) (rest : List Token) :
  Step.Extends rest (parseFunction p) (parseFunction (p.extend rest))
  := by
  intro hlen
  have hp : 2 ≤ p.toks.length := Nat.le_trans hlen (parseFunction p).le
  generalize hx : parseFunction p = x at hlen
  rw [parseFunction] at hx
  rw [parseFunction]
  simp only [cur_extend (ne_nil_of_two_le hp)]
  split at hx
  · rename_i q hq
    subst hx
    split <;> rename_i _ hq' <;> rw [expect_extend_error hp hq] at hq' <;> cases hq'
    rfl
  rename_i q hq
  split <;> rename_i _ hq' <;> rw [expect_extend_ok hp hq] at hq' <;> cases hq'
  have hps := params_extends q rest
  generalize params q = st at hx hps
  obtain ⟨ps, r, hr⟩ := st
  dsimp only at hx
  have hr2 : 2 ≤ r.toks.length := by
    split at hx
    · subst hx
      rw [← expect_error_toks ‹_›]
      exact hlen
    · exact two_le_of_expect_ok ‹_›
  generalize params (q.extend rest) = st at hps ⊢
  obtain ⟨ps', r', hr'⟩ := st
  obtain ⟨rfl, rfl⟩ := hps.eq hr2
  dsimp only
  split at hx
  · rename_i s hs
    subst hx
    split <;> rename_i _ hs' <;> rw [expect_extend_error hr2 hs] at hs' <;> cases hs'
    rfl
  rename_i s hs
  split <;> rename_i _ hs' <;> rw [expect_extend_ok hr2 hs] at hs' <;> cases hs'
  have hbody := ih.block s (expect_ok_ne_nil hs)
    (by have := expect_ok_lt hs; have := expect_ok_lt hq; omega) rest
  generalize parseBlock s _ = st at hx hbody
  obtain ⟨body, u, hu⟩ := st
  subst hx
  generalize hB : (s.extend rest).parseBlock _ = st
  specialize hbody (extend_ne_nil (expect_ok_ne_nil hs))
  rw [hB] at hbody
  obtain ⟨body', u', hu'⟩ := st
  obtain ⟨rfl, rfl⟩ := hbody.eq hlen
  rfl

theorem classDef_step (ih : Extensible (p.toks.length * 8 + 2)) (rest : List Token) :
  Step.Extends rest (parseClass p) (parseClass (p.extend rest))
  := by
  intro hlen
  have hp : 2 ≤ p.toks.length := Nat.le_trans hlen (parseClass p).le
  generalize hx : parseClass p = x at hlen
  rw [parseClass] at hx
  rw [parseClass]
  simp only [cur_extend (ne_nil_of_two_le hp)]
  split at hx
  · rename_i q hq
    subst hx
    split <;> rename_i _ hq' <;> rw [expect_extend_error hp hq] at hq' <;> cases hq'
    rfl
  rename_i q hq
  split <;> rename_i _ hq' <;> rw [expect_extend_ok hp hq] at hq' <;> cases hq'
  have hbody := ih.block q (expect_ok_ne_nil hq) (by have := expect_ok_lt hq; omega) rest
  generalize parseBlock q _ = st at hx hbody
  obtain ⟨body, u, hu⟩ := st
  subst hx
  generalize hB : (q.extend rest).parseBlock _ = st
  specialize hbody (extend_ne_nil (expect_ok_ne_nil hq))
  rw [hB] at hbody
  obtain ⟨body', u', hu'⟩ := st
  obtain ⟨rfl, rfl⟩ := hbody.eq hlen
  rfl

theorem array_step (hp : p.toks ≠ []) (ih : Extensible (p.toks.length * 8 + 2))
    (rest : List Token) (hp' : (p.extend rest).toks ≠ []) :
  Step.Extends rest (parseArray p hp) (parseArray (p.extend rest) hp')
  := by
  intro hlen
  have he := ih.exprList .rbracket p hp (by omega) rest hp'
  generalize hx : parseArray p hp = x at hlen
  rw [parseArray] at hx
  rw [parseArray]
  dsimp only at hx ⊢
  generalize Parser.exprList .rbracket p hp = st at hx he
  obtain ⟨es, u, hu⟩ := st
  subst hx
  generalize Parser.exprList .rbracket (p.extend rest) hp' = st at he ⊢
  obtain ⟨es', u', hu'⟩ := st
  obtain ⟨rfl, rfl⟩ := he.eq hlen
  simp only [Step.out_mk, cur_extend hp]

theorem hash_step (hp : p.toks ≠ []) (ih : Extensible (p.toks.length * 8 + 2))
    (rest : List Token) (hp' : (p.extend rest).toks ≠ []) :
  Step.Extends rest (parseHash p hp) (parseHash (p.extend rest) hp')
  := by
  intro hlen
  have hl := ih.hashLoop p hp [] (by omega) rest hp'
  generalize hx : parseHash p hp = x at hlen
  rw [parseHash] at hx
  rw [parseHash]
  generalize Parser.hashLoop p hp [] = st at hx hl
  obtain ⟨pairs, u, hu⟩ := st
  have hu2 : 2 ≤ u.toks.length := by
    cases pairs <;> (subst hx; exact hlen)
  generalize Parser.hashLoop (p.extend rest) hp' [] = st at hl ⊢
  obtain ⟨pairs', u', hu'⟩ := st
  obtain ⟨rfl, rfl⟩ := hl.eq hu2
  cases pairs'
  · subst hx
    rfl
  · subst hx
    simp only [Step.out_mk, cur_extend hp]

theorem hashLoop_step (hp : p.toks ≠ []) (acc : List (Option Expr × Option Expr))
    (ih : Extensible (p.toks.length * 8 + 1)) (rest : List Token)
    (hp' : (p.extend rest).toks ≠ []) :
  Step.Extends rest (Parser.hashLoop p hp acc) (Parser.hashLoop (p.extend rest) hp' acc)
  := by
  intro hlen
  have hp2 : 2 ≤ p.toks.length := Nat.le_trans hlen (Parser.hashLoop p hp acc).le
  generalize hx : Parser.hashLoop p hp acc = x at hlen
  rw [Monkey.Parser.hashLoop] at hx
  rw [Monkey.Parser.hashLoop, peek_extend hp2]
  split at hx
  · rename_i hc
    rw [if_pos hc]
    split at hx
    · rename_i q hq
      subst hx
      split <;> rename_i _ hq' <;> rw [expect_extend_ok hp2 hq] at hq' <;> cases hq'
      rfl
    · rename_i q hq
      subst hx
      split <;> rename_i _ hq' <;> rw [expect_extend_error hp2 hq] at hq' <;> cases hq'
      rfl
  rename_i hc
  rw [if_neg hc]
  dsimp only at hx ⊢
  have hk := ih.expr 0 p.advance (by have := advance_lt hp; omega) rest
  rw [← advance_extend hp] at hk
  generalize parseExpr 0 p.advance = st at hx hk
  obtain ⟨key, q, hq⟩ := st
  dsimp only at hx
  have hq2 : 2 ≤ q.toks.length := by
    split at hx
    · subst hx
      rw [← expect_error_toks ‹_›]
      exact hlen
    · exact two_le_of_expect_ok ‹_›
  generalize parseExpr 0 (p.extend rest).advance = st at hk ⊢
  obtain ⟨key', q', hq'⟩ := st
  obtain ⟨rfl, rfl⟩ := hk.eq hq2
  dsimp only
  split at hx
  · rename_i r hr
    subst hx
    split <;> rename_i _ hr' <;> rw [expect_extend_error hq2 hr] at hr' <;> cases hr'
    rfl
  rename_i r hr
  split <;> rename_i _ hr' <;> rw [expect_extend_ok hq2 hr] at hr' <;> cases hr'
  have hrne := expect_ok_ne_nil hr
  have hv := ih.expr 0 r.advance
    (by have := expect_ok_lt hr; have := advance_le r; have := advance_lt hp; omega) rest
  rw [← advance_extend hrne] at hv
  generalize parseExpr 0 r.advance = st at hx hv
  obtain ⟨value, s, hs⟩ := st
  dsimp only at hx
  have hs2 : 2 ≤ s.toks.length := by
    split at hx
    · split at hx
      · exact two_le_of_expect_ok ‹_›
      · subst hx
        rw [← expect_error_toks ‹_›]
        exact hlen
    · split at hx
      · subst hx
        rw [← expect_error_toks ‹_›]
        exact hlen
      · exact two_le_of_expect_ok ‹_›
  generalize parseExpr 0 (r.extend rest).advance = st at hv ⊢
  obtain ⟨value', s', hs'⟩ := st
  obtain ⟨rfl, rfl⟩ := hv.eq hs2
  dsimp only
  rw [peek_extend hs2]
  split at hx
  · rename_i hc2
    rw [if_pos hc2]
    split at hx
    · rename_i u hu
      subst hx
      split <;> rename_i _ hu' <;> rw [expect_extend_ok hs2 hu] at hu' <;> cases hu'
      rfl
    · rename_i u hu
      subst hx
      split <;> rename_i _ hu' <;> rw [expect_extend_error hs2 hu] at hu' <;> cases hu'
      rfl
  rename_i hc2
  rw [if_neg hc2]
  split at hx
  · rename_i u hu
    subst hx
    split <;> rename_i _ hu' <;> rw [expect_extend_error hs2 hu] at hu' <;> cases hu'
    rfl
  rename_i u hu
  split <;> rename_i _ hu' <;> rw [expect_extend_ok hs2 hu] at hu' <;> cases hu'
  have hl := ih.hashLoop u (expect_ok_ne_nil hu) (putPair acc key' value')
    (by
      have := expect_ok_lt hu; have := expect_ok_lt hr; have := advance_le r
      have := advance_lt hp; omega) rest
  generalize Parser.hashLoop u _ _ = st at hx hl
  obtain ⟨ps, v, hv'⟩ := st
  subst hx
  generalize hB : (u.extend rest).hashLoop _ _ = st
  specialize hl (extend_ne_nil (expect_ok_ne_nil hu))
  rw [hB] at hl
  obtain ⟨ps', v', hv''⟩ := st
  obtain ⟨rfl, rfl⟩ := hl.eq hlen
  rfl

theorem block_step (hp : p.toks ≠ []) (ih : Extensible (p.toks.length * 8 + 2))
    (rest : List Token) (hp' : (p.extend rest).toks ≠ []) :
  Step.Extends rest (parseBlock p hp) (parseBlock (p.extend rest) hp')
  := by
  intro hlen
  have hl := ih.blockLoop p.advance #[] (by have := advance_lt hp; omega) rest
  rw [← advance_extend hp] at hl
  generalize hx : parseBlock p hp = x at hlen
  rw [parseBlock] at hx
  rw [parseBlock]
  dsimp only at hx ⊢
  generalize Parser.blockLoop p.advance #[] = st at hx hl
  obtain ⟨stmts, u, hu⟩ := st
  subst hx
  generalize Parser.blockLoop (p.extend rest).advance #[] = st at hl ⊢
  obtain ⟨stmts', u', hu'⟩ := st
  obtain ⟨rfl, rfl⟩ := hl.eq hlen
  simp only [Step.out_mk, cur_extend hp]

theorem blockLoop_step (acc : Array Stmt) (ih : Extensible (p.toks.length * 8 + 7))
    (rest : List Token) :
  Step.Extends rest (Parser.blockLoop p acc) (Parser.blockLoop (p.extend rest) acc)
  := by
  intro hlen
  have hp : 2 ≤ p.toks.length := Nat.le_trans hlen (Parser.blockLoop p acc).le
  have hne := ne_nil_of_two_le hp
  generalize hx : Parser.blockLoop p acc = x at hlen
  rw [Monkey.Parser.blockLoop, dif_neg hne] at hx
  rw [Monkey.Parser.blockLoop, dif_neg (extend_ne_nil hne), cur_extend hne]
  split at hx
  · rename_i hc
    rw [if_pos hc]
    subst hx
    rfl
  rename_i hc
  rw [if_neg hc]
  have hs := ih.statement p (by omega) rest
  generalize parseStatement p = st at hx hs
  obtain ⟨v, q, hq⟩ := st
  dsimp only at hx
  have hqlt : q.advance.toks.length < p.toks.length := by
    have := List.length_pos_iff.2 hne
    rw [length_advance]
    omega
  have hfin : x.state.toks.length ≤ q.advance.toks.length := by
    rw [← hx]
    exact (Parser.blockLoop _ _).le
  have hq2 : 2 ≤ q.toks.length := by
    have := advance_le q
    omega
  have tail : ∀ acc', Step.Extends rest (Parser.blockLoop q.advance acc')
      (Parser.blockLoop (q.extend rest).advance acc') := by
    intro acc'
    rw [advance_extend (ne_nil_of_two_le hq2)]
    exact ih.blockLoop q.advance acc' (by omega) rest
  generalize parseStatement (p.extend rest) = st at hs ⊢
  obtain ⟨v', q', hq'⟩ := st
  obtain ⟨rfl, rfl⟩ := hs.eq hq2
  subst hx
  exact tail _ hlen

theorem zero : Extensible 0 where
  statement _ h := absurd h (Nat.not_lt_zero _)
  letStmt _ h := absurd h (Nat.not_lt_zero _)
  returnStmt _ _ h := absurd h (Nat.not_lt_zero _)
  assign _ h := absurd h (Nat.not_lt_zero _)
  exprStmt _ h := absurd h (Nat.not_lt_zero _)
  expr _ _ h := absurd h (Nat.not_lt_zero _)
  first _ h := absurd h (Nat.not_lt_zero _)
  loop _ _ _ h := absurd h (Nat.not_lt_zero _)
  prefixOp _ _ h := absurd h (Nat.not_lt_zero _)
  grouped _ _ h := absurd h (Nat.not_lt_zero _)
  infixOp _ _ _ h := absurd h (Nat.not_lt_zero _)
  call _ _ _ h := absurd h (Nat.not_lt_zero _)
  index _ _ _ h := absurd h (Nat.not_lt_zero _)
  exprList _ _ _ h := absurd h (Nat.not_lt_zero _)
  exprListLoop _ _ _ h := absurd h (Nat.not_lt_zero _)
  ifElse _ h := absurd h (Nat.not_lt_zero _)
  whileLoop _ h := absurd h (Nat.not_lt_zero _)
  forLoop _ h := absurd h (Nat.not_lt_zero _)
  forInit _ h := absurd h (Nat.not_lt_zero _)
  forCond _ h := absurd h (Nat.not_lt_zero _)
  forStep _ h := absurd h (Nat.not_lt_zero _)
  function _ h := absurd h (Nat.not_lt_zero _)
  classDef _ h := absurd h (Nat.not_lt_zero _)
  array _ _ h := absurd h (Nat.not_lt_zero _)
  hash _ _ h := absurd h (Nat.not_lt_zero _)
  hashLoop _ _ _ h := absurd h (Nat.not_lt_zero _)
  block _ _ h := absurd h (Nat.not_lt_zero _)
  blockLoop _ _ h := absurd h (Nat.not_lt_zero _)

theorem mono {m n : Nat} (h : Extensible n) (hle : m ≤ n) : Extensible m where
  statement p hp := h.statement p (by omega)
  letStmt p hp := h.letStmt p (by omega)
  returnStmt p hne hp := h.returnStmt p hne (by omega)
  assign p hp := h.assign p (by omega)
  exprStmt p hp := h.exprStmt p (by omega)
  expr prec p hp := h.expr prec p (by omega)
  first p hp := h.first p (by omega)
  loop prec left p hp := h.loop prec left p (by omega)
  prefixOp p hne hp := h.prefixOp p hne (by omega)
  grouped p hne hp := h.grouped p hne (by omega)
  infixOp left p hne hp := h.infixOp left p hne (by omega)
  call left p hne hp := h.call left p hne (by omega)
  index left p hne hp := h.index left p hne (by omega)
  exprList close p hne hp := h.exprList close p hne (by omega)
  exprListLoop close p acc hp := h.exprListLoop close p acc (by omega)
  ifElse p hp := h.ifElse p (by omega)
  whileLoop p hp := h.whileLoop p (by omega)
  forLoop p hp := h.forLoop p (by omega)
  forInit p hp := h.forInit p (by omega)
  forCond p hp := h.forCond p (by omega)
  forStep p hp := h.forStep p (by omega)
  function p hp := h.function p (by omega)
  classDef p hp := h.classDef p (by omega)
  array p hne hp := h.array p hne (by omega)
  hash p hne hp := h.hash p hne (by omega)
  hashLoop p hne acc hp := h.hashLoop p hne acc (by omega)
  block p hne hp := h.block p hne (by omega)
  blockLoop p acc hp := h.blockLoop p acc (by omega)

/-- A call whose measure is below `n + 1` reads only its tokens by its step lemma, whose own
calls have measures below its own. -/
theorem succ {n : Nat} (h : Extensible n) : Extensible (n + 1) where
  statement _ hp := statement_step (h.mono (by omega))
  letStmt _ hp := letStmt_step (h.mono (by omega))
  returnStmt _ hne hp := returnStmt_step hne (h.mono (by omega))
  assign _ hp := assign_step (h.mono (by omega))
  exprStmt _ hp := exprStmt_step (h.mono (by omega))
  expr prec _ hp := expr_step prec (h.mono (by omega))
  first _ hp := first_step (h.mono (by omega))
  loop prec left _ hp := loop_step prec left (h.mono (by omega))
  prefixOp _ hne hp := prefixOp_step hne (h.mono (by omega))
  grouped _ hne hp := grouped_step hne (h.mono (by omega))
  infixOp left _ hne hp := infixOp_step left hne (h.mono (by omega))
  call left _ hne hp := call_step left hne (h.mono (by omega))
  index left _ hne hp := index_step left hne (h.mono (by omega))
  exprList close _ hne hp := exprList_step close hne (h.mono (by omega))
  exprListLoop close _ acc hp := exprListLoop_step close acc (h.mono (by omega))
  ifElse _ hp := ifElse_step (h.mono (by omega))
  whileLoop _ hp := whileLoop_step (h.mono (by omega))
  forLoop _ hp := forLoop_step (h.mono (by omega))
  forInit _ hp := forInit_step (h.mono (by omega))
  forCond _ hp := forCond_step (h.mono (by omega))
  forStep _ hp := forStep_step (h.mono (by omega))
  function _ hp := function_step (h.mono (by omega))
  classDef _ hp := classDef_step (h.mono (by omega))
  array _ hne hp := array_step hne (h.mono (by omega))
  hash _ hne hp := hash_step hne (h.mono (by omega))
  hashLoop _ hne acc hp := hashLoop_step hne acc (h.mono (by omega))
  block _ hne hp := block_step hne (h.mono (by omega))
  blockLoop _ acc hp := blockLoop_step acc (h.mono (by omega))

/-- Every parsing function reads only its own tokens. -/
theorem all :
  ∀ n, Extensible n
  | 0 => zero
  | n + 1 => (all n).succ

end Extensible

/-- An expression that ends with two tokens left reads the same when more tokens follow. -/
theorem expr_extends (prec : Nat) (p : Parser) (rest : List Token) :
  Step.Extends rest (parseExpr prec p) (parseExpr prec (p.extend rest))
  := (Extensible.all _).expr prec p (Nat.lt_succ_self _) rest

/-- A statement that ends with two tokens left reads the same when more tokens follow. -/
theorem statement_extends (p : Parser) (rest : List Token) :
  Step.Extends rest (parseStatement p) (parseStatement (p.extend rest))
  := (Extensible.all _).statement p (Nat.lt_succ_self _) rest

end Parser

end Monkey
