import Monkey.Proofs.Parsing

/-!
# Where the parser leaves holes

The parser records an error and goes on, and a child it cannot read is a hole (`none`). A tree
is *complete* (`Program.complete`) when it has no hole but where the syntax lets a part be
absent: the value of `return`, the field of `let`, the `else` block of a conditional and the
three parts of a `for` header.

Every hole but one kind comes with an error. The exception is the `for` loop: a header whose
first part is neither empty nor a `let` statement, or whose step is not followed by `)`, ends
the loop with a hole and reports nothing (`Parser.abandonsFor`). So a parse that reports no
error, on tokens where no `for` header is abandoned (`Parser.NoAbandonedFor`), gives a
complete tree (`Program.parse_complete`).

A block ends at its `}` or at the end of the input, and ending at the end reports nothing:
`if (true) { 1` parses with no error into a conditional whose block was never closed.

The proof follows the parser's own termination argument: every function is shown *fine* on
its state (`Parser.Fine`), by strong induction on the measure `8 * tokens + rank`
(`Parser.Sound`). A fine step reaches a state whose tokens are a suffix of the ones it started
with and whose errors include the ones it started with, and when it adds no error its value is
complete.
-/

namespace Monkey

/-! ### Complete trees -/

mutual

/-- No child of the expression is a hole, except those the syntax lets be absent. -/
def Expr.complete : Expr → Bool
  | .ident _ | .number .. | .boolean .. | .string .. => true
  | .prefixOp _ _ right => Expr.completeOpt right
  | .infixOp _ left _ right => Expr.completeOpt left && Expr.completeOpt right
  | .ifElse _ cond yes no => Expr.completeOpt cond && Block.complete yes && Block.completeOpt no
  | .function _ params body => params.isSome && Block.complete body
  | .call _ callee args => Expr.completeOpt callee && Expr.completeArgs args
  | .array _ elems => Expr.completeArgs elems
  | .index _ target key => Expr.completeOpt target && Expr.completeOpt key
  | .hash _ pairs => Expr.completePairs pairs
  | .whileLoop _ cond body => Expr.completeOpt cond && Block.complete body
  | .forLoop _ init cond step body =>
    Stmt.completeOpt init && Stmt.completeOpt cond && Stmt.completeOpt step && Block.complete body
  | .classDef _ body => Block.complete body

/-- An expression that must be there: a hole is not complete. -/
def Expr.completeOpt : Option Expr → Bool
  | none => false
  | some e => e.complete

/-- The arguments of a call or the elements of an array: a list that was closed. -/
def Expr.completeArgs : Option (List (Option Expr)) → Bool
  | none => false
  | some es => Expr.completeList es

/-- Expressions that must all be there. -/
def Expr.completeList : List (Option Expr) → Bool
  | [] => true
  | e :: rest => Expr.completeOpt e && Expr.completeList rest

/-- The pairs of a hash literal, keys and values alike. -/
def Expr.completePairs : List (Option Expr × Option Expr) → Bool
  | [] => true
  | (k, v) :: rest => Expr.completeOpt k && Expr.completeOpt v && Expr.completePairs rest

/-- No child of the statement is a hole; `return` may have no value. -/
def Stmt.complete : Stmt → Bool
  | .letStmt _ _ value _ => Expr.completeOpt value
  | .returnStmt _ none => true
  | .returnStmt _ (some e) => e.complete
  | .exprStmt _ e => Expr.completeOpt e
  | .assign _ _ value => Expr.completeOpt value
  | .breakStmt | .continueStmt => true

/-- A statement that may be absent, as the parts of a `for` header. -/
def Stmt.completeOpt : Option Stmt → Bool
  | none => true
  | some s => s.complete

/-- Statements in order. -/
def Stmt.completeList : List Stmt → Bool
  | [] => true
  | s :: rest => s.complete && Stmt.completeList rest

/-- A block is complete when its statements are. -/
def Block.complete : Block → Bool
  | .mk _ stmts => Stmt.completeList stmts

/-- An `else` block, which may be absent. -/
def Block.completeOpt : Option Block → Bool
  | none => true
  | some b => b.complete

end

/-- A program is complete when its statements are. -/
def Program.complete (p : Program) : Bool := Stmt.completeList p.stmts

theorem Expr.completeList_iff {es : List (Option Expr)} :
  Expr.completeList es = true ↔ ∀ e ∈ es, Expr.completeOpt e = true
  := by
  induction es with
  | nil => simp [Expr.completeList]
  | cons e rest ih => simp [Expr.completeList, ih]

theorem Expr.completePairs_iff {ps : List (Option Expr × Option Expr)} :
  Expr.completePairs ps = true ↔
    ∀ p ∈ ps, Expr.completeOpt p.1 = true ∧ Expr.completeOpt p.2 = true
  := by
  induction ps with
  | nil => simp [Expr.completePairs]
  | cons p rest ih =>
    obtain ⟨k, v⟩ := p
    simp [Expr.completePairs, ih, and_assoc]

theorem Stmt.completeList_iff {ss : List Stmt} :
  Stmt.completeList ss = true ↔ ∀ s ∈ ss, s.complete = true
  := by
  induction ss with
  | nil => simp [Stmt.completeList]
  | cons s rest ih => simp [Stmt.completeList, ih]

theorem Expr.completeOpt_iff {e : Option Expr} :
  Expr.completeOpt e = true ↔ ∃ e', e = some e' ∧ e'.complete = true
  := by
  cases e <;> simp [Expr.completeOpt]

/-- A pair whose key is there is added at the end, so complete pairs stay complete. -/
theorem Expr.completePairs_putPair {acc : List (Option Expr × Option Expr)}
    {key value : Option Expr} (hacc : Expr.completePairs acc = true)
    (hk : Expr.completeOpt key = true) (hv : Expr.completeOpt value = true) :
  Expr.completePairs (Parser.putPair acc key value) = true
  := by
  obtain ⟨k, rfl, _⟩ := Expr.completeOpt_iff.1 hk
  rw [Parser.putPair, Expr.completePairs_iff]
  intro p hp
  rcases List.mem_append.1 hp with hp | hp
  · exact Expr.completePairs_iff.1 hacc p hp
  · rw [List.mem_singleton.1 hp]
    exact ⟨hk, hv⟩

namespace Parser

/-! ### Abandoned `for` headers -/

/-- Reading a `for` loop from this state gives a hole and reports nothing: the header's first
part is neither empty nor a `let` statement, or its step is not followed by `)`. -/
def abandonsFor (p : Parser) : Prop :=
  (parseFor p).val = none ∧ (parseFor p).state.errors.size ≤ p.errors.size

/-- No state on a suffix of the tokens whose current token is `for` abandons the loop. -/
def NoAbandonedFor (toks : List Token) : Prop :=
  ∀ q : Parser, q.toks <:+ toks → q.cur.kind = .forKw → ¬ q.abandonsFor

theorem NoAbandonedFor.suffix {toks toks' : List Token} (h : NoAbandonedFor toks)
    (hs : toks' <:+ toks) :
  NoAbandonedFor toks'
  := fun q hq hk => h q (hq.trans hs) hk

/-- Tokens with no `for` keyword abandon no `for` loop. -/
theorem noAbandonedFor_of_forall {toks : List Token} (h : ∀ t ∈ toks, t.kind ≠ .forKw) :
  NoAbandonedFor toks
  := by
  intro q hq hk
  cases hqt : q.toks with
  | nil => simp [cur, hqt, Token.eof] at hk
  | cons t rest =>
    have ht : t ∈ toks := hq.subset (by simp [hqt])
    simp only [cur, hqt, List.headD_cons] at hk
    exact absurd hk (h t ht)

/-! ### Steps that reach a state -/

/-- The parser can go from `p` to `q`: the tokens of `q` are a suffix of those of `p`, and `q`
has at least the errors of `p`. -/
structure Reaches (p q : Parser) : Prop where
  suffix : q.toks <:+ p.toks
  grows : p.errors.size ≤ q.errors.size

namespace Reaches

theorem refl (p : Parser) :
  Reaches p p
  := ⟨List.suffix_refl _, Nat.le_refl _⟩

theorem trans {p q r : Parser} (h₁ : Reaches p q) (h₂ : Reaches q r) :
  Reaches p r
  := ⟨h₂.suffix.trans h₁.suffix, Nat.le_trans h₁.grows h₂.grows⟩

theorem length_le {p q : Parser} (h : Reaches p q) :
  q.toks.length ≤ p.toks.length
  := h.suffix.length_le

theorem advance (p : Parser) :
  Reaches p p.advance
  := ⟨List.tail_suffix _, Nat.le_refl _⟩

theorem skipSemicolon (p : Parser) :
  Reaches p p.skipSemicolon
  := by
  unfold Parser.skipSemicolon
  split
  · exact advance p
  · exact refl p

theorem report (p : Parser) (msg : String) :
  Reaches p (p.report msg)
  := ⟨List.suffix_refl _, by simp [Parser.report]⟩

theorem expect_ok {p q : Parser} {k : TokenKind} (h : p.expect k = .ok q) :
  Reaches p q
  := by
  unfold expect at h
  split at h
  · rename_i t rest hp
    split at h
    · cases h
      exact ⟨by simp [hp], Nat.le_refl _⟩
    · cases h
  · cases h

theorem expect_error {p q : Parser} {k : TokenKind} (h : p.expect k = .error q) :
  Reaches p q ∧ p.errors.size < q.errors.size
  := by
  unfold expect at h
  split at h
  · split at h
    · cases h
    · cases h
      exact ⟨report _ _, by simp [Parser.report]⟩
  · cases h
    exact ⟨report _ _, by simp [Parser.report]⟩

end Reaches

/-- A step from `p` to `q` with value `v` is *fine* for `C` when it reaches `q`, and when it
adds no error on tokens where no `for` header is abandoned, its value satisfies `C`. -/
structure Fine {α : Type} (C : α → Prop) (p : Parser) (v : α) (q : Parser) : Prop where
  reaches : Reaches p q
  sound : NoAbandonedFor p.toks → q.errors.size ≤ p.errors.size → C v

namespace Fine

variable {α β γ : Type} {C : α → Prop} {p q r : Parser} {v : α}

theorem intro (h : Reaches p q) (hv : C v) :
  Fine C p v q
  := ⟨h, fun _ _ => hv⟩

/-- A step that adds an error is fine whatever its value. -/
theorem reported (h : Reaches p q) (hlt : p.errors.size < q.errors.size) :
  Fine C p v q
  := ⟨h, fun _ hle => absurd hle (Nat.not_le_of_lt hlt)⟩

/-- A step that fails on an expected token is fine whatever its value. -/
theorem expect_error {k : TokenKind} (h : Reaches p q) (he : q.expect k = .error r) :
  Fine C p v r
  := by
  have he' := Reaches.expect_error he
  exact reported (h.trans he'.1) (Nat.lt_of_le_of_lt h.grows he'.2)

/-- A fine step after one that reaches its start. -/
theorem pre (h : Reaches p q) (hf : Fine C q v r) :
  Fine C p v r
  := by
  refine ⟨h.trans hf.reaches, fun hn hle => hf.sound (hn.suffix h.suffix) ?_⟩
  have := h.grows
  have := hf.reaches.grows
  omega

/-- A fine step followed by one that reaches further. -/
theorem post (hf : Fine C p v q) (h : Reaches q r) :
  Fine C p v r
  := by
  refine ⟨hf.reaches.trans h, fun hn hle => hf.sound hn ?_⟩
  have := h.grows
  omega

theorem map {C' : β → Prop} {w : β} (hf : Fine C p v q) (hc : C v → C' w) :
  Fine C' p w q
  := ⟨hf.reaches, fun hn hle => hc (hf.sound hn hle)⟩

/-- Two fine steps in a row: the value built from both values satisfies what they give. -/
theorem bind {C₂ : β → Prop} {C₃ : γ → Prop} {w : β} {x : γ} (h₁ : Fine C p v q)
    (h₂ : Fine C₂ q w r) (hc : C v → C₂ w → C₃ x) :
  Fine C₃ p x r
  := by
  refine ⟨h₁.reaches.trans h₂.reaches, fun hn hle => ?_⟩
  have := h₁.reaches.grows
  have := h₂.reaches.grows
  exact hc (h₁.sound hn (by omega)) (h₂.sound (hn.suffix h₁.reaches.suffix) (by omega))

/-- Two fine steps in a row give both their values. -/
theorem both {C₂ : β → Prop} {w : β} (h₁ : Fine C p v q) (h₂ : Fine C₂ q w r) :
  Fine (fun x : α × β => C x.1 ∧ C₂ x.2) p (v, w) r
  := h₁.bind h₂ fun h₁ h₂ => ⟨h₁, h₂⟩

end Fine

/-! ### The steps outside the recursion -/

theorem noPrefix_fine {C : Option Expr → Prop} (p : Parser) :
  Fine C p (noPrefix p).val (noPrefix p).state
  := Fine.reported (Reaches.report _ _) (by simp [noPrefix, Parser.report])

theorem numberLiteral_fine (p : Parser) :
  Fine (Expr.completeOpt · = true) p (numberLiteral p).val (numberLiteral p).state
  := by
  unfold numberLiteral
  dsimp only
  split <;> split
  · exact Fine.intro (Reaches.refl p) rfl
  · exact Fine.reported (Reaches.report _ _) (by simp [Parser.report])
  · exact Fine.intro (Reaches.refl p) rfl
  · exact Fine.reported (Reaches.report _ _) (by simp [Parser.report])

theorem letField_reaches (p : Parser) :
  Reaches p (letField p).state
  := by
  unfold letField
  split
  · exact (Reaches.advance p).trans (Reaches.advance _)
  · exact Reaches.refl p

theorem closeList_fine (close : TokenKind) (p : Parser) (acc : Array (Option Expr)) :
  Fine (fun v => Expr.completeList acc.toList = true → Expr.completeArgs v = true) p
    (closeList close p acc).val (closeList close p acc).state
  := by
  unfold closeList
  split
  · rename_i q hq
    exact Fine.intro (Reaches.expect_ok hq) id
  · rename_i q hq
    exact Fine.expect_error (Reaches.refl p) hq

theorem closeParams_fine (p : Parser) (acc : Array Ident) :
  Fine (·.isSome = true) p (closeParams p acc).val (closeParams p acc).state
  := by
  unfold closeParams
  split
  · rename_i q hq
    exact Fine.intro (Reaches.expect_ok hq) rfl
  · rename_i q hq
    exact Fine.expect_error (Reaches.refl p) hq

/-- A parameter list that reports nothing was closed. -/
theorem paramsLoop_fine (p : Parser) (acc : Array Ident) :
  Fine (·.isSome = true) p (paramsLoop p acc).val (paramsLoop p acc).state
  := by
  fun_induction paramsLoop p acc with
  | case1 p acc _ _ v s hs heq ih =>
    rw [heq] at ih
    exact Fine.pre ((Reaches.advance p).trans (Reaches.advance _)) ih
  | case2 p acc hc => exact closeParams_fine p acc

theorem params_fine (p : Parser) :
  Fine (·.isSome = true) p (params p).val (params p).state
  := by
  unfold params
  split
  · exact Fine.intro (Reaches.advance p) rfl
  · exact Fine.pre (Reaches.advance p) (paramsLoop_fine _ _)

/-! ### Every step of the parser is fine -/

/-- Every parsing function is fine on the states whose measure `8 * tokens + rank` is below
`n`, the rank being the one of the parser's termination argument. -/
structure Sound (n : Nat) : Prop where
  statement : ∀ p, p.toks.length * 8 + 6 < n →
    Fine (Stmt.completeOpt · = true) p (parseStatement p).val (parseStatement p).state
  letStmt : ∀ p, p.toks.length * 8 + 5 < n →
    Fine (Stmt.completeOpt · = true) p (parseLet p).val (parseLet p).state
  returnStmt : ∀ p hp, p.toks.length * 8 + 5 < n →
    Fine (Stmt.completeOpt · = true) p (parseReturn p hp).val (parseReturn p hp).state
  assign : ∀ p, p.toks.length * 8 + 5 < n →
    Fine (Stmt.completeOpt · = true) p (parseAssign p).val (parseAssign p).state
  exprStmt : ∀ p, p.toks.length * 8 + 5 < n →
    Fine (Stmt.completeOpt · = true) p (parseExprStmt p).val (parseExprStmt p).state
  expr : ∀ prec p, p.toks.length * 8 + 4 < n →
    Fine (Expr.completeOpt · = true) p (parseExpr prec p).val (parseExpr prec p).state
  first : ∀ p, p.toks.length * 8 + 3 < n →
    Fine (Expr.completeOpt · = true) p (parsePrefix p).val (parsePrefix p).state
  loop : ∀ prec left p, p.toks.length * 8 + 3 < n →
    Fine (fun v => Expr.completeOpt left = true → Expr.completeOpt v = true) p
      (infixLoop prec left p).val (infixLoop prec left p).state
  prefixOp : ∀ p hp, p.toks.length * 8 + 2 < n →
    Fine (Expr.completeOpt · = true) p (parsePrefixOp p hp).val (parsePrefixOp p hp).state
  grouped : ∀ p hp, p.toks.length * 8 + 2 < n →
    Fine (Expr.completeOpt · = true) p (parseGrouped p hp).val (parseGrouped p hp).state
  infixOp : ∀ left p hp, p.toks.length * 8 + 2 < n →
    Fine (fun v => Expr.completeOpt left = true → Expr.completeOpt v = true) p
      (parseInfix left p hp).val (parseInfix left p hp).state
  call : ∀ left p hp, p.toks.length * 8 + 2 < n →
    Fine (fun v => Expr.completeOpt left = true → Expr.completeOpt v = true) p
      (parseCall left p hp).val (parseCall left p hp).state
  index : ∀ left p hp, p.toks.length * 8 + 2 < n →
    Fine (fun v => Expr.completeOpt left = true → Expr.completeOpt v = true) p
      (parseIndex left p hp).val (parseIndex left p hp).state
  exprList : ∀ close p hp, p.toks.length * 8 + 1 < n →
    Fine (Expr.completeArgs · = true) p (exprList close p hp).val (exprList close p hp).state
  exprListLoop : ∀ close p acc, p.toks.length * 8 + 1 < n →
    Fine (fun v => Expr.completeList acc.toList = true → Expr.completeArgs v = true) p
      (exprListLoop close p acc).val (exprListLoop close p acc).state
  ifElse : ∀ p, p.toks.length * 8 + 2 < n →
    Fine (Expr.completeOpt · = true) p (parseIf p).val (parseIf p).state
  whileLoop : ∀ p, p.toks.length * 8 + 2 < n →
    Fine (Expr.completeOpt · = true) p (parseWhile p).val (parseWhile p).state
  forLoop : ∀ p, p.toks.length * 8 + 2 < n →
    Fine (fun v => ∀ e, v = some e → e.complete = true) p (parseFor p).val (parseFor p).state
  forInit : ∀ p, p.toks.length * 8 + 7 < n →
    Fine (fun v => ∀ o, v = some o → Stmt.completeOpt o = true) p
      (forInit p).val (forInit p).state
  forCond : ∀ p, p.toks.length * 8 + 7 < n →
    Fine (Stmt.completeOpt · = true) p (forCond p).val (forCond p).state
  forStep : ∀ p, p.toks.length * 8 + 7 < n →
    Fine (Stmt.completeOpt · = true) p (forStep p).val (forStep p).state
  function : ∀ p, p.toks.length * 8 + 2 < n →
    Fine (Expr.completeOpt · = true) p (parseFunction p).val (parseFunction p).state
  classDef : ∀ p, p.toks.length * 8 + 2 < n →
    Fine (Expr.completeOpt · = true) p (parseClass p).val (parseClass p).state
  array : ∀ p hp, p.toks.length * 8 + 2 < n →
    Fine (Expr.completeOpt · = true) p (parseArray p hp).val (parseArray p hp).state
  hash : ∀ p hp, p.toks.length * 8 + 2 < n →
    Fine (Expr.completeOpt · = true) p (parseHash p hp).val (parseHash p hp).state
  hashLoop : ∀ p hp acc, p.toks.length * 8 + 1 < n →
    Fine (fun v => Expr.completePairs acc = true → v.any Expr.completePairs = true) p
      (hashLoop p hp acc).val (hashLoop p hp acc).state
  block : ∀ p hp, p.toks.length * 8 + 2 < n →
    Fine (Block.complete · = true) p (parseBlock p hp).val (parseBlock p hp).state
  blockLoop : ∀ p acc, p.toks.length * 8 + 7 < n →
    Fine (fun v => Stmt.completeList acc.toList = true → Stmt.completeList v = true) p
      (blockLoop p acc).val (blockLoop p acc).state

namespace Sound

variable {p : Parser}

theorem statement_step (ih : Sound (p.toks.length * 8 + 6)) :
  Fine (Stmt.completeOpt · = true) p (parseStatement p).val (parseStatement p).state
  := by
  rw [parseStatement]
  split
  · exact ih.exprStmt p (by omega)
  · split
    · exact ih.letStmt p (by omega)
    · exact ih.returnStmt p _ (by omega)
    · split
      · exact ih.assign p (by omega)
      · exact ih.exprStmt p (by omega)
    · exact Fine.intro (Reaches.skipSemicolon p) rfl
    · exact Fine.intro (Reaches.skipSemicolon p) rfl
    · exact ih.exprStmt p (by omega)

theorem letStmt_step (ih : Sound (p.toks.length * 8 + 5)) :
  Fine (Stmt.completeOpt · = true) p (parseLet p).val (parseLet p).state
  := by
  rw [parseLet]
  split
  · rename_i q hq
    exact Fine.expect_error (Reaches.refl p) hq
  · rename_i q hq
    dsimp only
    have hf := letField_reaches q
    generalize letField q = st at hf ⊢
    obtain ⟨field, r, hr⟩ := st
    dsimp only at hf ⊢
    have hqr := (Reaches.expect_ok hq).trans hf
    split
    · rename_i s hs
      exact Fine.expect_error hqr hs
    · rename_i s hs
      have he := ih.expr 0 s.advance (by
        have := expect_ok_lt hq; have := expect_ok_lt hs; have := advance_le s; omega)
      generalize parseExpr 0 s.advance = st at he ⊢
      obtain ⟨v, u, hu⟩ := st
      exact Fine.pre ((hqr.trans (Reaches.expect_ok hs)).trans (Reaches.advance s))
        ((he.post (Reaches.skipSemicolon u)).map id)

theorem returnStmt_step (hp : p.toks ≠ []) (ih : Sound (p.toks.length * 8 + 5)) :
  Fine (Stmt.completeOpt · = true) p (parseReturn p hp).val (parseReturn p hp).state
  := by
  rw [parseReturn]
  dsimp only
  split
  · exact Fine.intro (Reaches.advance p) rfl
  · have he := ih.expr 0 p.advance (by have := advance_lt hp; omega)
    generalize parseExpr 0 p.advance = st at he ⊢
    obtain ⟨v, u, hu⟩ := st
    refine Fine.pre (Reaches.advance p) ((he.post (Reaches.skipSemicolon u)).map fun h => ?_)
    obtain ⟨e, rfl, hc⟩ := Expr.completeOpt_iff.1 h
    exact hc

theorem assign_step (ih : Sound (p.toks.length * 8 + 5)) :
  Fine (Stmt.completeOpt · = true) p (parseAssign p).val (parseAssign p).state
  := by
  rw [parseAssign]
  split
  · rename_i q hq
    exact Fine.expect_error (Reaches.refl p) hq
  · rename_i q hq
    dsimp only
    have he := ih.expr 0 q.advance (by
      have := expect_ok_lt hq; have := advance_le q; omega)
    generalize parseExpr 0 q.advance = st at he ⊢
    obtain ⟨v, u, hu⟩ := st
    exact Fine.pre ((Reaches.expect_ok hq).trans (Reaches.advance q))
      ((he.post (Reaches.skipSemicolon u)).map id)

theorem exprStmt_step (ih : Sound (p.toks.length * 8 + 5)) :
  Fine (Stmt.completeOpt · = true) p (parseExprStmt p).val (parseExprStmt p).state
  := by
  rw [parseExprStmt]
  have he := ih.expr 0 p (by omega)
  generalize parseExpr 0 p = st at he ⊢
  obtain ⟨v, u, hu⟩ := st
  exact (he.post (Reaches.skipSemicolon u)).map id

theorem expr_step (prec : Nat) (ih : Sound (p.toks.length * 8 + 4)) :
  Fine (Expr.completeOpt · = true) p (parseExpr prec p).val (parseExpr prec p).state
  := by
  rw [parseExpr]
  split
  · exact noPrefix_fine p
  · have h₁ := ih.first p (by omega)
    generalize parsePrefix p = st at h₁ ⊢
    obtain ⟨left, q, hq⟩ := st
    dsimp only at h₁ ⊢
    have h₂ := ih.loop prec left q (by omega)
    generalize infixLoop prec left q = st at h₂ ⊢
    obtain ⟨e, r, hr⟩ := st
    exact h₁.bind h₂ fun hl he => he hl

/-- A `for` loop read without a report is never a hole on tokens where no `for` header is
abandoned. -/
theorem forLoop_complete (hk : p.cur.kind = .forKw)
    (h : Fine (fun v => ∀ e, v = some e → e.complete = true) p (parseFor p).val
      (parseFor p).state) :
  Fine (Expr.completeOpt · = true) p (parseFor p).val (parseFor p).state
  := by
  refine ⟨h.reaches, fun hn hle => ?_⟩
  cases hv : (parseFor p).val with
  | none => exact absurd ⟨hv, hle⟩ (hn p (List.suffix_refl _) hk)
  | some e => exact h.sound hn hle e hv

theorem first_step (ih : Sound (p.toks.length * 8 + 3)) :
  Fine (Expr.completeOpt · = true) p (parsePrefix p).val (parsePrefix p).state
  := by
  rw [parsePrefix]
  split
  · exact noPrefix_fine p
  · dsimp only
    split
    · exact Fine.intro (Reaches.refl p) rfl
    · exact numberLiteral_fine p
    · exact Fine.intro (Reaches.refl p) rfl
    · exact Fine.intro (Reaches.refl p) rfl
    · exact Fine.intro (Reaches.refl p) rfl
    · exact ih.prefixOp p _ (by omega)
    · exact ih.prefixOp p _ (by omega)
    · exact ih.grouped p _ (by omega)
    · exact ih.ifElse p (by omega)
    · exact ih.whileLoop p (by omega)
    · exact forLoop_complete ‹_› (ih.forLoop p (by omega))
    · exact ih.function p (by omega)
    · exact ih.classDef p (by omega)
    · exact ih.array p _ (by omega)
    · exact ih.hash p _ (by omega)
    · exact noPrefix_fine p

/-- The operator after an operand is fine, whichever reading it is. -/
theorem operator_step (left : Option Expr) (hp : p.toks ≠ []) {n : Nat} (ih : Sound n)
    (hn : p.toks.length * 8 + 2 < n) :
  Fine (fun v => Expr.completeOpt left = true → Expr.completeOpt v = true) p
    (operatorStep left p hp).val (operatorStep left p hp).state
  := by
  unfold operatorStep
  split
  · exact ih.call left p hp hn
  split
  · exact ih.index left p hp hn
  · exact ih.infixOp left p hp hn

theorem loop_step (prec : Nat) (left : Option Expr) (ih : Sound (p.toks.length * 8 + 3)) :
  Fine (fun v => Expr.completeOpt left = true → Expr.completeOpt v = true) p
    (infixLoop prec left p).val (infixLoop prec left p).state
  := by
  cases hc : p.continues prec with
  | false =>
    rw [Step.val_eq (infixLoop_stop hc), Step.state_eq (infixLoop_stop hc)]
    exact Fine.intro (Reaches.refl p) id
  | true =>
    have hne := toks_ne_nil_of_continues hc
    have hlt := advance_lt hne.1
    have hx : (infixLoop prec left p).out = _ := infixLoop_continues hc
    rw [Step.val_eq hx, Step.state_eq hx]
    have h₁ := operator_step left hne.2 ih (by omega)
    generalize operatorStep left p.advance _ = x at h₁ ⊢
    have h₂ := ih.loop prec x.val x.state (by have := x.le; omega)
    exact Fine.pre (Reaches.advance p) (h₁.bind h₂ fun h₁ h₂ hl => h₂ (h₁ hl))

theorem prefixOp_step (hp : p.toks ≠ []) (ih : Sound (p.toks.length * 8 + 2)) :
  Fine (Expr.completeOpt · = true) p (parsePrefixOp p hp).val (parsePrefixOp p hp).state
  := by
  rw [parsePrefixOp]
  have he := ih.expr prefixStrength p.advance (by have := advance_lt hp; omega)
  generalize parseExpr prefixStrength p.advance = st at he ⊢
  obtain ⟨r, u, hu⟩ := st
  exact Fine.pre (Reaches.advance p) (he.map id)

theorem grouped_step (hp : p.toks ≠ []) (ih : Sound (p.toks.length * 8 + 2)) :
  Fine (Expr.completeOpt · = true) p (parseGrouped p hp).val (parseGrouped p hp).state
  := by
  rw [parseGrouped]
  have he := ih.expr 0 p.advance (by have := advance_lt hp; omega)
  generalize parseExpr 0 p.advance = st at he ⊢
  obtain ⟨e, u, hu⟩ := st
  dsimp only at he ⊢
  split
  · rename_i r hr
    exact Fine.pre (Reaches.advance p) (he.post (Reaches.expect_ok hr))
  · rename_i r hr
    exact Fine.expect_error ((Reaches.advance p).trans he.reaches) hr

theorem infixOp_step (left : Option Expr) (hp : p.toks ≠ []) (ih : Sound (p.toks.length * 8 + 2)) :
  Fine (fun v => Expr.completeOpt left = true → Expr.completeOpt v = true) p
    (parseInfix left p hp).val (parseInfix left p hp).state
  := by
  rw [parseInfix]
  have he := ih.expr p.cur.kind.strength p.advance (by have := advance_lt hp; omega)
  generalize parseExpr p.cur.kind.strength p.advance = st at he ⊢
  obtain ⟨r, u, hu⟩ := st
  exact Fine.pre (Reaches.advance p) (he.map fun hr hl => by
    show (Expr.completeOpt left && Expr.completeOpt r) = true
    simp only [hl, hr, Bool.and_self])

theorem call_step (left : Option Expr) (hp : p.toks ≠ []) (ih : Sound (p.toks.length * 8 + 2)) :
  Fine (fun v => Expr.completeOpt left = true → Expr.completeOpt v = true) p
    (parseCall left p hp).val (parseCall left p hp).state
  := by
  rw [parseCall]
  have ha := ih.exprList .rparen p hp (by omega)
  generalize Parser.exprList .rparen p hp = st at ha ⊢
  obtain ⟨args, u, hu⟩ := st
  exact ha.map fun ha hl => by
    show (Expr.completeOpt left && Expr.completeArgs args) = true
    simp only [hl, ha, Bool.and_self]

theorem index_step (left : Option Expr) (hp : p.toks ≠ []) (ih : Sound (p.toks.length * 8 + 2)) :
  Fine (fun v => Expr.completeOpt left = true → Expr.completeOpt v = true) p
    (parseIndex left p hp).val (parseIndex left p hp).state
  := by
  rw [parseIndex]
  have he := ih.expr 0 p.advance (by have := advance_lt hp; omega)
  generalize parseExpr 0 p.advance = st at he ⊢
  obtain ⟨i, u, hu⟩ := st
  dsimp only at he ⊢
  split
  · rename_i r hr
    exact Fine.pre (Reaches.advance p) ((he.post (Reaches.expect_ok hr)).map fun hi hl => by
      show (Expr.completeOpt left && Expr.completeOpt i) = true
      simp only [hl, hi, Bool.and_self])
  · rename_i r hr
    exact Fine.expect_error ((Reaches.advance p).trans he.reaches) hr

theorem exprList_step (close : TokenKind) (hp : p.toks ≠ []) (ih : Sound (p.toks.length * 8 + 1)) :
  Fine (Expr.completeArgs · = true) p (Parser.exprList close p hp).val
    (Parser.exprList close p hp).state
  := by
  rw [Parser.exprList]
  split
  · exact Fine.intro (Reaches.advance p) rfl
  · have hlt := advance_lt hp
    have he := ih.expr 0 p.advance (by rw [length_advance] at hlt ⊢; omega)
    generalize parseExpr 0 p.advance = st at he ⊢
    obtain ⟨e, u, hu⟩ := st
    dsimp only at he ⊢
    have hl := ih.exprListLoop close u #[e] (by omega)
    generalize Parser.exprListLoop close u #[e] = st at hl ⊢
    obtain ⟨es, r, hr⟩ := st
    exact Fine.pre (Reaches.advance p) (he.bind hl fun he hl => hl (by
      simp only [Expr.completeList, he, Bool.and_self]))

theorem exprListLoop_step (close : TokenKind) (acc : Array (Option Expr))
    (ih : Sound (p.toks.length * 8 + 1)) :
  Fine (fun v => Expr.completeList acc.toList = true → Expr.completeArgs v = true) p
    (Parser.exprListLoop close p acc).val (Parser.exprListLoop close p acc).state
  := by
  rw [Parser.exprListLoop]
  split
  · rename_i hc
    have h2 := two_le_of_peek (p := p) (by rw [hc]; decide)
    have hlen : p.advance.advance.toks.length + 2 = p.toks.length := by
      simp only [length_advance]; omega
    dsimp only
    have he := ih.expr 0 p.advance.advance (by omega)
    generalize parseExpr 0 p.advance.advance = st at he ⊢
    obtain ⟨e, u, hu⟩ := st
    dsimp only at he ⊢
    have hl := ih.exprListLoop close u (acc.push e) (by omega)
    generalize Parser.exprListLoop close u (acc.push e) = st at hl ⊢
    obtain ⟨es, r, hr⟩ := st
    refine Fine.pre ((Reaches.advance p).trans (Reaches.advance _)) (he.bind hl ?_)
    intro he hl hacc
    apply hl
    rw [Expr.completeList_iff] at hacc ⊢
    intro x hx
    simp only [Array.toList_push, List.mem_append, List.mem_singleton] at hx
    rcases hx with hx | rfl
    · exact hacc x hx
    · exact he
  · exact closeList_fine close p acc

theorem ifElse_step (ih : Sound (p.toks.length * 8 + 2)) :
  Fine (Expr.completeOpt · = true) p (parseIf p).val (parseIf p).state
  := by
  rw [parseIf]
  split
  · rename_i q hq
    exact Fine.expect_error (Reaches.refl p) hq
  · rename_i q hq
    dsimp only
    have hpq := (Reaches.expect_ok hq).trans (Reaches.advance q)
    have hc := ih.expr 0 q.advance (by have := expect_ok_lt hq; have := advance_le q; omega)
    generalize parseExpr 0 q.advance = st at hc ⊢
    obtain ⟨cond, r, hr⟩ := st
    dsimp only at hc ⊢
    split
    · rename_i s hs
      exact Fine.expect_error (hpq.trans hc.reaches) hs
    · rename_i s hs
      have hrs := Reaches.expect_ok hs
      split
      · rename_i u hu
        exact Fine.expect_error ((hpq.trans hc.reaches).trans hrs) hu
      · rename_i u hu
        have hy := ih.block u (expect_ok_ne_nil hu) (by
          have := ((hpq.trans hc.reaches).trans hrs).length_le; have := expect_ok_lt hu; omega)
        generalize parseBlock u _ = st at hy ⊢
        obtain ⟨yes, v, hv⟩ := st
        dsimp only at hy ⊢
        have hcy := Fine.pre hpq (hc.both (Fine.pre (hrs.trans (Reaches.expect_ok hu)) hy))
        split
        · split
          · rename_i w hw
            exact Fine.expect_error (hcy.reaches.trans (Reaches.advance v)) hw
          · rename_i w hw
            have hn := ih.block w (expect_ok_ne_nil hw) (by
              have := (hcy.reaches.trans (Reaches.advance v)).length_le
              have := expect_ok_lt hw; omega)
            generalize parseBlock w _ = st at hn ⊢
            obtain ⟨no, x, hx⟩ := st
            refine (hcy.both
              (Fine.pre ((Reaches.advance v).trans (Reaches.expect_ok hw)) hn)).map ?_
            rintro ⟨⟨hc, hy⟩, hn⟩
            show (Expr.completeOpt cond && Block.complete yes && Block.complete no) = true
            simp only [hc, hy, hn, Bool.and_self]
        · refine hcy.map ?_
          rintro ⟨hc, hy⟩
          show (Expr.completeOpt cond && Block.complete yes && true) = true
          simp only [hc, hy, Bool.and_self]

theorem whileLoop_step (ih : Sound (p.toks.length * 8 + 2)) :
  Fine (Expr.completeOpt · = true) p (parseWhile p).val (parseWhile p).state
  := by
  rw [parseWhile]
  split
  · rename_i q hq
    exact Fine.expect_error (Reaches.refl p) hq
  · rename_i q hq
    dsimp only
    have hpq := (Reaches.expect_ok hq).trans (Reaches.advance q)
    have hc := ih.expr 0 q.advance (by have := expect_ok_lt hq; have := advance_le q; omega)
    generalize parseExpr 0 q.advance = st at hc ⊢
    obtain ⟨cond, r, hr⟩ := st
    dsimp only at hc ⊢
    split
    · rename_i s hs
      exact Fine.expect_error (hpq.trans hc.reaches) hs
    · rename_i s hs
      have hrs := Reaches.expect_ok hs
      split
      · rename_i u hu
        exact Fine.expect_error ((hpq.trans hc.reaches).trans hrs) hu
      · rename_i u hu
        have hb := ih.block u (expect_ok_ne_nil hu) (by
          have := ((hpq.trans hc.reaches).trans hrs).length_le; have := expect_ok_lt hu; omega)
        generalize parseBlock u _ = st at hb ⊢
        obtain ⟨body, v, hv⟩ := st
        refine Fine.pre hpq ((hc.both (Fine.pre (hrs.trans (Reaches.expect_ok hu)) hb)).map ?_)
        rintro ⟨hc, hb⟩
        show (Expr.completeOpt cond && Block.complete body) = true
        simp only [hc, hb, Bool.and_self]

/-- A `for` loop read without a report has every part it needs, when it is read at all. -/
theorem forLoop_step (ih : Sound (p.toks.length * 8 + 2)) :
  Fine (fun v => ∀ e, v = some e → e.complete = true) p (parseFor p).val (parseFor p).state
  := by
  rw [parseFor]
  split
  · rename_i q hq
    exact Fine.expect_error (Reaches.refl p) hq
  · rename_i q hq
    dsimp only
    have hpq := (Reaches.expect_ok hq).trans (Reaches.advance q)
    have hlen : q.advance.toks.length + 2 ≤ p.toks.length := by
      have := expect_ok_lt hq
      have := List.length_pos_iff.2 (expect_ok_ne_nil hq)
      rw [length_advance]; omega
    have hi := ih.forInit q.advance (by omega)
    generalize Parser.forInit q.advance = st at hi ⊢
    obtain ⟨oi, r, hr⟩ := st
    cases oi with
    | none => exact Fine.intro (hpq.trans hi.reaches) fun _ h => (Option.some_ne_none _ h.symm).elim
    | some initial =>
      dsimp only at hi ⊢
      have hc := ih.forCond r.advance (by have := advance_le r; omega)
      generalize Parser.forCond r.advance = st at hc ⊢
      obtain ⟨cond, s, hs⟩ := st
      have hst := ih.forStep s.advance (by have := advance_le r; have := advance_le s; omega)
      generalize Parser.forStep s.advance = st at hst ⊢
      obtain ⟨step, u, hu⟩ := st
      dsimp only at hc hst ⊢
      have hh := hi.both (Fine.pre (Reaches.advance r) (hc.both (Fine.pre (Reaches.advance s) hst)))
      split
      · split
        · rename_i v hv
          exact Fine.expect_error (hpq.trans hh.reaches) hv
        · rename_i v hv
          have hb := ih.block v (expect_ok_ne_nil hv) (by
            have := (hpq.trans hh.reaches).length_le; have := expect_ok_lt hv; omega)
          generalize parseBlock v _ = st at hb ⊢
          obtain ⟨body, w, hw⟩ := st
          refine Fine.pre hpq ((hh.both (Fine.pre (Reaches.expect_ok hv) hb)).map ?_)
          rintro ⟨⟨hi, hc, hst⟩, hb⟩ e he
          cases he
          show (Stmt.completeOpt initial && Stmt.completeOpt cond && Stmt.completeOpt step
            && Block.complete body) = true
          simp only [hi initial rfl, hc, hst, hb, Bool.and_self]
      · exact Fine.intro (hpq.trans hh.reaches) fun _ h => (Option.some_ne_none _ h.symm).elim

theorem forInit_step (ih : Sound (p.toks.length * 8 + 7)) :
  Fine (fun v => ∀ o, v = some o → Stmt.completeOpt o = true) p
    (Parser.forInit p).val (Parser.forInit p).state
  := by
  rw [Parser.forInit]
  split
  · exact Fine.intro (Reaches.refl p) fun _ h => by cases h; rfl
  · split
    · have h := ih.statement p (by omega)
      generalize parseStatement p = st at h ⊢
      obtain ⟨s, r, hr⟩ := st
      exact h.map fun h _ ho => by cases ho; exact h
    · exact Fine.intro (Reaches.refl p) fun _ h => (Option.some_ne_none _ h.symm).elim

theorem forCond_step (ih : Sound (p.toks.length * 8 + 7)) :
  Fine (Stmt.completeOpt · = true) p (Parser.forCond p).val (Parser.forCond p).state
  := by
  rw [Parser.forCond]
  split
  · exact Fine.intro (Reaches.refl p) rfl
  · exact ih.statement p (by omega)

theorem forStep_step (ih : Sound (p.toks.length * 8 + 7)) :
  Fine (Stmt.completeOpt · = true) p (Parser.forStep p).val (Parser.forStep p).state
  := by
  rw [Parser.forStep]
  split
  · exact Fine.intro (Reaches.refl p) rfl
  · have h := ih.statement p (by omega)
    generalize parseStatement p = st at h ⊢
    obtain ⟨s, u, hu⟩ := st
    exact h.post (Reaches.advance u)

theorem function_step (ih : Sound (p.toks.length * 8 + 2)) :
  Fine (Expr.completeOpt · = true) p (parseFunction p).val (parseFunction p).state
  := by
  rw [parseFunction]
  split
  · rename_i q hq
    exact Fine.expect_error (Reaches.refl p) hq
  · rename_i q hq
    dsimp only
    have hps := params_fine q
    generalize params q = st at hps ⊢
    obtain ⟨ps, r, hr⟩ := st
    dsimp only at hps ⊢
    split
    · rename_i s hs
      exact Fine.expect_error ((Reaches.expect_ok hq).trans hps.reaches) hs
    · rename_i s hs
      have hb := ih.block s (expect_ok_ne_nil hs) (by
        have := ((Reaches.expect_ok hq).trans hps.reaches).length_le
        have := expect_ok_lt hs; omega)
      generalize parseBlock s _ = st at hb ⊢
      obtain ⟨body, u, hu⟩ := st
      refine Fine.pre (Reaches.expect_ok hq)
        ((hps.both (Fine.pre (Reaches.expect_ok hs) hb)).map ?_)
      rintro ⟨hps, hb⟩
      show (ps.isSome && Block.complete body) = true
      simp only [hps, hb, Bool.and_self]

theorem classDef_step (ih : Sound (p.toks.length * 8 + 2)) :
  Fine (Expr.completeOpt · = true) p (parseClass p).val (parseClass p).state
  := by
  rw [parseClass]
  split
  · rename_i q hq
    exact Fine.expect_error (Reaches.refl p) hq
  · rename_i q hq
    dsimp only
    have hb := ih.block q (expect_ok_ne_nil hq) (by have := expect_ok_lt hq; omega)
    generalize parseBlock q _ = st at hb ⊢
    obtain ⟨body, u, hu⟩ := st
    exact Fine.pre (Reaches.expect_ok hq) (hb.map id)

theorem array_step (hp : p.toks ≠ []) (ih : Sound (p.toks.length * 8 + 2)) :
  Fine (Expr.completeOpt · = true) p (parseArray p hp).val (parseArray p hp).state
  := by
  rw [parseArray]
  have ha := ih.exprList .rbracket p hp (by omega)
  generalize Parser.exprList .rbracket p hp = st at ha ⊢
  obtain ⟨es, u, hu⟩ := st
  exact ha.map id

theorem hash_step (hp : p.toks ≠ []) (ih : Sound (p.toks.length * 8 + 2)) :
  Fine (Expr.completeOpt · = true) p (parseHash p hp).val (parseHash p hp).state
  := by
  rw [parseHash]
  have h := ih.hashLoop p hp [] (by omega)
  generalize Parser.hashLoop p hp [] = st at h ⊢
  obtain ⟨ops, u, hu⟩ := st
  cases ops with
  | none => exact h.map fun h => absurd (h rfl) Bool.false_ne_true
  | some ps => exact h.map fun h => h rfl

theorem hashLoop_step (hp : p.toks ≠ []) (acc : List (Option Expr × Option Expr))
    (ih : Sound (p.toks.length * 8 + 1)) :
  Fine (fun v => Expr.completePairs acc = true → v.any Expr.completePairs = true) p
    (Parser.hashLoop p hp acc).val (Parser.hashLoop p hp acc).state
  := by
  rw [Parser.hashLoop]
  split
  · split
    · rename_i q hq
      exact Fine.intro (Reaches.expect_ok hq) id
    · rename_i q hq
      exact Fine.expect_error (Reaches.refl p) hq
  · have hlt := advance_lt hp
    dsimp only
    have hk := ih.expr 0 p.advance (by rw [length_advance] at hlt ⊢; omega)
    generalize parseExpr 0 p.advance = st at hk ⊢
    obtain ⟨key, q, hq⟩ := st
    dsimp only at hk ⊢
    split
    · rename_i r hr
      exact Fine.expect_error ((Reaches.advance p).trans hk.reaches) hr
    · rename_i r hr
      have hv := ih.expr 0 r.advance (by
        have := expect_ok_lt hr; have := advance_le r; have := length_advance p; omega)
      generalize parseExpr 0 r.advance = st at hv ⊢
      obtain ⟨value, s, hs⟩ := st
      dsimp only at hv ⊢
      have hkv := Fine.pre (Reaches.advance p)
        (hk.both (Fine.pre ((Reaches.expect_ok hr).trans (Reaches.advance r)) hv))
      split
      · split
        · rename_i u hu
          exact (hkv.post (Reaches.expect_ok hu)).map fun h hacc =>
            Expr.completePairs_putPair hacc h.1 h.2
        · rename_i u hu
          exact Fine.expect_error hkv.reaches hu
      · split
        · rename_i u hu
          exact Fine.expect_error hkv.reaches hu
        · rename_i u hu
          have hl := ih.hashLoop u (expect_ok_ne_nil hu) (putPair acc key value) (by
            have := hkv.reaches.length_le; have := expect_ok_lt hu; omega)
          generalize Parser.hashLoop u _ (putPair acc key value) = st at hl ⊢
          obtain ⟨ps, v, hv⟩ := st
          exact hkv.bind (Fine.pre (Reaches.expect_ok hu) hl) fun h hl hacc =>
            hl (Expr.completePairs_putPair hacc h.1 h.2)

theorem block_step (hp : p.toks ≠ []) (ih : Sound (p.toks.length * 8 + 2)) :
  Fine (Block.complete · = true) p (parseBlock p hp).val (parseBlock p hp).state
  := by
  rw [parseBlock]
  have hlt := advance_lt hp
  have h := ih.blockLoop p.advance #[] (by rw [length_advance] at hlt ⊢; omega)
  generalize Parser.blockLoop p.advance #[] = st at h ⊢
  obtain ⟨stmts, u, hu⟩ := st
  exact Fine.pre (Reaches.advance p) (h.map fun h => h rfl)

theorem blockLoop_step (acc : Array Stmt) (ih : Sound (p.toks.length * 8 + 7)) :
  Fine (fun v => Stmt.completeList acc.toList = true → Stmt.completeList v = true) p
    (Parser.blockLoop p acc).val (Parser.blockLoop p acc).state
  := by
  rw [Parser.blockLoop]
  split
  · exact Fine.intro (Reaches.refl p) id
  · split
    · exact Fine.intro (Reaches.refl p) id
    · rename_i hp _
      have h := ih.statement p (by omega)
      generalize parseStatement p = st at h ⊢
      obtain ⟨s, q, hq⟩ := st
      have hlt : q.advance.toks.length < p.toks.length := by
        have := List.length_pos_iff.2 hp; rw [length_advance]; omega
      cases s with
      | none =>
        dsimp only at h ⊢
        have hl := ih.blockLoop q.advance acc (by omega)
        generalize Parser.blockLoop q.advance acc = st at hl ⊢
        obtain ⟨ss, r, hr⟩ := st
        exact h.bind (Fine.pre (Reaches.advance q) hl) fun _ hl => hl
      | some st =>
        dsimp only at h ⊢
        have hl := ih.blockLoop q.advance (acc.push st) (by omega)
        generalize Parser.blockLoop q.advance (acc.push st) = st' at hl ⊢
        obtain ⟨ss, r, hr⟩ := st'
        refine h.bind (Fine.pre (Reaches.advance q) hl) fun hs hl hacc => hl ?_
        simp only [Array.toList_push, Stmt.completeList_iff, List.mem_append,
          List.mem_singleton] at hacc ⊢
        rintro x (hx | rfl)
        · exact hacc x hx
        · exact hs

theorem zero : Sound 0 where
  statement _ h := absurd h (Nat.not_lt_zero _)
  letStmt _ h := absurd h (Nat.not_lt_zero _)
  returnStmt _ _ h := absurd h (Nat.not_lt_zero _)
  assign _ h := absurd h (Nat.not_lt_zero _)
  exprStmt _ h := absurd h (Nat.not_lt_zero _)
  expr _ _ h := absurd h (Nat.not_lt_zero _)
  first _ h := absurd h (Nat.not_lt_zero _)
  loop _ _ _ h := absurd h (Nat.not_lt_zero _)
  prefixOp _ _ h := absurd h (Nat.not_lt_zero _)
  grouped _ _ h := absurd h (Nat.not_lt_zero _)
  infixOp _ _ _ h := absurd h (Nat.not_lt_zero _)
  call _ _ _ h := absurd h (Nat.not_lt_zero _)
  index _ _ _ h := absurd h (Nat.not_lt_zero _)
  exprList _ _ _ h := absurd h (Nat.not_lt_zero _)
  exprListLoop _ _ _ h := absurd h (Nat.not_lt_zero _)
  ifElse _ h := absurd h (Nat.not_lt_zero _)
  whileLoop _ h := absurd h (Nat.not_lt_zero _)
  forLoop _ h := absurd h (Nat.not_lt_zero _)
  forInit _ h := absurd h (Nat.not_lt_zero _)
  forCond _ h := absurd h (Nat.not_lt_zero _)
  forStep _ h := absurd h (Nat.not_lt_zero _)
  function _ h := absurd h (Nat.not_lt_zero _)
  classDef _ h := absurd h (Nat.not_lt_zero _)
  array _ _ h := absurd h (Nat.not_lt_zero _)
  hash _ _ h := absurd h (Nat.not_lt_zero _)
  hashLoop _ _ _ h := absurd h (Nat.not_lt_zero _)
  block _ _ h := absurd h (Nat.not_lt_zero _)
  blockLoop _ _ h := absurd h (Nat.not_lt_zero _)

theorem mono {m n : Nat} (h : Sound n) (hle : m ≤ n) : Sound m where
  statement p hp := h.statement p (by omega)
  letStmt p hp := h.letStmt p (by omega)
  returnStmt p hne hp := h.returnStmt p hne (by omega)
  assign p hp := h.assign p (by omega)
  exprStmt p hp := h.exprStmt p (by omega)
  expr prec p hp := h.expr prec p (by omega)
  first p hp := h.first p (by omega)
  loop prec left p hp := h.loop prec left p (by omega)
  prefixOp p hne hp := h.prefixOp p hne (by omega)
  grouped p hne hp := h.grouped p hne (by omega)
  infixOp left p hne hp := h.infixOp left p hne (by omega)
  call left p hne hp := h.call left p hne (by omega)
  index left p hne hp := h.index left p hne (by omega)
  exprList close p hne hp := h.exprList close p hne (by omega)
  exprListLoop close p acc hp := h.exprListLoop close p acc (by omega)
  ifElse p hp := h.ifElse p (by omega)
  whileLoop p hp := h.whileLoop p (by omega)
  forLoop p hp := h.forLoop p (by omega)
  forInit p hp := h.forInit p (by omega)
  forCond p hp := h.forCond p (by omega)
  forStep p hp := h.forStep p (by omega)
  function p hp := h.function p (by omega)
  classDef p hp := h.classDef p (by omega)
  array p hne hp := h.array p hne (by omega)
  hash p hne hp := h.hash p hne (by omega)
  hashLoop p hne acc hp := h.hashLoop p hne acc (by omega)
  block p hne hp := h.block p hne (by omega)
  blockLoop p acc hp := h.blockLoop p acc (by omega)

/-- A call whose measure is below `n + 1` is fine by its step lemma, whose own calls have
measures below its own. -/
theorem succ {n : Nat} (h : Sound n) : Sound (n + 1) where
  statement _ hp := statement_step (h.mono (by omega))
  letStmt _ hp := letStmt_step (h.mono (by omega))
  returnStmt _ hne hp := returnStmt_step hne (h.mono (by omega))
  assign _ hp := assign_step (h.mono (by omega))
  exprStmt _ hp := exprStmt_step (h.mono (by omega))
  expr prec _ hp := expr_step prec (h.mono (by omega))
  first _ hp := first_step (h.mono (by omega))
  loop prec left _ hp := loop_step prec left (h.mono (by omega))
  prefixOp _ hne hp := prefixOp_step hne (h.mono (by omega))
  grouped _ hne hp := grouped_step hne (h.mono (by omega))
  infixOp left _ hne hp := infixOp_step left hne (h.mono (by omega))
  call left _ hne hp := call_step left hne (h.mono (by omega))
  index left _ hne hp := index_step left hne (h.mono (by omega))
  exprList close _ hne hp := exprList_step close hne (h.mono (by omega))
  exprListLoop close _ acc hp := exprListLoop_step close acc (h.mono (by omega))
  ifElse _ hp := ifElse_step (h.mono (by omega))
  whileLoop _ hp := whileLoop_step (h.mono (by omega))
  forLoop _ hp := forLoop_step (h.mono (by omega))
  forInit _ hp := forInit_step (h.mono (by omega))
  forCond _ hp := forCond_step (h.mono (by omega))
  forStep _ hp := forStep_step (h.mono (by omega))
  function _ hp := function_step (h.mono (by omega))
  classDef _ hp := classDef_step (h.mono (by omega))
  array _ hne hp := array_step hne (h.mono (by omega))
  hash _ hne hp := hash_step hne (h.mono (by omega))
  hashLoop _ hne acc hp := hashLoop_step hne acc (h.mono (by omega))
  block _ hne hp := block_step hne (h.mono (by omega))
  blockLoop _ acc hp := blockLoop_step acc (h.mono (by omega))

/-- Every step of the parser is fine. -/
theorem all :
  ∀ n, Sound n
  | 0 => zero
  | n + 1 => (all n).succ

end Sound

/-- A statement read without a report is complete. -/
theorem statement_fine (p : Parser) :
  Fine (Stmt.completeOpt · = true) p (parseStatement p).val (parseStatement p).state
  := (Sound.all _).statement p (Nat.lt_succ_self _)

/-- The statements of a program read without a report are complete. -/
theorem programLoop_fine (p : Parser) (acc : Array Stmt) :
  Fine (fun r : Array Stmt => Stmt.completeList acc.toList = true →
      Stmt.completeList r.toList = true) p
    (programLoop p acc).1 (programLoop p acc).2
  := by
  fun_induction programLoop p acc with
  | case1 p acc hp => exact Fine.intro (Reaches.refl p) id
  | case2 p acc _ q _ heq =>
    have h := statement_fine p
    rw [heq] at h
    exact h.map fun _ => id
  | case3 p acc _ st q _ heq _ ih =>
    have h := statement_fine p
    rw [heq] at h
    refine h.bind (Fine.pre (Reaches.advance q) ih) fun hs hl hacc => hl ?_
    simp only [Array.toList_push, Stmt.completeList_iff, List.mem_append,
      List.mem_singleton] at hacc ⊢
    rintro x (hx | rfl)
    · exact hacc x hx
    · exact hs

end Parser

/-- A source text that parses with no error, and where no `for` header is abandoned, gives a
complete program: every hole of the tree comes with an error, but for those of abandoned `for`
headers. -/
theorem Program.parse_complete (src : String)
    (hfor : Parser.NoAbandonedFor (Token.scan src.toList))
    (herr : (Program.parse src).errors = []) :
  (Program.parse src).program.complete = true
  := by
  have h := Parser.programLoop_fine ⟨Token.scan src.toList, #[]⟩ #[]
  unfold Program.parse Parsed.ofTokens at herr ⊢
  generalize Parser.programLoop ⟨Token.scan src.toList, #[]⟩ #[] = r at h herr ⊢
  obtain ⟨stmts, q⟩ := r
  have hq : q.errors.size = 0 := by simpa using herr
  exact h.sound hfor (by simp [hq]) rfl

/-- A function literal and its call parse with no error into a complete program. -/
theorem parse_complete_call :
  (Program.parse "let f = fn(x) \x7b x + y \x7d; f(y)").program.complete = true
  := Program.parse_complete _ (Parser.noAbandonedFor_of_forall (by decide +kernel))
    (by decide +kernel)

/-- An abandoned `for` header inside a block that is never closed: the parse reports no error,
yet the tree has a hole where the loop was, and no `}` ends the block. -/
theorem abandoned_for_unclosed_block :
  (Program.parse "if (true) \x7b for (x").errors = [] ∧
    (Program.parse "if (true) \x7b for (x").program.complete = false ∧
    ∀ t ∈ Token.scan "if (true) \x7b for (x".toList, t.kind ≠ .rbrace
  := by
  decide +kernel

end Monkey
