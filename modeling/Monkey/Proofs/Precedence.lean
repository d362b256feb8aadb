import Mathlib.Data.List.TakeWhile
import Monkey.Proofs.Lexing
import Monkey.Proofs.Parsing

/-!
# Operator precedence

An operator chain is a sequence `x₀ op₁ x₁ … opₙ xₙ`: operands joined by binary operators, an
operand being a name or a numeral after any number of the prefix operators `!` and `-`. The tree
such a chain stands for is fixed by the binding strengths of the operators,
`or < and < == != < comparisons < + - < * / % < prefix < .`:

- the root of a chain with an operator other than the dot is the last of its most loosely
  binding such operators, so operators of equal strength associate to the left (`chainTree`);
- in a chain of dots only, the dots associate to the left, and a prefix operator applies to the
  largest operand after it that is built with dots alone (`dotTree`).

The parser builds exactly this tree (`parseExpr_chain`): reading at strength `prec` it takes
the longest run of operators that bind more strongly than `prec`, or than the prefix strength
after a prefix operator. So a chain written with spaces parses, with no error, to one
expression statement holding its tree (`parse_chain`). A numeral of more than
`Decimal.intDigitLimit` digits is no operand: it is reported as an error
(`parse_long_numeral`).
-/

namespace Monkey

namespace TokenKind

/-- The binary operators: the kinds the operator loop reads as an infix. -/
def isBinary : TokenKind → Bool
  | plus | minus | asterisk | slash | modulus | lt | gt | lte | gte | eq | notEq | and | or
  | dot => true
  | _ => false

theorem strength_pos_of_isBinary {k : TokenKind} (h : k.isBinary = true) :
  0 < k.strength
  := by
  revert h
  cases k <;> decide

/-- Of the binary operators only the dot binds as strongly as `8`. -/
theorem eq_dot_of_isBinary {k : TokenKind} (h : k.isBinary = true) (hs : 8 ≤ k.strength) :
  k = .dot
  := by
  revert h hs
  cases k <;> decide

theorem strength_le_of_isBinary {k : TokenKind} (h : k.isBinary = true) :
  k.strength ≤ 8
  := by
  revert h
  cases k <;> decide

/-- Every binary operator other than the dot binds more loosely than a prefix operator. -/
theorem strength_lt_prefix_of_isBinary {k : TokenKind} (h : k.isBinary = true) (hk : k ≠ .dot) :
  k.strength < prefixStrength
  := by
  revert h hk
  cases k <;> decide

theorem strength_dot :
  TokenKind.dot.strength = 8
  := rfl

/-- A binary operator neither ends an expression nor opens a call or an index, and is no
assignment. -/
theorem ne_of_isBinary {k : TokenKind} (h : k.isBinary = true) :
  k ≠ .semicolon ∧ k ≠ .lparen ∧ k ≠ .lbracket ∧ k ≠ .assign
  := by
  revert h
  cases k <;> decide

end TokenKind

namespace Token

/-- The prefix operators `!` and `-`. -/
def IsPrefixOp (t : Token) : Prop := t = ⟨.bang, "!"⟩ ∨ t = ⟨.minus, "-"⟩

/-- The atoms of a chain. -/
inductive IsAtom : Token → Prop
  /-- a name: a word of ASCII letters and underscores that is no keyword -/
  | name {w : String} : w ≠ "" → (∀ c ∈ w.toList, c.isAlpha ∨ c = '_') →
      TokenKind.ofWord w = .ident → IsAtom ⟨.ident, w⟩
  /-- a numeral: at most `Decimal.intDigitLimit` decimal digits -/
  | numeral {s : String} : s.toList ≠ [] → (∀ c ∈ s.toList, c.isDigit) →
      s.toList.length ≤ Decimal.intDigitLimit → IsAtom ⟨.int, s⟩

/-- The binary operators, each written as the lexer reads it back: `&&` and `||` either as
symbols or as the words `and` and `or`. -/
def IsBinaryOp (t : Token) : Prop := t.kind.isBinary = true ∧ t.Canonical

theorem IsPrefixOp.kind {t : Token} (h : t.IsPrefixOp) :
  t.kind = .bang ∨ t.kind = .minus
  := by
  rcases h with rfl | rfl
  · exact Or.inl rfl
  · exact Or.inr rfl

theorem IsPrefixOp.canonical {t : Token} (h : t.IsPrefixOp) :
  t.Canonical
  := by
  rcases h with rfl | rfl
  · exact Canonical.symbol (k := .bang) rfl
  · exact Canonical.symbol (k := .minus) rfl

theorem IsAtom.kind {t : Token} (h : t.IsAtom) :
  t.kind = .ident ∨ t.kind = .int
  := by
  cases h with
  | name => exact Or.inl rfl
  | numeral => exact Or.inr rfl

/-- A numeral of decimal digits, of any length, is read back by the lexer. -/
theorem canonical_numeral {s : String} (hne : s.toList ≠ []) (hd : ∀ c ∈ s.toList, c.isDigit) :
  Canonical ⟨.int, s⟩
  := by
  obtain ⟨d, ds, hds⟩ := List.exists_cons_of_ne_nil hne
  have hc := @Canonical.number d ds (hd d (by simp [hds]))
    (fun c hc => Or.inl (hd c (by simp [hds, hc])))
  rwa [← hds, String.ofList_toList] at hc

theorem IsAtom.canonical {t : Token} (h : t.IsAtom) :
  t.Canonical
  := by
  cases h with
  | name hne hw hid =>
    have hc := Canonical.word hne hw
    rwa [hid] at hc
  | numeral hne hd _ => exact canonical_numeral hne hd

end Token

namespace Precedence

/-- An operand of a chain: prefix operators before an atom. -/
structure Operand where
  prefixes : List Token
  atom : Token
  prefixes_ok : ∀ p ∈ prefixes, p.IsPrefixOp
  atom_ok : atom.IsAtom

/-- A binary operator with the operand after it. -/
structure Link where
  op : Token
  operand : Operand
  op_ok : op.IsBinaryOp

/-- The tokens of an operand. -/
def Operand.tokens (o : Operand) : List Token := o.prefixes ++ [o.atom]

/-- The first token of an operand. -/
def Operand.first (o : Operand) : Token := o.prefixes.headD o.atom

/-- The tokens of a run of links. -/
def linkTokens (xs : List Link) : List Token := xs.flatMap fun x => x.op :: x.operand.tokens

@[simp] theorem linkTokens_nil :
  linkTokens [] = []
  := rfl

@[simp] theorem linkTokens_cons (x : Link) (xs : List Link) :
  linkTokens (x :: xs) = x.op :: (x.operand.tokens ++ linkTokens xs)
  := rfl

/-- The tokens of a chain. -/
def chainTokens (o : Operand) (xs : List Link) : List Token := o.tokens ++ linkTokens xs

/-! ### The tree of a chain -/

/-- The expression an atom stands for: the integer its digits denote, or the name. -/
def atomExpr (a : Token) : Expr :=
  if a.kind = .int then .number a (.int (Decimal.digitsValue a.literal.toList))
  else .ident ⟨a, a.literal⟩

/-- An expression under prefix operators, the first of them outermost. -/
def applyPrefixes (ps : List Token) (e : Expr) : Expr :=
  ps.foldr (fun p e => .prefixOp p p.literal (some e)) e

/-- The node of a binary operator. -/
def infixNode (op : Token) (l r : Expr) : Expr := .infixOp op (some l) op.literal (some r)

/-- A run of dots continuing the tree `acc`, left to right. An operand with prefix operators
takes the whole rest of the run under them. -/
def dotChain (acc : Expr) : List Link → Expr
  | [] => acc
  | ⟨d, ⟨[], a, _, _⟩, _⟩ :: rest => dotChain (infixNode d acc (atomExpr a)) rest
  | ⟨d, ⟨p :: ps, a, _, _⟩, _⟩ :: rest =>
    infixNode d acc (applyPrefixes (p :: ps) (dotChain (atomExpr a) rest))

/-- The tree of an operand followed by a run of dots. -/
def dotTree (o : Operand) (rest : List Link) : Expr :=
  applyPrefixes o.prefixes (dotChain (atomExpr o.atom) rest)

/-- A chain cut at its last most loosely binding operator other than the dot: the links before
it, its link, and the links after it; `none` when every operator is a dot. -/
def cut : List Link → Option (List Link × Link × List Link)
  | [] => none
  | x :: xs =>
    match cut xs with
    | none => if x.op.kind = .dot then none else some ([], x, xs)
    | some (l, y, r) =>
      if x.op.kind ≠ .dot ∧ x.op.kind.strength < y.op.kind.strength then some ([], x, xs)
      else some (x :: l, y, r)

theorem cut_eq_some {xs l r : List Link} {y : Link} (h : cut xs = some (l, y, r)) :
  xs = l ++ y :: r
  := by
  induction xs generalizing l y r with
  | nil => simp [cut] at h
  | cons x xs ih =>
    simp only [cut] at h
    split at h
    · split at h
      · simp at h
      · simp only [Option.some.injEq, Prod.mk.injEq] at h
        obtain ⟨rfl, rfl, rfl⟩ := h
        rfl
    · rename_i l' y' r' hc
      split at h
      · simp only [Option.some.injEq, Prod.mk.injEq] at h
        obtain ⟨rfl, rfl, rfl⟩ := h
        rfl
      · simp only [Option.some.injEq, Prod.mk.injEq] at h
        obtain ⟨rfl, rfl, rfl⟩ := h
        simp [ih hc]

/-- The tree of a chain: cut at its last most loosely binding operator other than the dot, or
read as a run of dots when it has no other operator. -/
def chainTree (o : Operand) (rest : List Link) : Expr :=
  match _hcut : cut rest with
  | none => dotTree o rest
  | some (l, y, r) => infixNode y.op (chainTree o l) (chainTree y.operand r)
termination_by rest.length
decreasing_by
  all_goals
    rw [cut_eq_some _hcut]
    simp only [List.length_append, List.length_cons]
    omega

theorem chainTree_of_cut_none {o : Operand} {rest : List Link} (h : cut rest = none) :
  chainTree o rest = dotTree o rest
  := by
  rw [chainTree]
  split
  · rfl
  · rename_i h'
    rw [h] at h'
    cases h'

theorem chainTree_of_cut_some {o : Operand} {rest l r : List Link} {y : Link}
    (h : cut rest = some (l, y, r)) :
  chainTree o rest = infixNode y.op (chainTree o l) (chainTree y.operand r)
  := by
  rw [chainTree]
  split
  · simp_all
  · rename_i l' y' r' h'
    rw [h] at h'
    simp only [Option.some.injEq, Prod.mk.injEq] at h'
    obtain ⟨rfl, rfl, rfl⟩ := h'
    rfl

/-! ### Runs of dots -/

/-- Operands without prefix operators continue a run of dots one at a time. -/
theorem dotChain_append {acc : Expr} {A : List Link} (hA : ∀ x ∈ A, x.operand.prefixes = [])
    (L : List Link) :
  dotChain acc (A ++ L) = dotChain (dotChain acc A) L
  := by
  induction A generalizing acc with
  | nil => rfl
  | cons x A ih =>
    obtain ⟨d, ⟨ps, a, hps, ha⟩, hd⟩ := x
    have hnil : ps = [] := hA _ List.mem_cons_self
    subst hnil
    exact ih fun y hy => hA y (List.mem_cons_of_mem _ hy)

/-- A dot takes the tree read so far as its left operand and, as its right operand, the tree
of its own operand with the dots after it; an operand without prefix operators takes none. -/
theorem dotChain_cons (acc : Expr) (x : Link) (T : List Link)
    (hT : x.operand.prefixes = [] → T = []) :
  dotChain acc (x :: T) = infixNode x.op acc (dotTree x.operand T)
  := by
  obtain ⟨d, ⟨ps, a, hps, ha⟩, hd⟩ := x
  cases ps with
  | nil =>
    obtain rfl := hT rfl
    rfl
  | cons p ps => rfl

theorem cut_eq_none_of_dots {L : List Link} (h : ∀ x ∈ L, x.op.kind = .dot) :
  cut L = none
  := by
  induction L with
  | nil => rfl
  | cons x L ih =>
    have hx : x.op.kind = .dot := h x List.mem_cons_self
    simp [cut, ih fun y hy => h y (List.mem_cons_of_mem _ hy), hx]

theorem chainTree_of_dots {o : Operand} {L : List Link} (h : ∀ x ∈ L, x.op.kind = .dot) :
  chainTree o L = dotTree o L
  := chainTree_of_cut_none (cut_eq_none_of_dots h)

/-- An operand alone is its atom under its prefix operators. -/
theorem chainTree_nil (o : Operand) :
  chainTree o [] = applyPrefixes o.prefixes (atomExpr o.atom)
  := chainTree_of_cut_none rfl

/-- A prefix operator before a run of dots applies to the whole run. -/
theorem chainTree_prefix {p : Token} {ps : List Token} {a : Token}
    {hps : ∀ q ∈ p :: ps, q.IsPrefixOp} {ha : a.IsAtom} {T : List Link}
    (hT : ∀ x ∈ T, x.op.kind = .dot) :
  chainTree ⟨p :: ps, a, hps, ha⟩ T
    = .prefixOp p p.literal
        (some (chainTree ⟨ps, a, fun q hq => hps q (List.mem_cons_of_mem _ hq), ha⟩ T))
  := by
  rw [chainTree_of_dots hT, chainTree_of_dots hT]
  rfl

/-- A dot after a run of dots without prefix operators takes the run as its left operand. -/
theorem chainTree_dot {o : Operand} {A T : List Link} {y : Link} (hy : y.op.kind = .dot)
    (ho : o.prefixes = []) (hA : ∀ x ∈ A, x.op.kind = .dot ∧ x.operand.prefixes = [])
    (hT : ∀ x ∈ T, x.op.kind = .dot) (hT' : y.operand.prefixes = [] → T = []) :
  chainTree o (A ++ y :: T) = infixNode y.op (chainTree o A) (chainTree y.operand T)
  := by
  have hall : ∀ x ∈ A ++ y :: T, x.op.kind = .dot := by
    intro x hx
    simp only [List.mem_append, List.mem_cons] at hx
    rcases hx with hx | rfl | hx
    · exact (hA x hx).1
    · exact hy
    · exact hT x hx
  rw [chainTree_of_dots hall, chainTree_of_dots (fun x hx => (hA x hx).1), chainTree_of_dots hT]
  simp only [dotTree, ho, applyPrefixes, List.foldr_nil]
  rw [dotChain_append (fun x hx => (hA x hx).2), dotChain_cons _ _ _ hT']
  rfl

/-! ### Cutting at the loosest operator -/

/-- An operator other than the dot that binds more loosely than everything after it is where
a chain starting with it is cut. -/
theorem cut_cons_of_looser {y : Link} {T : List Link} (hy : y.op.kind ≠ .dot)
    (hT : ∀ x ∈ T, y.op.kind.strength < x.op.kind.strength) :
  cut (y :: T) = some ([], y, T)
  := by
  cases hc : cut T with
  | none => simp [cut, hc, hy]
  | some c =>
    obtain ⟨l, z, r⟩ := c
    have hz : z ∈ T := by
      rw [cut_eq_some hc]
      simp
    simp [cut, hc, hy, hT z hz]

/-- Operators that bind at least as strongly as the cut one do not move the cut. -/
theorem cut_append_of_tighter {A T : List Link} {y : Link}
    (hA : ∀ x ∈ A, y.op.kind.strength ≤ x.op.kind.strength) (h : cut (y :: T) = some ([], y, T)) :
  cut (A ++ y :: T) = some (A, y, T)
  := by
  induction A with
  | nil => exact h
  | cons x A ih =>
    have hx : y.op.kind.strength ≤ x.op.kind.strength := hA x List.mem_cons_self
    have hrest := ih fun z hz => hA z (List.mem_cons_of_mem _ hz)
    simp only [List.cons_append, cut, hrest]
    rw [if_neg (fun h => absurd h.2 (Nat.not_lt.2 hx))]

/-- An operator other than the dot, binding no more strongly than the operators before it and
more loosely than those after it, is the root of the chain's tree. -/
theorem chainTree_loosest {o : Operand} {A T : List Link} {y : Link} (hy : y.op.kind ≠ .dot)
    (hA : ∀ x ∈ A, y.op.kind.strength ≤ x.op.kind.strength)
    (hT : ∀ x ∈ T, y.op.kind.strength < x.op.kind.strength) :
  chainTree o (A ++ y :: T) = infixNode y.op (chainTree o A) (chainTree y.operand T)
  := chainTree_of_cut_some (cut_append_of_tighter hA (cut_cons_of_looser hy hT))

/-! ### What the parser reads -/

/-- Whether the operator of a link binds more strongly than `k`. -/
def bindsAbove (k : Nat) (x : Link) : Bool := decide (k < x.op.kind.strength)

/-- The strength an operand read at `prec` stops at: a prefix operator reads its operand at the
prefix strength, and operators after that still bind only above `prec`. -/
def Operand.reach (o : Operand) (prec : Nat) : Nat :=
  if o.prefixes = [] then prec else min prec prefixStrength

/-- The atom a chain ends with. -/
def lastAtom (o : Operand) : List Link → Token
  | [] => o.atom
  | x :: xs => lastAtom x.operand xs

theorem lastAtom_append_cons (o : Operand) (A : List Link) (y : Link) (T : List Link) :
  lastAtom o (A ++ y :: T) = lastAtom y.operand T
  := by
  induction A generalizing o with
  | nil => rfl
  | cons x A ih => exact ih x.operand

theorem lastAtom_of_atom_eq {o u : Operand} (h : o.atom = u.atom) (A : List Link) :
  lastAtom o A = lastAtom u A
  := by
  cases A with
  | nil => exact h
  | cons x A => rfl

theorem reach_le (o : Operand) (k : Nat) :
  o.reach k ≤ k
  := by
  unfold Operand.reach
  split <;> omega

theorem le_reach (o : Operand) {prec k : Nat} (hk : prec ≤ k) (hp : prec ≤ prefixStrength) :
  prec ≤ o.reach k
  := by
  unfold Operand.reach
  split <;> omega

theorem reach_of_le (o : Operand) {k : Nat} (hk : k ≤ prefixStrength) :
  o.reach k = k
  := by
  unfold Operand.reach
  split <;> omega

/-- Only an operand without prefix operators reads beyond the prefix strength. -/
theorem prefixes_eq_nil_of_reach {o : Operand} {k : Nat} (h : prefixStrength < o.reach k) :
  o.prefixes = []
  := by
  unfold Operand.reach at h
  split at h
  · assumption
  · omega

/-- The next operator after a run taken at `k` binds no more strongly than `k`. -/
theorem strength_le_of_head_dropWhile {k : Nat} {l : List Link} {z : Link}
    (hz : z ∈ (l.dropWhile (bindsAbove k)).head?) :
  z.op.kind.strength ≤ k
  := by
  have h := List.head?_dropWhile_not (bindsAbove k) l
  rw [Option.mem_def] at hz
  rw [hz] at h
  simpa [bindsAbove] using h

/-- A run taken at strength `8` or more is empty: no binary operator binds more strongly. -/
theorem takeWhile_bindsAbove_eq_nil {k : Nat} (hk : 8 ≤ k) (l : List Link) :
  l.takeWhile (bindsAbove k) = []
  := by
  cases l with
  | nil => rfl
  | cons x l =>
    have hx := TokenKind.strength_le_of_isBinary x.op_ok.1
    rw [List.takeWhile_cons_of_neg]
    simp only [bindsAbove, decide_eq_true_eq]
    omega

/-- Every operator of a run taken at strength `7` or more is a dot. -/
theorem dot_of_mem_takeWhile {k : Nat} (hk : prefixStrength ≤ k) {l : List Link} {x : Link}
    (hx : x ∈ l.takeWhile (bindsAbove k)) :
  x.op.kind = .dot
  := by
  have hs : k < x.op.kind.strength := by simpa [bindsAbove] using List.mem_takeWhile_imp hx
  exact TokenKind.eq_dot_of_isBinary x.op_ok.1 (by simp only [prefixStrength] at hk; omega)

/-- A run taken at a stronger strength, then one at a weaker, is one run at the weaker. -/
theorem takeWhile_append_takeWhile_dropWhile {p q : Link → Bool} (h : ∀ x, p x → q x)
    (l : List Link) :
  l.takeWhile p ++ (l.dropWhile p).takeWhile q = l.takeWhile q
  := by
  induction l with
  | nil => rfl
  | cons x l ih =>
    by_cases hp : p x
    · simp [List.takeWhile_cons_of_pos hp, List.dropWhile_cons_of_pos hp,
        List.takeWhile_cons_of_pos (h x hp), ih]
    · simp [List.takeWhile_cons_of_neg hp, List.dropWhile_cons_of_neg hp]

theorem dropWhile_dropWhile_of_imp {p q : Link → Bool} (h : ∀ x, p x → q x) (l : List Link) :
  (l.dropWhile p).dropWhile q = l.dropWhile q
  := by
  induction l with
  | nil => rfl
  | cons x l ih =>
    by_cases hp : p x
    · simp [List.dropWhile_cons_of_pos hp, List.dropWhile_cons_of_pos (h x hp), ih]
    · simp [List.dropWhile_cons_of_neg hp]

/-- After a run taken at a weaker strength, nothing is left to take at a stronger one. -/
theorem takeWhile_dropWhile_of_imp {p q : Link → Bool} (h : ∀ x, q x → p x) (l : List Link) :
  (l.dropWhile p).takeWhile q = [] ∧ (l.dropWhile p).dropWhile q = l.dropWhile p
  := by
  have hd := List.head?_dropWhile_not p l
  cases hl : l.dropWhile p with
  | nil => simp
  | cons z zs =>
    rw [hl] at hd
    have hq : ¬ q z := fun hq => by simp [h z hq] at hd
    simp [List.takeWhile_cons_of_neg hq, List.dropWhile_cons_of_neg hq]

theorem bindsAbove_mono {j k : Nat} (h : j ≤ k) (x : Link) :
  bindsAbove k x = true → bindsAbove j x = true
  := by
  simp only [bindsAbove, decide_eq_true_eq]
  omega

/-- What the operator loop keeps of the operators it has read: they bind at least as strongly
as the next one it reads, and when that one is a dot, no operand before it has prefix
operators. -/
def LoopInv (prec : Nat) (o : Operand) (A R : List Link) : Prop :=
  ∀ y ∈ R.head?, prec < y.op.kind.strength →
    (∀ x ∈ A, y.op.kind.strength ≤ x.op.kind.strength) ∧
    (y.op.kind = .dot → o.prefixes = [] ∧ ∀ x ∈ A, x.operand.prefixes = [])

theorem LoopInv.nil {prec : Nat} {o : Operand} (ho : o.prefixes = []) (R : List Link) :
  LoopInv prec o [] R
  := fun _ _ _ =>
    ⟨fun _ hx => absurd hx List.not_mem_nil, fun _ => ⟨ho, fun _ hx => absurd hx List.not_mem_nil⟩⟩

section Step

variable {prec : Nat} {o : Operand} {A R' : List Link} {y : Link}

/-- The run the loop reads as the right operand of `y`. -/
abbrev rightRun (y : Link) (R' : List Link) : List Link :=
  R'.takeWhile (bindsAbove (y.operand.reach y.op.kind.strength))

/-- What is left after the right operand of `y`. -/
abbrev restAfter (y : Link) (R' : List Link) : List Link :=
  R'.dropWhile (bindsAbove (y.operand.reach y.op.kind.strength))

/-- The operator the loop reads becomes the root of the tree read so far and its right
operand. -/
theorem chainTree_step (hinv : LoopInv prec o A (y :: R')) (hlt : prec < y.op.kind.strength) :
  chainTree o (A ++ y :: rightRun y R')
    = infixNode y.op (chainTree o A) (chainTree y.operand (rightRun y R'))
  := by
  obtain ⟨hA, hdot⟩ := hinv y rfl hlt
  have hb := y.op_ok.1
  by_cases hd : y.op.kind = .dot
  · obtain ⟨ho, hAp⟩ := hdot hd
    have hreach : prefixStrength ≤ y.operand.reach y.op.kind.strength := by
      unfold Operand.reach
      split <;> simp [hd, TokenKind.strength_dot, prefixStrength]
    refine chainTree_dot hd ho (fun x hx => ⟨?_, hAp x hx⟩)
      (fun x hx => dot_of_mem_takeWhile hreach hx) (fun hnil => ?_)
    · have hx := hA x hx
      rw [hd, TokenKind.strength_dot] at hx
      exact TokenKind.eq_dot_of_isBinary x.op_ok.1 hx
    · apply takeWhile_bindsAbove_eq_nil
      simp [Operand.reach, hnil, hd, TokenKind.strength_dot]
  · have hreach : y.operand.reach y.op.kind.strength = y.op.kind.strength :=
      reach_of_le _ (Nat.le_of_lt (TokenKind.strength_lt_prefix_of_isBinary hb hd))
    refine chainTree_loosest hd hA fun x hx => ?_
    have hx' := List.mem_takeWhile_imp hx
    rw [hreach] at hx'
    simpa [bindsAbove] using hx'

/-- The invariant holds again after the loop has read an operator and its right operand. -/
theorem LoopInv.step (hinv : LoopInv prec o A (y :: R')) (hlt : prec < y.op.kind.strength) :
  LoopInv prec o (A ++ y :: rightRun y R') (restAfter y R')
  := by
  obtain ⟨hA, hdot⟩ := hinv y rfl hlt
  intro z hz _
  have hz' : z.op.kind.strength ≤ y.operand.reach y.op.kind.strength :=
    strength_le_of_head_dropWhile hz
  have hry := reach_le y.operand y.op.kind.strength
  constructor
  · intro x hx
    simp only [List.mem_append, List.mem_cons] at hx
    rcases hx with hx | rfl | hx
    · exact le_trans hz' (le_trans hry (hA x hx))
    · exact le_trans hz' hry
    · have := List.mem_takeWhile_imp hx
      simp only [bindsAbove, decide_eq_true_eq] at this
      omega
  · intro hzd
    have h8 : 8 ≤ y.operand.reach y.op.kind.strength := by
      rw [hzd, TokenKind.strength_dot] at hz'
      exact hz'
    have hy8 := TokenKind.strength_le_of_isBinary y.op_ok.1
    have hyd : y.op.kind = .dot := TokenKind.eq_dot_of_isBinary y.op_ok.1 (by omega)
    obtain ⟨ho, hAp⟩ := hdot hyd
    have hyp : y.operand.prefixes = [] :=
      prefixes_eq_nil_of_reach (k := y.op.kind.strength) (by simp only [prefixStrength]; omega)
    have hT : rightRun y R' = [] := takeWhile_bindsAbove_eq_nil h8 R'
    refine ⟨ho, fun x hx => ?_⟩
    rw [hT] at hx
    simp only [List.mem_append, List.mem_singleton] at hx
    rcases hx with hx | rfl
    · exact hAp x hx
    · exact hyp

end Step

/-- An atom is read as the expression it stands for, and the operator loop goes on after it. -/
theorem parseExpr_atom (prec : Nat) {a : Token} (ha : a.IsAtom) (toks : List Token)
    (errs : Array String) :
  (Parser.parseExpr prec ⟨a :: toks, errs⟩).out
    = (Parser.infixLoop prec (some (atomExpr a)) ⟨a :: toks, errs⟩).out
  := by
  cases ha with
  | name =>
    rw [Parser.parseExpr_ident prec (t := ⟨.ident, _⟩) rfl]
    rfl
  | @numeral s hne hd hlen =>
    have hdot : '.' ∉ s.toList := fun h => by simpa using hd '.' h
    have hn := Decimal.readInt?_of_digits hne
      (fun c hc => by rw [Decimal.isDigit_eq]; exact hd c hc) hlen
    rw [Parser.parseExpr_int prec (t := ⟨.int, s⟩) rfl hdot hn]
    rfl

/-- The reading stops at the end of the chain. -/
theorem continues_last (t : Token) (errs : Array String) (prec : Nat) :
  Parser.continues ⟨[t], errs⟩ prec = false
  := by
  simp [Parser.continues, Parser.peek, Token.eof, TokenKind.strength]

/-- The reading stops before an operator that binds no more strongly than `prec`. -/
theorem continues_of_le {t : Token} {y : Link} {toks : List Token} {errs : Array String}
    {prec : Nat} (h : ¬ prec < y.op.kind.strength) :
  Parser.continues ⟨t :: y.op :: toks, errs⟩ prec = false
  := by
  simp [Parser.continues, Parser.peek, h]

mutual

/-- Reading an expression at strength `prec` from the start of a chain gives the tree of the
operand with the longest run of links after it whose operators bind more strongly than the
operand's reach, and stops on the last atom of that run. -/
theorem parseExpr_chain (prec : Nat) (o : Operand) (R : List Link) (errs : Array String) :
  (Parser.parseExpr prec ⟨o.tokens ++ linkTokens R, errs⟩).out
    = (some (chainTree o (R.takeWhile (bindsAbove (o.reach prec)))),
        ⟨lastAtom o (R.takeWhile (bindsAbove (o.reach prec)))
          :: linkTokens (R.dropWhile (bindsAbove (o.reach prec))), errs⟩)
  := by
  match o with
  | ⟨[], a, hps, ha⟩ =>
    have hloop := infixLoop_chain prec ⟨[], a, hps, ha⟩ [] R errs (LoopInv.nil rfl R)
    have hreach : Operand.reach ⟨[], a, hps, ha⟩ prec = prec := if_pos rfl
    rw [hreach]
    show (Parser.parseExpr prec ⟨a :: linkTokens R, errs⟩).out = _
    rw [parseExpr_atom prec ha]
    rw [List.nil_append, chainTree_nil] at hloop
    exact hloop
  | ⟨p :: ps, a, hps, ha⟩ =>
    let o' : Operand := ⟨ps, a, fun q hq => hps q (List.mem_cons_of_mem _ hq), ha⟩
    have hin := parseExpr_chain prefixStrength o' R errs
    rw [reach_of_le o' (Nat.le_refl _)] at hin
    have hdots : ∀ x ∈ R.takeWhile (bindsAbove prefixStrength), x.op.kind = .dot :=
      fun x hx => dot_of_mem_takeWhile (Nat.le_refl _) hx
    have hinv : LoopInv prec ⟨p :: ps, a, hps, ha⟩ (R.takeWhile (bindsAbove prefixStrength))
        (R.dropWhile (bindsAbove prefixStrength)) := by
      intro z hz _
      have hz' := strength_le_of_head_dropWhile hz
      refine ⟨fun x hx => ?_, fun hzd => ?_⟩
      · have := List.mem_takeWhile_imp hx
        simp only [bindsAbove, decide_eq_true_eq] at this
        omega
      · rw [hzd, TokenKind.strength_dot] at hz'
        simp [prefixStrength] at hz'
    have hloop := infixLoop_chain prec ⟨p :: ps, a, hps, ha⟩ _ _ errs hinv
    show (Parser.parseExpr prec ⟨p :: (o'.tokens ++ linkTokens R), errs⟩).out = _
    rw [Parser.parseExpr_prefixOp prec (hps p List.mem_cons_self).kind,
      Parser.Step.val_eq hin, Parser.Step.state_eq hin,
      ← chainTree_prefix hdots, lastAtom_of_atom_eq (o := o') (u := ⟨p :: ps, a, hps, ha⟩) rfl,
      hloop]
    by_cases hp : prec ≤ prefixStrength
    · have hreach : Operand.reach ⟨p :: ps, a, hps, ha⟩ prec = prec := reach_of_le _ hp
      rw [hreach, takeWhile_append_takeWhile_dropWhile (bindsAbove_mono hp),
        dropWhile_dropWhile_of_imp (bindsAbove_mono hp)]
    · have hreach : Operand.reach ⟨p :: ps, a, hps, ha⟩ prec = prefixStrength := by
        simp only [Operand.reach, reduceCtorEq, if_false]
        omega
      obtain ⟨htake, hdrop⟩ :=
        takeWhile_dropWhile_of_imp (bindsAbove_mono (Nat.le_of_not_le hp)) R
      rw [hreach, htake, hdrop, List.append_nil]
termination_by (R.length, o.prefixes.length + 1)
decreasing_by
  · exact Prod.Lex.right _ (Nat.lt_succ_self _)
  · exact Prod.Lex.right _ (by simp)
  · rcases Nat.lt_or_eq_of_le (List.length_dropWhile_le (bindsAbove prefixStrength) R) with h | h
    · exact Prod.Lex.left _ _ h
    · rw [h]
      exact Prod.Lex.right _ (Nat.succ_pos _)

/-- The operator loop, having read the tree of `o` with the links `A`, reads the longest run of
the links `R` after it whose operators bind more strongly than `prec`, as long as the operators
already read keep the loop invariant. -/
theorem infixLoop_chain (prec : Nat) (o : Operand) (A R : List Link) (errs : Array String)
    (hinv : LoopInv prec o A R) :
  (Parser.infixLoop prec (some (chainTree o A)) ⟨lastAtom o A :: linkTokens R, errs⟩).out
    = (some (chainTree o (A ++ R.takeWhile (bindsAbove prec))),
        ⟨lastAtom o (A ++ R.takeWhile (bindsAbove prec))
          :: linkTokens (R.dropWhile (bindsAbove prec)), errs⟩)
  := by
  match R with
  | [] =>
    simp only [List.takeWhile_nil, List.dropWhile_nil, List.append_nil, linkTokens_nil]
    exact Parser.infixLoop_stop (continues_last _ _ _)
  | y :: R' =>
    by_cases hlt : prec < y.op.kind.strength
    · have hb : bindsAbove prec y = true := by simpa [bindsAbove] using hlt
      have hne := TokenKind.ne_of_isBinary y.op_ok.1
      have hin := parseExpr_chain y.op.kind.strength y.operand R' errs
      have hloop := infixLoop_chain prec o (A ++ y :: rightRun y R') (restAfter y R') errs
        (hinv.step hlt)
      have hle : prec ≤ y.operand.reach y.op.kind.strength :=
        le_reach _ (Nat.le_of_lt hlt)
          (by
            have := TokenKind.strength_le_of_isBinary y.op_ok.1
            simp only [prefixStrength]
            omega)
      rw [linkTokens_cons, Parser.infixLoop_infix hlt hne.1 hne.2.1 hne.2.2.1,
        Parser.Step.val_eq hin, Parser.Step.state_eq hin]
      rw [show Expr.infixOp y.op (some (chainTree o A)) y.op.literal
          (some (chainTree y.operand (rightRun y R')))
          = chainTree o (A ++ y :: rightRun y R') from (chainTree_step hinv hlt).symm,
        ← lastAtom_append_cons o A, hloop, List.takeWhile_cons_of_pos hb,
        List.dropWhile_cons_of_pos hb,
        ← takeWhile_append_takeWhile_dropWhile (bindsAbove_mono hle) R',
        dropWhile_dropWhile_of_imp (bindsAbove_mono hle)]
      simp only [List.append_assoc, List.cons_append]
    · have hb : bindsAbove prec y = false := by simpa [bindsAbove] using hlt
      rw [List.takeWhile_cons_of_neg (by simp [hb]), List.dropWhile_cons_of_neg (by simp [hb]),
        List.append_nil]
      exact Parser.infixLoop_stop (continues_of_le hlt)
termination_by (R.length, 0)
decreasing_by
  · exact Prod.Lex.left _ _ (Nat.lt_succ_self _)
  · exact Prod.Lex.left _ _ (Nat.lt_succ_of_le (List.length_dropWhile_le _ _))

end

/-! ### Whole programs -/

theorem chainTokens_canonical (o : Operand) (links : List Link) :
  ∀ t ∈ chainTokens o links, t.Canonical
  := by
  have hop : ∀ o' : Operand, ∀ t ∈ o'.tokens, t.Canonical := by
    intro o' t ht
    simp only [Operand.tokens, List.mem_append, List.mem_singleton] at ht
    rcases ht with ht | rfl
    · exact (o'.prefixes_ok t ht).canonical
    · exact o'.atom_ok.canonical
  intro t ht
  simp only [chainTokens, linkTokens, List.mem_append, List.mem_flatMap, List.mem_cons] at ht
  rcases ht with ht | ⟨x, _, rfl | ht⟩
  · exact hop o t ht
  · exact x.op_ok.2
  · exact hop x.operand t ht

theorem chainTokens_eq_cons (o : Operand) (links : List Link) :
  chainTokens o links = o.first :: (o.tokens.tail ++ linkTokens links)
  := by
  obtain ⟨ps, a, hps, ha⟩ := o
  cases ps <;> rfl

/-- A chain starts with a prefix operator, or with the atom of an operand that has none. -/
theorem first_kind (o : Operand) :
  o.first.kind = .bang ∨ o.first.kind = .minus ∨
    (o.prefixes = [] ∧ (o.first.kind = .ident ∨ o.first.kind = .int))
  := by
  obtain ⟨ps, a, hps, ha⟩ := o
  cases ps with
  | nil =>
    right; right
    exact ⟨rfl, ha.kind⟩
  | cons p ps =>
    rcases (hps p List.mem_cons_self).kind with h | h
    · exact Or.inl h
    · exact Or.inr (Or.inl h)

/-- A chain read as a statement is an expression statement holding its tree, and the reading
ends on its last atom. -/
theorem parseStatement_chain (o : Operand) (links : List Link) (errs : Array String) :
  (Parser.parseStatement ⟨chainTokens o links, errs⟩).out
    = (some (.exprStmt o.first (some (chainTree o links))), ⟨[lastAtom o links], errs⟩)
  := by
  have hkind := first_kind o
  have hkw : o.first.kind ≠ .letKw ∧ o.first.kind ≠ .returnKw ∧ o.first.kind ≠ .breakKw ∧
      o.first.kind ≠ .continueKw := by
    rcases hkind with h | h | ⟨-, h | h⟩ <;> simp [h]
  have hassign : o.first.kind = .ident →
      (Parser.peek ⟨o.first :: (o.tokens.tail ++ linkTokens links), errs⟩).kind ≠ .assign := by
    intro hid
    have hnil : o.prefixes = [] := by
      rcases hkind with h | h | ⟨h, -⟩ <;> simp_all
    obtain ⟨ps, a, hps, ha⟩ := o
    obtain rfl : ps = [] := hnil
    cases links with
    | nil => simp [Parser.peek, Operand.tokens, Token.eof]
    | cons x xs =>
      simpa [Parser.peek, Operand.tokens] using (TokenKind.ne_of_isBinary x.op_ok.1).2.2.2
  have hall : ∀ x ∈ links, bindsAbove (o.reach 0) x = true := by
    intro x _
    rw [reach_of_le o (Nat.zero_le _)]
    simpa [bindsAbove] using TokenKind.strength_pos_of_isBinary x.op_ok.1
  have hexpr := parseExpr_chain 0 o links errs
  rw [List.takeWhile_eq_self_iff.2 hall, List.dropWhile_eq_nil_iff.2 hall] at hexpr
  rw [chainTokens_eq_cons, Parser.parseStatement_exprStmt hkw hassign, Parser.parseExprStmt_out]
  dsimp only [Parser.cur, List.headD_cons]
  rw [← chainTokens_eq_cons, show chainTokens o links = o.tokens ++ linkTokens links from rfl,
    Parser.Step.val_eq hexpr, Parser.Step.state_eq hexpr, linkTokens_nil,
    Parser.skipSemicolon_single]

/-- Operator precedence and associativity: an operator chain written with a space between
neighbouring tokens parses, with no error, to one expression statement holding the chain's
tree. -/
theorem parse_chain (o : Operand) (links : List Link) :
  Program.parse (" ".intercalate ((chainTokens o links).map Token.spelling))
    = ⟨⟨[.exprStmt o.first (some (chainTree o links))]⟩, []⟩
  := by
  have hscan := Token.scan_intercalate_spelling _ (chainTokens_canonical o links)
  have hloop := Parser.programLoop_single (by simp [chainTokens_eq_cons])
    (parseStatement_chain o links #[]) #[]
  simp only [Program.parse, hscan, Parsed.ofTokens, hloop]
  rfl

/-- A numeral of more digits than `Decimal.intDigitLimit` reads as no integer: the program is
an expression statement with no expression, and the numeral is reported. -/
theorem parse_long_numeral {s : String} (hd : ∀ c ∈ s.toList, c.isDigit)
    (hlen : Decimal.intDigitLimit < s.toList.length) :
  Program.parse s
    = ⟨⟨[.exprStmt ⟨.int, s⟩ none]⟩, ["could not parse " ++ s ++ " as integer"]⟩
  := by
  have hne : s.toList ≠ [] := by
    intro h
    rw [h] at hlen
    exact absurd hlen (Nat.not_lt_zero _)
  have hscan : Token.scan s.toList = [⟨.int, s⟩] := by
    have h := Token.scan_intercalate_spelling [⟨.int, s⟩]
      (by simpa using Token.canonical_numeral hne hd)
    simpa [Token.spelling] using h
  have hdot : '.' ∉ s.toList := fun h => by simpa using hd '.' h
  have hn := Decimal.readInt?_of_long (fun c hc => by rw [Decimal.isDigit_eq]; exact hd c hc) hlen
  have hexpr : (Parser.parseExpr 0 ⟨[⟨.int, s⟩], #[]⟩).out
      = (none, ⟨[⟨.int, s⟩], #[].push ("could not parse " ++ s ++ " as integer")⟩) := by
    rw [Parser.parseExpr_of_parsePrefix (by rfl)
      (Parser.parsePrefix_int_error (t := ⟨.int, s⟩) rfl hdot hn [] #[])]
    exact Parser.infixLoop_stop (continues_last _ _ _)
  have hstmt : (Parser.parseStatement ⟨[⟨.int, s⟩], #[]⟩).out
      = (some (.exprStmt ⟨.int, s⟩ none),
          ⟨[⟨.int, s⟩], #[].push ("could not parse " ++ s ++ " as integer")⟩) := by
    rw [Parser.parseStatement_exprStmt (by simp) (by simp), Parser.parseExprStmt_out,
      Parser.Step.val_eq hexpr, Parser.Step.state_eq hexpr, Parser.skipSemicolon_single]
    rfl
  simp only [Program.parse, hscan, Parsed.ofTokens,
    Parser.programLoop_single (List.cons_ne_nil _ _) hstmt #[]]
  rfl

/-- A numeral of 4301 digits, alone as a chain, is reported as an error. -/
theorem numeral_of_4301_digits_is_error :
  (Program.parse (String.ofList (List.replicate 4301 '1'))).errors ≠ []
  := by
  rw [parse_long_numeral]
  · exact List.cons_ne_nil _ _
  · intro c hc
    rw [String.toList_ofList, List.mem_replicate] at hc
    rw [hc.2]
    decide
  · rw [String.toList_ofList, List.length_replicate]
    decide

end Precedence

end Monkey
