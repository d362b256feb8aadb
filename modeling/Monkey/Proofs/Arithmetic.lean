import Mathlib.Data.Rat.Floor
import Monkey.Proofs.Errors

/-!
# Exact arithmetic

A *pure* term is built from integer and Boolean literals with `-` and `!`, the integer
operators `+ - * %` and comparisons (`IntOp`), and `==`, `!=`, `&&` (or `and`) and `||` (or
`or`) on truth values (`BoolOp`); it is described with the value it stands for by
`Expr.Means`. That value is an unbounded integer or a truth value (`Pure`), computed exactly:
`%` is the remainder of the quotient rounded down, which takes the sign of the divisor
(`floorMod`), and a divisor must not be zero.

The interpreter computes exactly that (`Expr.Means.eval`): a pure term evaluates to the integer
it stands for, or to the canonical `true` or `false`, in any frame, and it leaves the machine
as it was. The proof follows the term. Its steps are that an operation evaluates its right
operand before its left one and then applies the operator (`Eval.expr_infixOp_run`), that the
interpreter's operators agree with the exact ones on integers (`Eval.numeric_int`) and on the
canonical truth values (`Eval.infixOp_bool`), and that an operation making an integer or a
truth value takes no identity (`Eval.lift_made`).
-/

namespace Monkey

/-! ### What a pure term stands for -/

/-- The value of a pure term: an unbounded integer or a truth value. -/
inductive Pure where
  | int (n : Int)
  | bool (b : Bool)
  deriving DecidableEq, Repr

/-- The quotient of integers rounded down. -/
def floorDiv (a b : Int) : Int := ⌊(a / b : ℚ)⌋

/-- The remainder of the quotient rounded down; it takes the sign of the divisor. -/
def floorMod (a b : Int) : Int := a - b * floorDiv a b

example : floorMod (-7) 3 = 2 ∧ floorMod 7 (-3) = -2 := by decide +kernel

/-- The infix operators on integers. -/
inductive IntOp where
  | add | sub | mul | mod | lt | gt | le | ge | eq | ne
  deriving DecidableEq, Repr

namespace IntOp

/-- How the operator is written. -/
def symbol : IntOp → String
  | add => "+" | sub => "-" | mul => "*" | mod => "%" | lt => "<" | gt => ">"
  | le => "<=" | ge => ">=" | eq => "==" | ne => "!="

/-- What the operator makes of two integers: a sum, difference, product or remainder, or the
truth of a comparison. A remainder by zero is nothing. -/
def apply : IntOp → Int → Int → Option Pure
  | add, a, b => some (.int (a + b))
  | sub, a, b => some (.int (a - b))
  | mul, a, b => some (.int (a * b))
  | mod, a, b => if b = 0 then none else some (.int (floorMod a b))
  | lt, a, b => some (.bool (decide (a < b)))
  | gt, a, b => some (.bool (decide (b < a)))
  | le, a, b => some (.bool (decide (a ≤ b)))
  | ge, a, b => some (.bool (decide (b ≤ a)))
  | eq, a, b => some (.bool (decide (a = b)))
  | ne, a, b => some (.bool (decide (a ≠ b)))

end IntOp

/-- The infix operators on truth values. -/
inductive BoolOp where
  | eq | ne | and | or
  deriving DecidableEq, Repr

namespace BoolOp

/-- The ways the operator is written: conjunction and disjunction have a word as well. -/
def spellings : BoolOp → List String
  | eq => ["=="] | ne => ["!="] | .and => ["&&", "and"] | .or => ["||", "or"]

/-- What the operator makes of two truth values. -/
def apply : BoolOp → Bool → Bool → Bool
  | eq, a, b => a == b
  | ne, a, b => a != b
  | .and, a, b => a && b
  | .or, a, b => a || b

end BoolOp

/-- A pure term and the value it stands for. -/
inductive Expr.Means : Expr → Pure → Prop
  /-- an integer literal -/
  | int (t : Token) (n : Int) : Expr.Means (.number t (.int n)) (.int n)
  /-- `true` or `false` -/
  | bool (t : Token) (b : Bool) : Expr.Means (.boolean t b) (.bool b)
  /-- the negation of an integer -/
  | neg {t : Token} {r : Expr} {n : Int} :
    r.Means (.int n) → Expr.Means (.prefixOp t "-" (some r)) (.int (-n))
  /-- the negation of a truth value -/
  | not {t : Token} {r : Expr} {b : Bool} :
    r.Means (.bool b) → Expr.Means (.prefixOp t "!" (some r)) (.bool (!b))
  /-- an operator on two integers -/
  | intInfix {t : Token} {l r : Expr} {a b : Int} {v : Pure} (o : IntOp) :
    l.Means (.int a) → r.Means (.int b) → o.apply a b = some v →
    Expr.Means (.infixOp t (some l) o.symbol (some r)) v
  /-- an operator on two truth values, under any of its spellings -/
  | boolInfix {t : Token} {l r : Expr} {op : String} {a b : Bool} (o : BoolOp) :
    op ∈ o.spellings → l.Means (.bool a) → r.Means (.bool b) →
    Expr.Means (.infixOp t (some l) op (some r)) (.bool (o.apply a b))

/-- How deeply prefix and infix operators nest in a term; a literal is at depth zero. -/
def Expr.opDepth : Expr → Nat
  | .prefixOp _ _ (some r) => r.opDepth + 1
  | .infixOp _ (some l) _ (some r) => max l.opDepth r.opDepth + 1
  | _ => 0

/-- The value that stands for a pure value: an integer, or the canonical `true` or `false`. -/
def Pure.toValue : Pure → Value
  | .int n => Value.ofInt n
  | .bool b => Value.ofBool b

/-! ### The remainder -/

/-- The quotient rounded down is the one the interpreter's integers compute. A divisor of
either sign is brought to a natural number, by which the floor of a rational quotient is
integer division. -/
theorem floorDiv_eq_fdiv (a b : Int) :
  floorDiv a b = a.fdiv b
  := by
  rcases le_total 0 b with hb | hb
  · lift b to Nat using hb
    rw [floorDiv, Int.fdiv_eq_ediv_of_nonneg a (Int.natCast_nonneg _)]
    exact Rat.floor_intCast_div_natCast a b
  · obtain ⟨n, hn⟩ := Int.eq_ofNat_of_zero_le (neg_nonneg.mpr hb)
    have h := Rat.floor_intCast_div_natCast (-a) n
    have hq : ((n : ℤ) : ℚ) = -(b : ℚ) := by exact_mod_cast hn.symm
    rw [← Int.fdiv_eq_ediv_of_nonneg (-a) (Int.natCast_nonneg _), ← hn, Int.cast_neg,
      ← Int.cast_natCast, hq, neg_div_neg_eq] at h
    simpa [floorDiv] using h

/-- The remainder of the quotient rounded down is the one the interpreter's integers compute. -/
theorem floorMod_eq_fmod (a b : Int) :
  floorMod a b = a.fmod b
  := by
  rw [floorMod, floorDiv_eq_fdiv, Int.fmod_def]

/-! ### The interpreter's operators on pure values -/

namespace Pure

/-- No pure value is an error. -/
theorem isError_toValue (v : Pure) :
  v.toValue.isError = false
  := by
  cases v with
  | int n => rfl
  | bool b => cases b <;> rfl

end Pure

/-- No operator on integers is written as the field dot. -/
theorem IntOp.symbol_ne_dot (o : IntOp) :
  o.symbol ≠ "."
  := by
  cases o <;> decide

/-- No operator on truth values is written as the field dot. -/
theorem BoolOp.dot_not_mem_spellings (o : BoolOp) :
  "." ∉ o.spellings
  := by
  cases o <;> decide

theorem Number.mod_int (a : Int) {b : Int} (hb : b ≠ 0) :
  (Number.int a).mod (.int b) = .ok (.int (a.fmod b))
  := by
  simp [Number.mod, hb]

namespace Eval

variable {fuel : Nat} {fr : Frame} {t : Token} {m m₁ m₂ : Machine}

/-- A prefix operation evaluates its operand and applies the operator to the value. -/
theorem expr_prefixOp_run {op : String} {r : Option Expr} {vr : Value}
    (hr : (expr fuel fr r).run m = .ok vr m₁) (hvr : vr.isError = false) :
  (expr (fuel + 1) fr (some (.prefixOp t op r))).run m =
    (Run.lift (prefixOp op vr) >>= made).run m₁
  := by
  rw [expr, guard_ok hr hvr]

/-- An infix operation other than the dot evaluates its right operand, then its left one, and
applies the operator to the two values. -/
theorem expr_infixOp_run {l r : Option Expr} {op : String} (hop : op ≠ ".") {vl vr : Value}
    (hr : (expr fuel fr r).run m = .ok vr m₁) (hvr : vr.isError = false)
    (hl : (expr fuel fr l).run m₁ = .ok vl m₂) (hvl : vl.isError = false) :
  (expr (fuel + 1) fr (some (.infixOp t l op r))).run m =
    (Run.lift (infixOp op vl vr) >>= made).run m₂
  := by
  rw [expr]
  simp only [beq_eq_false_iff_ne.2 hop, Bool.false_eq_true, if_false]
  rw [guard_ok hr hvr, guard_ok hl hvl]

/-- An operation whose result is a pure value gives it and leaves the machine as it was: an
integer or a truth value takes no identity. -/
theorem lift_made {x : Except Fault Value} {v : Pure} (hx : x = pure v.toValue) (m : Machine) :
  (Run.lift x >>= made).run m = .ok v.toValue m
  := by
  subst hx
  cases v with
  | int n => rfl
  | bool b => cases b <;> rfl

/-- `-` negates an integer. -/
theorem prefixOp_neg (n : Int) :
  prefixOp "-" (Pure.int n).toValue = pure (Pure.int (-n)).toValue
  := rfl

/-- `!` negates a canonical truth value. -/
theorem prefixOp_not (b : Bool) :
  prefixOp "!" (Pure.bool b).toValue = pure (Pure.bool (!b)).toValue
  := by
  cases b <;> rfl

/-- Two integers are combined by the arithmetic of numbers. -/
theorem infixOp_int (op : String) (a b : Int) :
  infixOp op (Pure.int a).toValue (Pure.int b).toValue = numeric op (.int a) (.int b)
  := by
  simp [infixOp, Pure.toValue, Value.ofInt, Value.typeName]

/-- On two integers, the arithmetic of numbers is the exact one; the comparisons read the
order off `compare`. -/
theorem numeric_int {o : IntOp} {a b : Int} {v : Pure} (h : o.apply a b = some v) :
  numeric o.symbol (.int a) (.int b) = pure v.toValue
  := by
  have hlt : (compare a b == .lt) = decide (a < b) := by
    rw [Bool.beq_eq_decide_eq]; exact decide_eq_decide.2 Int.compare_eq_lt
  have hgt : (compare a b == .gt) = decide (b < a) := by
    rw [Bool.beq_eq_decide_eq]; exact decide_eq_decide.2 Int.compare_eq_gt
  have heq : (compare a b == .eq) = decide (a = b) := by
    rw [Bool.beq_eq_decide_eq]; exact decide_eq_decide.2 Int.compare_eq_eq
  cases o with
  | add | sub | mul => cases h; rfl
  | mod =>
    by_cases hb : b = 0
    · simp [IntOp.apply, hb] at h
    rw [IntOp.apply, if_neg hb] at h
    cases h
    show arith ((Number.int a).mod (.int b)) = _
    rw [Number.mod_int a hb, floorMod_eq_fmod]
    rfl
  | lt =>
    cases h
    show pure (Value.ofBool (compare a b == .lt)) = _
    rw [hlt]; rfl
  | gt =>
    cases h
    show pure (Value.ofBool (compare a b == .gt)) = _
    rw [hgt]; rfl
  | le =>
    cases h
    show pure (Value.ofBool (!(compare a b == .gt))) = _
    simp only [hgt, ← decide_not, Int.not_lt]; rfl
  | ge =>
    cases h
    show pure (Value.ofBool (!(compare a b == .lt))) = _
    simp only [hlt, ← decide_not, Int.not_lt]; rfl
  | eq =>
    cases h
    show pure (Value.ofBool (compare a b == .eq)) = _
    rw [heq]; rfl
  | ne =>
    cases h
    show pure (Value.ofBool (!(compare a b == .eq))) = _
    rw [heq, ← decide_not]; rfl

/-- On the canonical truth values, `==` and `!=` (which ask for the same object) and `&&` and
`||` (which combine the values' truth) are the exact operations. -/
theorem infixOp_bool {o : BoolOp} {op : String} (hop : op ∈ o.spellings) (a b : Bool) :
  infixOp op (Pure.bool a).toValue (Pure.bool b).toValue =
    pure (Pure.bool (o.apply a b)).toValue
  := by
  cases o <;> simp only [BoolOp.spellings, List.mem_cons, List.not_mem_nil, or_false] at hop <;>
    rcases hop with rfl | rfl <;> cases a <;> cases b <;> rfl

end Eval

/-! ### Pure terms evaluate exactly -/

/-- A pure term evaluates to the integer it stands for, or to the canonical `true` or `false`,
in every frame and from every machine, which it leaves as it was. Evaluation descends one
level per operator, so it needs more fuel than the depth of the operators. -/
theorem Expr.Means.eval {t : Expr} {v : Pure} (h : t.Means v) {fuel : Nat}
    (hfuel : t.opDepth < fuel) (fr : Frame) (m : Machine) :
  (Eval.expr fuel fr (some t)).run m = .ok v.toValue m
  := by
  obtain ⟨k, rfl⟩ := Nat.exists_eq_add_one_of_ne_zero (by omega : fuel ≠ 0)
  induction h generalizing k with
  | int t n => rfl
  | bool t b => rfl
  | neg hr ih =>
    simp only [Expr.opDepth, Nat.add_lt_add_iff_right] at hfuel
    obtain ⟨j, rfl⟩ := Nat.exists_eq_add_one_of_ne_zero (by omega : k ≠ 0)
    rw [Eval.expr_prefixOp_run (ih j hfuel) (Pure.isError_toValue _)]
    exact Eval.lift_made (Eval.prefixOp_neg _) m
  | «not» hr ih =>
    simp only [Expr.opDepth, Nat.add_lt_add_iff_right] at hfuel
    obtain ⟨j, rfl⟩ := Nat.exists_eq_add_one_of_ne_zero (by omega : k ≠ 0)
    rw [Eval.expr_prefixOp_run (ih j hfuel) (Pure.isError_toValue _)]
    exact Eval.lift_made (Eval.prefixOp_not _) m
  | intInfix o hl hr ho ihl ihr =>
    simp only [Expr.opDepth, Nat.add_lt_add_iff_right, Nat.max_lt] at hfuel
    obtain ⟨j, rfl⟩ := Nat.exists_eq_add_one_of_ne_zero (by omega : k ≠ 0)
    rw [Eval.expr_infixOp_run o.symbol_ne_dot (ihr j hfuel.2) (Pure.isError_toValue _)
      (ihl j hfuel.1) (Pure.isError_toValue _)]
    exact Eval.lift_made ((Eval.infixOp_int _ _ _).trans (Eval.numeric_int ho)) m
  | boolInfix o hop hl hr ihl ihr =>
    simp only [Expr.opDepth, Nat.add_lt_add_iff_right, Nat.max_lt] at hfuel
    obtain ⟨j, rfl⟩ := Nat.exists_eq_add_one_of_ne_zero (by omega : k ≠ 0)
    have hdot : _ ≠ "." := fun h => o.dot_not_mem_spellings (h ▸ hop)
    rw [Eval.expr_infixOp_run hdot (ihr j hfuel.2) (Pure.isError_toValue _)
      (ihl j hfuel.1) (Pure.isError_toValue _)]
    exact Eval.lift_made (Eval.infixOp_bool hop _ _) m

/-- `-7 % 3 == 2 && !(2 < 1)` is a pure term standing for `true`, since the remainder takes
the sign of the divisor; it evaluates to the canonical `true`. -/
theorem remainder_comparison_true :
  let tok : Token := ⟨.int, "7"⟩
  let num (n : Int) : Expr := .number tok (.int n)
  let rem : Expr := .infixOp tok (some (.prefixOp tok "-" (some (num 7)))) "%" (some (num 3))
  let t : Expr := .infixOp tok (some (.infixOp tok (some rem) "==" (some (num 2)))) "&&"
    (some (.prefixOp tok "!" (some (.infixOp tok (some (num 2)) "<" (some (num 1))))))
  t.Means (.bool true) ∧ (Eval.expr 5 ⟨[0], false⟩ (some t)).run {} = .ok Value.trueVal {}
  := by
  intro tok num rem t
  have hrem : rem.Means (.int 2) :=
    .intInfix .mod (.neg (.int tok 7)) (.int tok 3) (by simp [IntOp.apply, floorMod_eq_fmod])
  have heq : (Expr.infixOp tok (some rem) "==" (some (num 2))).Means (.bool true) :=
    .intInfix .eq hrem (.int tok 2) rfl
  have hlt : (Expr.infixOp tok (some (num 2)) "<" (some (num 1))).Means (.bool false) :=
    .intInfix .lt (.int tok 2) (.int tok 1) rfl
  have ht : t.Means (.bool true) := .boolInfix .and (by simp [BoolOp.spellings]) heq (.not hlt)
  exact ⟨ht, ht.eval (by decide) _ _⟩

end Monkey
