import Monkey.Binary64

/-!
# Shortest decimals

The decimal with the fewest significant digits that reads back to a given finite positive
double. A double `m * 2 ^ q` stands for the reals that round to it: the interval from half
way to its lower neighbour to half way to its upper neighbour, both ends included when `m` is
even. For one digit, then two, and on up to seventeen, the search looks at the two
neighbours of the value on the grid of decimals of that many digits; the first grid with a
neighbour inside the interval gives the answer, the nearer of two neighbours inside wins, and
an exact tie goes to the even one.

Main statement: `Parts.readsBack` is the interval test, and the search returns only decimals
that pass it.
-/

namespace Monkey

namespace Decimal

/-- The decimal `digits * 10 ^ exp`. -/
structure Dec where
  digits : Nat
  exp : Int
  deriving Repr, DecidableEq

/-- Compares `a * 10 ^ i` with `n * 2 ^ j` exactly. -/
def cmpScaled (a : Nat) (i : Int) (n : Nat) (j : Int) : Ordering :=
  compare (a * Nat.pow 10 i.toNat * Nat.pow 2 (-j).toNat)
    (n * Nat.pow 2 j.toNat * Nat.pow 10 (-i).toNat)

/-- Removes trailing zero digits, raising the exponent; the value is unchanged. -/
def Dec.trim (d : Dec) : Dec :=
  if h : d.digits ≠ 0 ∧ d.digits % 10 = 0 then Dec.trim ⟨d.digits / 10, d.exp + 1⟩ else d
termination_by d.digits
decreasing_by exact Nat.div_lt_self (Nat.pos_of_ne_zero h.1) (by decide)

end Decimal

namespace Binary64

open Decimal

/-- Below a power of two whose exponent is not the least, the lower neighbour is half as far
away as the upper one. -/
def Parts.narrowBelow (p : Parts) : Bool := p.m == Nat.pow 2 52 && p.q > -1074

/-- The interval test: `a * 10 ^ i` lies among the reals that round to `p`. The ends of the
interval are `4m - 2` (or `4m - 1` below a power of two) and `4m + 2`, in units of
`2 ^ (q - 2)`, and they belong to it when `m` is even. -/
def Parts.readsBack (p : Parts) (a : Nat) (i : Int) : Bool :=
  let lo := if p.narrowBelow then 4 * p.m - 1 else 4 * p.m - 2
  let hi := 4 * p.m + 2
  let incl := p.m % 2 == 0
  let cl := cmpScaled a i lo (p.q - 2)
  let ch := cmpScaled a i hi (p.q - 2)
  (cl == .gt || (incl && cl == .eq)) && (ch == .lt || (incl && ch == .eq))

/-- Moves the estimate `k` of the leading exponent of `m * 2 ^ q` to the `k` with
`10 ^ k ≤ m * 2 ^ q < 10 ^ (k + 1)`, in at most `fuel` steps of one. -/
def Parts.fixLead (p : Parts) : Nat → Int → Int
  | 0, k => k
  | fuel + 1, k =>
    if cmpScaled 1 k p.m p.q == .gt then p.fixLead fuel (k - 1)
    else if cmpScaled 1 (k + 1) p.m p.q != .gt then p.fixLead fuel (k + 1)
    else k

/-- The exponent of the leading decimal digit of `m * 2 ^ q`, for `m > 0`. The estimate from
the binary length is off by at most one. -/
def Parts.leadExp (p : Parts) : Int :=
  p.fixLead 8 ((((Nat.log2 p.m : Int) + p.q) * 30103) / 100000)

/-- The value divided by `10 ^ k`, rounded down, and whether the division was exact. -/
def Parts.floorDiv10 (p : Parts) (k : Int) : Nat × Bool :=
  let num := p.m * Nat.pow 2 p.q.toNat * Nat.pow 10 (-k).toNat
  let den := Nat.pow 2 (-p.q).toNat * Nat.pow 10 k.toNat
  (num / den, num % den == 0)

/-- The neighbour of the value on the grid `10 ^ k` that reads back, the nearer of two, or
`none` when neither does. -/
def Parts.onGrid? (p : Parts) (k : Int) : Option Dec :=
  let (d, exact) := p.floorDiv10 k
  if exact = true then some ⟨d, k⟩ else
  let below := p.readsBack d k
  let above := p.readsBack (d + 1) k
  if below && above then
    match cmpScaled (2 * d + 1) k p.m (p.q + 1) with
    | .lt => some ⟨d + 1, k⟩
    | .gt => some ⟨d, k⟩
    | .eq => if d % 2 == 0 then some ⟨d, k⟩ else some ⟨d + 1, k⟩
  else if below then some ⟨d, k⟩
  else if above then some ⟨d + 1, k⟩
  else none

/-- The shortest decimal that reads back to the positive value `p`, without trailing zeros.
Seventeen digits always suffice; the exact value stands in for the impossible failure. -/
def Parts.shortest (p : Parts) : Dec :=
  let e := p.leadExp
  let found := (List.range 17).findSome? fun (i : Nat) => p.onGrid? (e - (i : Int))
  match found with
  | some d => d.trim
  | none =>
    (⟨p.m * Nat.pow 2 p.q.toNat * Nat.pow 5 (-p.q).toNat, if p.q < 0 then p.q else 0⟩ : Dec).trim

end Binary64

end Monkey
