/-!
# Binary64 values as exact numbers

A double is read as its class (not a number, an infinity, or a finite value m · 2^q with a
sign) from its bits, and a positive rational is rounded to the nearest double, ties to even,
by exact arithmetic on naturals. Rounding reports an overflow when the rounded value reaches
2^1024, so that callers decide between an infinity and an error. The remainder of two doubles
is computed exactly, since it is always representable.
-/

namespace Monkey

namespace Binary64

/-- A finite non-negative value `m * 2 ^ q`. -/
structure Parts where
  m : Nat
  q : Int
  deriving Repr, DecidableEq

/-- What a double stands for. -/
inductive Shape where
  | nan
  | inf (neg : Bool)
  | finite (neg : Bool) (p : Parts)
  deriving Repr, DecidableEq

/-- The shape of a double, read from its bits. -/
def shape (x : Float) : Shape :=
  let b := x.toBits.toNat
  let neg := b >>> 63 == 1
  let e := (b >>> 52) % 2048
  let f := b % Nat.pow 2 52
  if e == 2047 then
    if f == 0 then .inf neg else .nan
  else if e == 0 then .finite neg ⟨f, -1074⟩
  else .finite neg ⟨Nat.pow 2 52 + f, (e : Int) - 1075⟩

/-- The quotient `num / (den * 2 ^ e)` and its remainder, for an exponent of either sign. -/
def scaledDiv (num den : Nat) (e : Int) : Nat × Nat × Nat :=
  let n := num * Nat.pow 2 (-e).toNat
  let d := den * Nat.pow 2 e.toNat
  (n / d, n % d, d)

/-- The bits of the non-negative double nearest to `num / den` (ties to even), or `none` when
the rounded value is `2 ^ 1024` or more. The denominator must be positive. -/
def roundBits? (num den : Nat) : Option Nat :=
  if num == 0 then some 0 else
  let e0 : Int := (Nat.log2 num : Int) - Nat.log2 den - 53
  let e1 := if (scaledDiv num den e0).1 ≥ Nat.pow 2 53 then e0 + 1 else e0
  let e := max e1 (-1074)
  let (q, r, d) := scaledDiv num den e
  let up := 2 * r > d || (2 * r == d && q % 2 == 1)
  let q' := if up then q + 1 else q
  let (m, e') := if q' == Nat.pow 2 53 then (Nat.pow 2 52, e + 1) else (q', e)
  if e' > 971 then none
  else if m < Nat.pow 2 52 then some m
  else some ((e' + 1075).toNat * Nat.pow 2 52 + (m - Nat.pow 2 52))

/-- The double with the given sign nearest to `num / den`, or `none` on overflow. -/
def ofRatio? (neg : Bool) (num den : Nat) : Option Float :=
  (roundBits? num den).map fun b =>
    Float.ofBits (UInt64.ofNat (if neg then b + Nat.pow 2 63 else b))

/-- The double nearest to an integer, or `none` when its magnitude rounds to `2 ^ 1024`. -/
def ofInt? (n : Int) : Option Float := ofRatio? (n < 0) n.natAbs 1

/-- The exact value of a finite double as a numerator over a power of two. -/
def Parts.ratio (p : Parts) : Nat × Nat := (p.m * Nat.pow 2 p.q.toNat, Nat.pow 2 (-p.q).toNat)

/-- The remainder of `x` by `y` truncated toward zero: `x - n * y` for the integer `n` nearest
to `x / y` toward zero. It has the sign of `x`, and it is exact. -/
def fmod (x y : Float) : Float :=
  match shape x, shape y with
  | .finite nx px, .finite _ py =>
    if py.m == 0 then 0.0 / 0.0 else
    let q := min px.q py.q
    let a := px.m * Nat.pow 2 (px.q - q).toNat
    let b := py.m * Nat.pow 2 (py.q - q).toNat
    ((ofRatio? nx ((a % b) * Nat.pow 2 q.toNat) (Nat.pow 2 (-q).toNat)).getD (0.0 / 0.0))
  | .finite _ _, .inf _ => x
  | _, _ => 0.0 / 0.0

end Binary64

end Monkey
