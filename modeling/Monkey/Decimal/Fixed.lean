import Monkey.Binary64
import Monkey.Decimal.Shortest
import Monkey.Decimal.Read

/-!
# Fixed-point text of doubles

A double written with a fixed number of places after the point: its exact value scaled by a
power of ten and rounded to the nearest integer, a tie going to the even neighbour. The sign of
a negative value is kept even when the digits are all zero, and the values that are not finite
are written `nan`, `inf` and `-inf`.

A double can also be rounded to a number of places or of significant digits: its exact value
is scaled by the power of ten that leaves that many digits before the point, rounded the same
way, and the decimal so found is read back as the nearest double. Zeros and the values that
are not finite stay as they are.
-/

namespace Monkey

namespace Decimal

/-- The nearest integer to `num / den`, a tie going to the even one; `den` must be positive. -/
def roundHalfEven (num den : Nat) : Nat :=
  let q := num / den
  let r := num % den
  if 2 * r > den || (2 * r == den && q % 2 == 1) then q + 1 else q

/-- The digits of `n` with a point before the last `places`, at least one digit before it. -/
def pointed (n places : Nat) : String :=
  let ds := (Nat.toDigits 10 n)
  let ds := List.replicate (places + 1 - ds.length) '0' ++ ds
  if places == 0 then String.ofList ds
  else
    String.ofList (ds.take (ds.length - places)) ++ "." ++
      String.ofList (ds.drop (ds.length - places))

/-- The text of a double with `places` digits after the point. -/
def fixed (x : Float) (places : Nat) : String :=
  match Binary64.shape x with
  | .nan => "nan"
  | .inf neg => if neg then "-inf" else "inf"
  | .finite neg p =>
    let (num, den) := p.ratio
    let n := roundHalfEven (num * Nat.pow 10 places) den
    (if neg then "-" else "") ++ pointed n places

/-- The double nearest to `x` rounded to `places` decimal places, a tie going to the even
neighbour. -/
def roundPlaces (x : Float) (places : Nat) : Float :=
  match Binary64.shape x with
  | .finite neg p =>
    let (num, den) := p.ratio
    nearestFloat neg (roundHalfEven (num * Nat.pow 10 places) den) (-(places : Int))
  | _ => x

/-- The double nearest to `x` rounded to `digits` significant decimal digits, at least one, a
tie going to the even neighbour. A carry into a further digit, as `9.5` to one digit, gives the
next power of ten, which is still the nearest decimal of that many digits. -/
def roundSignificant (x : Float) (digits : Nat) : Float :=
  match Binary64.shape x with
  | .finite neg p =>
    if p.m == 0 then x
    else
      let k := p.leadExp + 1 - (max digits 1 : Nat)
      let (num, den) := p.ratio
      let n := roundHalfEven (num * Nat.pow 10 (-k).toNat) (den * Nat.pow 10 k.toNat)
      nearestFloat neg n k
  | _ => x

end Decimal

end Monkey
