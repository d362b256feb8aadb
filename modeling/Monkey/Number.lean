import Monkey.Binary64
import Monkey.Decimal.Shortest
import Monkey.Decimal.Read

/-!
# Numbers

The numbers of the language: unbounded integers and doubles, with the arithmetic that mixes
them. Integer operations are exact; an operation with a double converts the integer to the
nearest double first, which fails beyond the largest double. Division always gives a double,
rounded from the exact quotient. The remainder takes the sign of the divisor. Comparisons
between an integer and a double are exact, and any comparison with a NaN is false.

Doubles are written with the fewest digits that read back, positionally when the leading
digit's exponent is from -4 to 15, and otherwise as a mantissa and a signed exponent of at
least two digits (`Number.style`).
-/

namespace Monkey

/-- A number: an unbounded integer or a double. -/
inductive Number where
  | int (n : Int)
  | float (x : Float)
  deriving Inhabited

/-- Why an arithmetic operation has no result. -/
inductive ArithError where
  /-- an integer divided by zero -/
  | intDivisionByZero
  /-- a division with a double, by zero -/
  | floatDivisionByZero
  /-- an integer remainder by zero -/
  | intModuloByZero
  /-- a remainder with a double, by zero -/
  | floatModuloByZero
  /-- a quotient of integers beyond the largest double -/
  | quotientTooLarge
  /-- an integer beyond the largest double, where a double is needed -/
  | intTooLarge
  deriving DecidableEq, Repr

namespace ArithError

/-- Whether the error is an overflow rather than a division by zero. -/
def isOverflow : ArithError → Bool
  | quotientTooLarge | intTooLarge => true
  | _ => false

/-- The text of an error. -/
def message : ArithError → String
  | intDivisionByZero => "division by zero"
  | floatDivisionByZero => "float division by zero"
  | intModuloByZero => "integer modulo by zero"
  | floatModuloByZero => "float modulo"
  | quotientTooLarge => "integer division result too large for a float"
  | intTooLarge => "int too large to convert to float"

end ArithError

/-- How doubles are written. -/
structure FloatStyle where
  /-- the least exponent of the leading digit that is written positionally -/
  plainFrom : Int
  /-- the exponents of the leading digit from here on are written with an exponent -/
  plainBelow : Int
  /-- the least number of digits of an exponent -/
  expWidth : Nat
  /-- the text of a NaN -/
  nan : String
  /-- the text of the positive infinity -/
  inf : String

namespace FloatStyle

/-- Lays out the digits `ds` (no trailing zeros) of a decimal whose leading digit has exponent
`lead`. -/
def layout (f : FloatStyle) (ds : String) (lead : Int) : String :=
  let n : Int := ds.length
  if f.plainFrom ≤ lead && lead < f.plainBelow then
    if lead + 1 ≥ n then
      ds ++ String.ofList (List.replicate (lead + 1 - n).toNat '0') ++ ".0"
    else if lead ≥ 0 then
      String.ofList (ds.toList.take (lead + 1).toNat) ++ "." ++
        String.ofList (ds.toList.drop (lead + 1).toNat)
    else
      "0." ++ String.ofList (List.replicate (-lead - 1).toNat '0') ++ ds
  else
    let mant := match ds.toList with
      | c :: rest@(_ :: _) => String.ofList (c :: '.' :: rest)
      | cs => String.ofList cs
    let e := toString lead.natAbs
    let e := String.ofList (List.replicate (f.expWidth - e.length) '0') ++ e
    mant ++ "e" ++ (if lead < 0 then "-" else "+") ++ e

/-- The text of a double. -/
def render (f : FloatStyle) (x : Float) : String :=
  match Binary64.shape x with
  | .nan => f.nan
  | .inf neg => if neg then "-" ++ f.inf else f.inf
  | .finite neg p =>
    let sign := if neg then "-" else ""
    if p.m == 0 then sign ++ "0.0"
    else
      let d := p.shortest
      let ds := toString d.digits
      sign ++ f.layout ds (d.exp + ds.length - 1)

end FloatStyle

namespace Number

/-- Doubles are written positionally for leading exponents from -4 to 15, with exponents of
at least two digits otherwise. -/
def style : FloatStyle where
  plainFrom := -4
  plainBelow := 16
  expWidth := 2
  nan := "nan"
  inf := "inf"

/-- The text of a number. -/
def render : Number → String
  | int n => toString n
  | float x => style.render x

/-- The number as a double; an integer beyond the largest double has none. -/
def toFloat : Number → Except ArithError Float
  | int n => match Binary64.ofInt? n with
    | some x => .ok x
    | none => .error .intTooLarge
  | float x => .ok x

/-- Applies an operation of doubles after converting both operands, the left one first. -/
def viaFloat (op : Float → Float → Float) (a b : Number) : Except ArithError Number := do
  let x ← a.toFloat
  let y ← b.toFloat
  return float (op x y)

/-- The sum. -/
def add : Number → Number → Except ArithError Number
  | int a, int b => .ok (int (a + b))
  | a, b => viaFloat (· + ·) a b

/-- The difference. -/
def sub : Number → Number → Except ArithError Number
  | int a, int b => .ok (int (a - b))
  | a, b => viaFloat (· - ·) a b

/-- The product. -/
def mul : Number → Number → Except ArithError Number
  | int a, int b => .ok (int (a * b))
  | a, b => viaFloat (· * ·) a b

/-- The quotient, always a double. Two integers give the double nearest to their exact
quotient, with the sign of the quotient even when it is zero. -/
def div : Number → Number → Except ArithError Number
  | int a, int b =>
    if b == 0 then .error .intDivisionByZero
    else match Binary64.ofRatio? ((a < 0) != (b < 0)) a.natAbs b.natAbs with
      | some x => .ok (float x)
      | none => .error .quotientTooLarge
  | a, b => do
    let x ← a.toFloat
    let y ← b.toFloat
    if y == 0.0 then throw .floatDivisionByZero
    return float (x / y)

/-- The remainder of doubles with the sign of the divisor (a zero takes the divisor's sign). -/
def floatMod (x y : Float) : Float :=
  let r := Binary64.fmod x y
  if r == 0.0 then (if y < 0.0 then -0.0 else 0.0)
  else if (y < 0.0) != (r < 0.0) then r + y
  else r

/-- The remainder, with the sign of the divisor. -/
def mod : Number → Number → Except ArithError Number
  | int a, int b =>
    if b == 0 then .error .intModuloByZero else .ok (int (Int.fmod a b))
  | a, b => do
    let x ← a.toFloat
    let y ← b.toFloat
    if y == 0.0 then throw .floatModuloByZero
    return float (floatMod x y)

/-- The negation. -/
def neg : Number → Number
  | int a => int (-a)
  | float x => float (-x)

/-- Compares an integer with a finite double exactly. -/
def compareIntParts (n : Int) (neg : Bool) (p : Binary64.Parts) : Ordering :=
  let (num, den) := p.ratio
  let v : Int := if neg then -(num : Int) else num
  compare (n * den) v

/-- The order of two numbers, or `none` when a NaN is involved. -/
def compare? : Number → Number → Option Ordering
  | int a, int b => some (compare a b)
  | float x, float y =>
    if x < y then some .lt else if y < x then some .gt else if x == y then some .eq else none
  | int a, float y => match Binary64.shape y with
    | .nan => none
    | .inf neg => some (if neg then .gt else .lt)
    | .finite neg p => some (compareIntParts a neg p)
  | float x, int b => match Binary64.shape x with
    | .nan => none
    | .inf neg => some (if neg then .lt else .gt)
    | .finite neg p => some (compareIntParts b neg p).swap

/-- Whether a number is a double that is not a number. -/
def isNaN : Number → Bool
  | int _ => false
  | float x => match Binary64.shape x with
    | .nan => true
    | _ => false

/-- Whether two numbers are equal; a NaN equals nothing. -/
def eq (a b : Number) : Bool := a.compare? b == some .eq

/-- Whether a number is nonzero (a NaN is). -/
def isNonzero : Number → Bool
  | int a => a != 0
  | float x => !(x == 0.0)

end Number

end Monkey
