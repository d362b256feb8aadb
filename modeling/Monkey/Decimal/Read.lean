import Monkey.Binary64
import Monkey.Text.Blank
import Monkey.Text.DecimalDigit

/-!
# Reading numbers from text

The grammar of number texts. Before reading, a decimal digit of any script counts as its ASCII
digit and a non-ASCII blank as a space; any other non-ASCII character makes the text
unreadable. Blanks at both ends are dropped. An underscore may stand only between two digits,
and it is then ignored.

- An integer is an optional sign and at least one digit, with at most 4300 digits.
- A float is an optional sign and then `inf`, `infinity` or `nan` in any case, or digits with
  an optional point (at least one digit before or after it) and an optional exponent: `e` or
  `E`, an optional sign and at least one digit. Its value is the double nearest to the
  decimal, ties to even; beyond the largest double it is an infinity.
-/

namespace Monkey

namespace Decimal

/-- The most digits an integer text may have. -/
def intDigitLimit : Nat := 4300

/-- The ASCII blanks that may stand around a number: space, tab, line feed, vertical tab,
form feed and carriage return. -/
def isAsciiBlank (c : Char) : Bool :=
  c == ' ' || c == '\t' || c == '\n' || c == '\x0b' || c == '\x0c' || c == '\r'

/-- The ASCII form of a number text, or `none` when it holds a non-ASCII character that is
neither a blank nor a decimal digit. -/
def asciiForm (s : String) : Option (List Char) :=
  s.toList.mapM fun c =>
    if c.toNat < 128 then some c
    else if Text.isBlank c then some ' '
    else (Text.digitValue? c).map fun d => Char.ofNat (48 + d)

/-- The ASCII decimal digits. -/
def isDigit (c : Char) : Bool := '0' ≤ c && c ≤ '9'

/-- Whether every underscore stands between two digits. -/
def underscoresBetweenDigits : List Char → Bool
  | a :: '_' :: b :: rest => isDigit a && isDigit b && underscoresBetweenDigits (b :: rest)
  | [_, '_'] => false
  | '_' :: _ => false
  | _ :: rest => underscoresBetweenDigits rest
  | [] => true

/-- The text without blanks at its ends and without its underscores, or `none` when an
underscore is misplaced or a character cannot be read. -/
def prepare (s : String) : Option (List Char) := do
  let cs ← asciiForm s
  let cs := (cs.dropWhile isAsciiBlank).reverse.dropWhile isAsciiBlank |>.reverse
  if underscoresBetweenDigits ('x' :: cs) then some (cs.filter (· != '_')) else none

/-- The value of a run of ASCII digits. -/
def digitsValue (ds : List Char) : Nat :=
  ds.foldl (fun n c => 10 * n + (c.toNat - 48)) 0

/-- A sign at the front: whether it is a minus, and the rest. -/
def splitSign : List Char → Bool × List Char
  | '-' :: r => (true, r)
  | '+' :: r => (false, r)
  | r => (false, r)

/-- The integer a text stands for, or `none`. -/
def readInt? (s : String) : Option Int := do
  let cs ← prepare s
  let (neg, ds) := splitSign cs
  if ds.isEmpty || !ds.all isDigit || ds.length > intDigitLimit then none
  else
    let n := digitsValue ds
    some (if neg then -(n : Int) else n)

/-- The double nearest to `±digits * 10 ^ exp`; an infinity beyond the largest double. -/
def nearestFloat (neg : Bool) (digits : Nat) (exp : Int) : Float :=
  let inf : Float := if neg then -(1.0 / 0.0) else 1.0 / 0.0
  let zero : Float := if neg then -0.0 else 0.0
  let size : Int := (Nat.toDigits 10 digits).length
  if digits == 0 then zero
  else if size + exp > 400 then inf
  else if size + exp < -400 then zero
  else
    (Binary64.ofRatio? neg (digits * Nat.pow 10 exp.toNat) (Nat.pow 10 (-exp).toNat)).getD inf

/-- The exponent part after `e`: an optional sign and at least one digit. -/
def readExponent? (cs : List Char) : Option Int :=
  let (neg, ds) := splitSign cs
  if ds.isEmpty || !ds.all isDigit then none
  else
    let n := digitsValue ds
    some (if neg then -(n : Int) else n)

/-- The double a text stands for, or `none`. -/
def readFloat? (s : String) : Option Float := do
  let cs ← prepare s
  let (neg, body) := splitSign cs
  let word := String.ofList (body.map Char.toLower)
  if word == "inf" || word == "infinity" then
    return (if neg then -(1.0 / 0.0) else 1.0 / 0.0)
  if word == "nan" then return 0.0 / 0.0
  let whole := body.takeWhile isDigit
  let afterWhole := body.dropWhile isDigit
  let (frac, afterFrac) := match afterWhole with
    | '.' :: r => (r.takeWhile isDigit, r.dropWhile isDigit)
    | r => ([], r)
  if whole.isEmpty && frac.isEmpty then none
  else
    let exp ← match afterFrac with
      | [] => some 0
      | c :: r => if c == 'e' || c == 'E' then readExponent? r else none
    some (nearestFloat neg (digitsValue (whole ++ frac)) (exp - frac.length))

end Decimal

end Monkey
