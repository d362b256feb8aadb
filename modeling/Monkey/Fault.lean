import Monkey.Number

/-!
# Faults

The ways a run of the interpreter can stop abruptly, apart from the language's own error
values: an operation applied to something that lacks what it needs (a missing value, a value
of the wrong kind), arithmetic without a result, text that cannot be encoded or decoded, input
that has run out, an integer too long to write, and an exhausted step budget. Each fault has a
kind and a message, in the words of the host system that first ran the language.
-/

namespace Monkey

/-- Why a run stopped abruptly. -/
inductive Fault where
  /-- an object of the kind `owner` was asked for an attribute `attr` it does not have -/
  | noAttribute (owner attr : String)
  /-- a missing list was walked through -/
  | notIterable
  /-- the length of a missing list was asked for -/
  | noLength
  /-- a double was used as a position in an array -/
  | floatPosition
  /-- an arithmetic operation had no result -/
  | arith (e : ArithError)
  /-- text with a non-ASCII character was encoded as ASCII; the characters from `start` to
  `stop` (exclusive) are the run that could not be encoded, the first of them being `c` -/
  | unencodable (c : Char) (start stop : Nat)
  /-- a byte above 127 at `pos` was read as ASCII -/
  | undecodable (byte pos : Nat)
  /-- input was read after its end -/
  | inputExhausted
  /-- an integer with more decimal digits than may be written -/
  | digitLimit
  /-- the step budget ran out -/
  | outOfSteps
  /-- an item of a sequence joined into text, at `index`, was not text but a `kind` -/
  | notText (index : Nat) (kind : String)
  deriving Repr, Inhabited

namespace Fault

/-- The fault for a missing value asked for an attribute. -/
def absent (attr : String) : Fault := noAttribute "NoneType" attr

/-- The kind of a fault. -/
def kind : Fault → String
  | noAttribute .. => "AttributeError"
  | notIterable | noLength | floatPosition | notText .. => "TypeError"
  | arith e => if e.isOverflow then "OverflowError" else "ZeroDivisionError"
  | unencodable .. => "UnicodeEncodeError"
  | undecodable .. => "UnicodeDecodeError"
  | inputExhausted => "EOFError"
  | digitLimit => "ValueError"
  | outOfSteps => "RecursionError"

/-- Two hexadecimal digits of a number below 256. -/
def hex2 (n : Nat) : String :=
  let d := fun (k : Nat) => if k < 10 then Char.ofNat (48 + k) else Char.ofNat (87 + k)
  String.ofList [d (n / 16 % 16), d (n % 16)]

/-- A character as the host system writes it in a message: printable ASCII as itself, others
as an escape with two, four or eight hexadecimal digits. -/
def charText (c : Char) : String :=
  let n := c.toNat
  if n < 256 then "\\x" ++ hex2 n
  else if n < 65536 then "\\u" ++ hex2 (n / 256) ++ hex2 (n % 256)
  else "\\U" ++ hex2 (n / 16777216) ++ hex2 (n / 65536 % 256) ++ hex2 (n / 256 % 256) ++
    hex2 (n % 256)

/-- The message of a fault. -/
def message : Fault → String
  | noAttribute owner attr => "'" ++ owner ++ "' object has no attribute '" ++ attr ++ "'"
  | notIterable => "'NoneType' object is not iterable"
  | noLength => "object of type 'NoneType' has no len()"
  | floatPosition => "list indices must be integers or slices, not float"
  | arith e => e.message
  | unencodable c start stop =>
    if stop == start + 1 then
      "'ascii' codec can't encode character '" ++ charText c ++ "' in position " ++
        toString start ++ ": ordinal not in range(128)"
    else
      "'ascii' codec can't encode characters in position " ++ toString start ++ "-" ++
        toString (stop - 1) ++ ": ordinal not in range(128)"
  | undecodable byte pos =>
    "'ascii' codec can't decode byte 0x" ++ hex2 byte ++ " in position " ++ toString pos ++
      ": ordinal not in range(128)"
  | inputExhausted => "EOF when reading a line"
  | digitLimit =>
    "Exceeds the limit (4300 digits) for integer string conversion; " ++
      "use sys.set_int_max_str_digits() to increase the limit"
  | outOfSteps => "maximum recursion depth exceeded"
  | notText index kind =>
    "sequence item " ++ toString index ++ ": expected str instance, " ++ kind ++ " found"

end Fault

end Monkey
