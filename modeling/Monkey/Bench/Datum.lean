import Monkey.Number
import Monkey.Decimal.Fixed
import Monkey.Text.Sha256
import Monkey.Fault
import Monkey.Text.Printable

/-!
# Data reported by benchmarks

A benchmark reports a value of its host: nothing, a Boolean, an integer, a double, a string, a
list of such values, or an object known only by its type. A value has a type name,
as reports give it, and a *fingerprint*: the SHA-256 digest of a stream that writes a string as
`s` and its text, a list as `L`, its length and its items, an integer or Boolean as its text
(`True` and `False` for Booleans), a double as the shortest text of the double nearest to it
at six significant digits, and an object as its module and type name between angle brackets.
So doubles that agree to six digits have one fingerprint.
-/

namespace Monkey

/-- A value reported by a benchmark. -/
inductive Datum where
  | none
  | bool (b : Bool)
  | int (n : Int)
  | float (x : Float)
  | str (s : String)
  | list (items : List Datum)
  /-- an object known only by its type: the module that defines the type, and its name -/
  | object (module typeName : String)
  deriving Inhabited

namespace Datum

/-- The name of the type of a value. -/
def typeName : Datum → String
  | none => "NoneType"
  | bool _ => "bool"
  | int _ => "int"
  | float _ => "float"
  | str _ => "str"
  | list _ => "list"
  | object _ t => t

/-- The text of a number or Boolean: `True` or `False`, or the shortest text of the number. -/
def scalarText : Datum → String
  | bool b => if b then "True" else "False"
  | int n => toString n
  | float x => Number.render (.float x)
  | _ => ""

/-- A string between single quotes, or double quotes when it holds a single quote and no
double one; backslashes and the chosen quote are escaped, tab and line ends by their letters,
and the other characters that are not printable by their code points. -/
def quote (s : String) : String :=
  let apostrophe := Char.ofNat 39
  let q := if s.contains apostrophe && !s.contains '"' then '"' else apostrophe
  let esc (c : Char) : String :=
    if c == '\\' || c == q then "\\" ++ c.toString
    else if c == '\n' then "\\n"
    else if c == '\t' then "\\t"
    else if c == '\r' then "\\r"
    else if Text.isPrintable c then c.toString
    else Fault.charText c
  q.toString ++ String.join (s.toList.map esc) ++ q.toString

/-- The text of a value as its host writes it inside a list: a string quoted. -/
def repr : Datum → String
  | none => "None"
  | bool b => scalarText (bool b)
  | int n => scalarText (int n)
  | float x => scalarText (float x)
  | str s => quote s
  | list items => "[" ++ ", ".intercalate (items.map repr) ++ "]"
  | object m t => "<" ++ m ++ "." ++ t ++ " object>"

/-- The text of a value as its host writes it: a string as itself, the rest as `repr`. -/
def text : Datum → String
  | str s => s
  | d => repr d

/-- The stream whose digest is the fingerprint of a value: a double rounded to six significant
digits, a zero of either sign being the positive one. -/
def stream : Datum → String
  | none => "N"
  | bool b => scalarText (bool b)
  | int n => scalarText (int n)
  | float x => scalarText (float (if x == 0.0 then 0.0 else Decimal.roundSignificant x 6))
  | str s => "s" ++ s
  | list items => "L" ++ toString items.length ++ String.join (items.map stream)
  | object m t => "<" ++ m ++ "." ++ t ++ ">"

/-- The fingerprint of a value: the SHA-256 digest of its stream, in hexadecimal. -/
def fingerprint (d : Datum) : String := Sha256.hexDigest d.stream.toUTF8.toList

end Datum

end Monkey
