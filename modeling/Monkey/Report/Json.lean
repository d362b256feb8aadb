import Monkey.Bench.Datum

/-!
# JSON documents

The documents that the measurement tools exchange: null, Booleans, integers, doubles, strings,
arrays, and objects whose members keep the order in which their keys first appeared. Integers
and doubles stay apart, as their text shows them (`40` against `40.0`).

Reading a member gives `none` when the document is not an object or lacks the key. Truth is
that of the tools: null, `false`, zero, the empty string, the empty array and the empty object
are false, all else true.

A document is written back as JSON text with the doubles that are not finite as `NaN`,
`Infinity` and `-Infinity`, which the tools read back.

An operation of the tools that fails names the kind of the failure and a message (`Raised`).
-/

namespace Monkey

namespace Report

/-- Why an operation of the tools fails: the kind of the failure and its message. -/
structure Raised where
  kind : String
  message : String

/-- The failure of reading an integer text with more digits than the tools convert. -/
def tooManyDigits (count : Nat) : Raised :=
  ⟨"ValueError", "Exceeds the limit (" ++ toString Decimal.intDigitLimit ++
    " digits) for integer string conversion: value has " ++ toString count ++
    " digits; use sys.set_int_max_str_digits() to increase the limit"⟩

/-- A JSON document. -/
inductive Json where
  | null
  | bool (b : Bool)
  | int (n : Int)
  | float (x : Float)
  | str (s : String)
  | arr (items : List Json)
  | obj (members : List (String × Json))
  deriving Inhabited

namespace Json

/-- Sets a member of an object's list: in its place if the key is there, else at the end. -/
def setMember (k : String) (v : Json) : List (String × Json) → List (String × Json)
  | [] => [(k, v)]
  | (k', v') :: rest => if k' == k then (k, v) :: rest else (k', v') :: setMember k v rest

/-- The member of an object under a key. -/
def get? (j : Json) (k : String) : Option Json :=
  match j with
  | obj ms => ms.lookup k
  | _ => none

/-- The members of an object; nothing for other documents. -/
def members : Json → List (String × Json)
  | obj ms => ms
  | _ => []

/-- The items of an array; nothing for other documents. -/
def items : Json → List Json
  | arr xs => xs
  | _ => []

/-- Whether a document counts as true. -/
def truthy : Json → Bool
  | null => false
  | bool b => b
  | int n => n != 0
  | float x => x != 0.0
  | str s => !s.isEmpty
  | arr xs => !xs.isEmpty
  | obj ms => !ms.isEmpty

/-- The member under a key when it is true, else the empty object. -/
def nested (j : Json) (k : String) : Json :=
  match j.get? k with
  | some v => if v.truthy then v else obj []
  | none => obj []

/-- The number a document holds, as a double. -/
def number? : Json → Option Float
  | int n => some (Float.ofInt n)
  | float x => some x
  | _ => none

/-- The integer a document holds. -/
def int? : Json → Option Int
  | int n => some n
  | _ => none

/-- The string a document holds. -/
def str? : Json → Option String
  | str s => some s
  | _ => none

/-- Whether a document is an object. -/
def isObj : Json → Bool
  | obj _ => true
  | _ => false

/-- The name of the type of a document, as the tools name it. -/
def typeName : Json → String
  | null => "NoneType"
  | bool _ => "bool"
  | int _ => "int"
  | float _ => "float"
  | str _ => "str"
  | arr _ => "list"
  | obj _ => "dict"

mutual

/-- The text of a document as the tools write it inside a list: strings quoted, `None`,
`True` and `False`, doubles in their shortest form. -/
def repr : Json → String
  | null => "None"
  | bool b => if b then "True" else "False"
  | int n => toString n
  | float x => Number.render (.float x)
  | str s => Datum.quote s
  | arr xs => "[" ++ reprItems xs ++ "]"
  | obj ms => "\x7b" ++ reprMembers ms ++ "\x7d"

/-- The texts of items, separated by commas. -/
def reprItems : List Json → String
  | [] => ""
  | [x] => repr x
  | x :: xs => repr x ++ ", " ++ reprItems xs

/-- The texts of members, each a quoted key and a value, separated by commas. -/
def reprMembers : List (String × Json) → String
  | [] => ""
  | [(k, v)] => Datum.quote k ++ ": " ++ repr v
  | (k, v) :: ms => Datum.quote k ++ ": " ++ repr v ++ ", " ++ reprMembers ms

end

/-- The text of a document as the tools write it: a string as itself, the rest as `repr`. -/
def text : Json → String
  | str s => s
  | j => repr j

mutual

/-- Structural equality of documents; an integer equals the double of the same value. -/
def beq : Json → Json → Bool
  | null, null => true
  | bool a, bool b => a == b
  | int a, int b => a == b
  | float a, float b => a == b
  | int a, float b => Float.ofInt a == b
  | float a, int b => a == Float.ofInt b
  | str a, str b => a == b
  | arr as, arr bs => beqItems as bs
  | obj as, obj bs => beqMembers as bs
  | _, _ => false

/-- Equality of arrays, item by item. -/
def beqItems : List Json → List Json → Bool
  | [], [] => true
  | a :: as, b :: bs => beq a b && beqItems as bs
  | _, _ => false

/-- Equality of objects, member by member in order. -/
def beqMembers : List (String × Json) → List (String × Json) → Bool
  | [], [] => true
  | (ka, a) :: as, (kb, b) :: bs => ka == kb && beq a b && beqMembers as bs
  | _, _ => false

end

instance : BEq Json := ⟨beq⟩

/-- The hexadecimal digits of a code unit, four of them. -/
def hex4 (n : Nat) : String :=
  String.ofList ((List.range 4).reverse.map fun k => Nat.digitChar (n / Nat.pow 16 k % 16))

/-- A string as JSON text: quoted, with the quote, the backslash and the control characters
escaped. -/
def jsonString (s : String) : String :=
  let esc (c : Char) : String :=
    if c == '"' then "\\\"" else if c == '\\' then "\\\\"
    else if c == '\n' then "\\n" else if c == '\r' then "\\r" else if c == '\t' then "\\t"
    else if c.toNat < 32 then "\\u" ++ hex4 c.toNat
    else c.toString
  "\"" ++ String.join (s.toList.map esc) ++ "\""

/-- The JSON text of a double: its shortest text, or `NaN`, `Infinity` and `-Infinity`. -/
def floatText (x : Float) : String :=
  if x.isNaN then "NaN"
  else if x.isInf then (if x > 0.0 then "Infinity" else "-Infinity")
  else Number.render (.float x)

mutual

/-- The JSON text of a document. -/
def dump : Json → String
  | null => "null"
  | bool b => if b then "true" else "false"
  | int n => toString n
  | float x => floatText x
  | str s => jsonString s
  | arr xs => "[" ++ dumpItems xs ++ "]"
  | obj ms => "\x7b" ++ dumpMembers ms ++ "\x7d"

/-- The JSON texts of items, separated by commas. -/
def dumpItems : List Json → String
  | [] => ""
  | [x] => dump x
  | x :: xs => dump x ++ ", " ++ dumpItems xs

/-- The JSON texts of members, each a key and a value, separated by commas. -/
def dumpMembers : List (String × Json) → String
  | [] => ""
  | [(k, v)] => jsonString k ++ ": " ++ dump v
  | (k, v) :: ms => jsonString k ++ ": " ++ dump v ++ ", " ++ dumpMembers ms

end

end Json

end Report

end Monkey
