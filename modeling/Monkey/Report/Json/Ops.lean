import Monkey.Report.Json
import Monkey.Report.Sort
import Monkey.Decimal.Fixed

/-!
# What the tools do with documents

The measuring tools read documents with the conversions and operations of their language. Each
operation gives a value or fails with the kind and message the tools report.

- Numbers are integers, doubles and Booleans, `true` counting as `1`. They compare by exact
  value, so `1`, `1.0` and `true` are equal. A not-a-number is less than nothing and more than
  nothing. It is equal to itself in sets and lists, because every `NaN` of a document is one
  and the same value to the tools.
- A string compares character by character, and an array item by item and then by length.
  Other pairs have no order.
- Walking a document gives an array's items, a string's characters or an object's keys. Only
  strings, numbers and null can be items of a set or keys of a dictionary.
- A dictionary is made from an object, or from items that each walk into a key and a value.
- Reading a member, or the members or values, needs an object. Length needs an array, a
  string or an object, and so does taking a front part, except that an object has none.
- A double is read from a number or from a number text. An integer is read from a number,
  truncating a double, or from an integer text.
- Rounding keeps integers and rounds doubles to decimal places. Writing with a number of
  places takes numbers only.
-/

namespace Monkey

namespace Report

namespace Json

/-- Whether a document is a number: an integer, a double or a Boolean. -/
def isNumber : Json → Bool
  | int _ | float _ | bool _ => true
  | _ => false

/-- Whether a document is a not-a-number. -/
def isNaN : Json → Bool
  | float x => x.isNaN
  | _ => false

/-- A number as an exact value, for comparing: a fraction, or an infinity. -/
inductive Exact where
  | finite (num : Int) (den : Nat)
  | posInf
  | negInf

/-- The exact value of a double; a not-a-number has none. -/
def Exact.ofFloat (x : Float) : Option Exact :=
  match Binary64.shape x with
  | .nan => none
  | .inf neg => some (if neg then .negInf else .posInf)
  | .finite neg p =>
    let (n, d) := p.ratio
    some (.finite (if neg then -(n : Int) else n) d)

/-- The order of exact values. -/
def Exact.compare : Exact → Exact → Ordering
  | .finite a b, .finite c d => Ord.compare (a * d) (c * b)
  | .negInf, .negInf => .eq
  | .posInf, .posInf => .eq
  | .negInf, _ => .lt
  | _, .posInf => .lt
  | _, _ => .gt

/-- The exact value of a number, if it is a number and not a not-a-number. -/
def numeric? : Json → Option Exact
  | int n => some (.finite n 1)
  | bool b => some (.finite (if b then 1 else 0) 1)
  | float x => Exact.ofFloat x
  | _ => none

mutual

/-- Whether two documents are equal as the tools compare items: numbers by value, a
not-a-number equal to itself, strings, arrays item by item and objects key by key. -/
def same : Json → Json → Bool
  | null, null => true
  | str a, str b => a == b
  | arr as, arr bs => sameItems as bs
  | obj as, obj bs => as.length == bs.length && sameMembers as bs
  | a, b =>
    match numeric? a, numeric? b with
    | some x, some y => x.compare y == .eq
    | _, _ => a.isNaN && b.isNaN

/-- Whether two arrays are equal item by item. -/
def sameItems : List Json → List Json → Bool
  | [], [] => true
  | a :: as, b :: bs => same a b && sameItems as bs
  | _, _ => false

/-- Whether every member of the first object is equal to the member under its key in the
second. -/
def sameMembers : List (String × Json) → List (String × Json) → Bool
  | [], _ => true
  | (k, v) :: rest, bs =>
    (match bs.lookup k with
     | some w => same v w
     | none => false) && sameMembers rest bs

end

/-- The failure of reading an attribute that a document's type lacks. -/
def noAttribute (j : Json) (attr : String) : Raised :=
  ⟨"AttributeError", "'" ++ j.typeName ++ "' object has no attribute '" ++ attr ++ "'"⟩

/-- The failure of an operator on two documents whose types it does not take. -/
def unsupported (op : String) (a b : Json) : Raised :=
  ⟨"TypeError", "unsupported operand type(s) for " ++ op ++ ": '" ++ a.typeName ++ "' and '" ++
    b.typeName ++ "'"⟩

/-- The member of an object under a key, or `default` when the object lacks it. -/
def getOr (j : Json) (k : String) (default : Json) : Except Raised Json :=
  match j with
  | obj ms => pure ((ms.lookup k).getD default)
  | _ => throw (noAttribute j "get")

/-- A document if it is true, else `default`. -/
def orElse (j default : Json) : Json := if j.truthy then j else default

/-- A document if it is true, else the empty object. -/
def orEmpty (j : Json) : Json := j.orElse (obj [])

/-- The members of an object. -/
def pairs (j : Json) : Except Raised (List (String × Json)) :=
  match j with
  | obj ms => pure ms
  | _ => throw (noAttribute j "items")

/-- The values of an object's members. -/
def values (j : Json) : Except Raised (List Json) :=
  match j with
  | obj ms => pure (ms.map (·.2))
  | _ => throw (noAttribute j "values")

/-- What walking a document gives: an array's items, a string's characters, an object's keys. -/
def iter (j : Json) : Except Raised (List Json) :=
  match j with
  | arr xs => pure xs
  | str s => pure (s.toList.map fun c => str c.toString)
  | obj ms => pure (ms.map fun (k, _) => str k)
  | _ => throw ⟨"TypeError", "'" ++ j.typeName ++ "' object is not iterable"⟩

/-- The length of an array, a string or an object. -/
def length (j : Json) : Except Raised Nat :=
  match j with
  | arr xs => pure xs.length
  | str s => pure s.length
  | obj ms => pure ms.length
  | _ => throw ⟨"TypeError", "object of type '" ++ j.typeName ++ "' has no len()"⟩

/-- The first `n` items of an array or characters of a string. -/
def front (j : Json) (n : Nat) : Except Raised Json :=
  match j with
  | arr xs => pure (arr (xs.take n))
  | str s => pure (str (String.ofList (s.toList.take n)))
  | obj _ => throw ⟨"TypeError", "unhashable type: 'slice'"⟩
  | _ => throw ⟨"TypeError", "'" ++ j.typeName ++ "' object is not subscriptable"⟩

/-- The distinct items of a document made a set, in the order first met. -/
def toSet (j : Json) : Except Raised (List Json) := do
  let xs ← iter j
  xs.foldlM (fun acc x =>
    match x with
    | arr _ | obj _ => throw ⟨"TypeError", "unhashable type: '" ++ x.typeName ++ "'"⟩
    | _ => pure (if acc.any (same x) then acc else acc ++ [x])) []

/-- A dictionary's entries with one more entry: the value replaces that of an equal key, whose
place and key stay, or else the entry comes last. -/
def dictInsert (key value : Json) : List (Json × Json) → List (Json × Json)
  | [] => [(key, value)]
  | (k, v) :: rest =>
    if same k key then (k, value) :: rest else (k, v) :: dictInsert key value rest

/-- The entries of a dictionary made from the items from the `index`-th on: each item walked
into exactly a key and a value, the key a string, a number or null. -/
def dictFrom (index : Nat) (acc : List (Json × Json)) :
    List Json → Except Raised (List (Json × Json))
  | [] => pure acc
  | x :: rest => do
    let parts ← match iter x with
      | .ok ps => pure ps
      | .error _ => throw ⟨"TypeError", "cannot convert dictionary update sequence element #" ++
          toString index ++ " to a sequence"⟩
    match parts with
    | [k, v] =>
      match k with
      | arr _ | obj _ => throw ⟨"TypeError", "unhashable type: '" ++ k.typeName ++ "'"⟩
      | _ => dictFrom (index + 1) (dictInsert k v acc) rest
    | _ => throw ⟨"ValueError", "dictionary update sequence element #" ++ toString index ++
        " has length " ++ toString parts.length ++ "; 2 is required"⟩

/-- The entries of a dictionary made from a document: an object's members, or else the items
that walking it gives, each walked into a key and a value. -/
def toDict (j : Json) : Except Raised (List (Json × Json)) :=
  match j with
  | obj ms => pure (ms.map fun (k, v) => (str k, v))
  | _ => do dictFrom 0 [] (← iter j)

/-- The value under a key among a dictionary's entries. -/
def dictGet (d : List (Json × Json)) (key : Json) : Option Json :=
  (d.find? fun (k, _) => same k key).map (·.2)

/-- The double nearest to an integer; beyond the largest double the conversion fails. -/
def intToFloat (n : Int) : Except Raised Float :=
  let x := Decimal.nearestFloat (n < 0) n.natAbs 0
  if x.isInf then throw ⟨"OverflowError", "int too large to convert to float"⟩ else pure x

/-- A document read as a double: a number, or a number text. -/
def toFloat (j : Json) : Except Raised Float :=
  match j with
  | float x => pure x
  | int n => intToFloat n
  | bool b => pure (if b then 1.0 else 0.0)
  | str s =>
    match Decimal.readFloat? s with
    | some x => pure x
    | none => throw ⟨"ValueError", "could not convert string to float: " ++ Datum.quote s⟩
  | _ => throw ⟨"TypeError", "float() argument must be a string or a real number, not '" ++
      j.typeName ++ "'"⟩

/-- The integer part of a double, toward zero. -/
def truncate (x : Float) : Except Raised Int :=
  match Binary64.shape x with
  | .nan => throw ⟨"ValueError", "cannot convert float NaN to integer"⟩
  | .inf _ => throw ⟨"OverflowError", "cannot convert float infinity to integer"⟩
  | .finite neg p =>
    let (n, d) := p.ratio
    pure (if neg then -((n / d : Nat) : Int) else (n / d : Nat))

/-- The number of digits of an integer text that is too long to read, if it is one. -/
def overlongDigits (s : String) : Option Nat := do
  let cs ← Decimal.prepare s
  let ds := (Decimal.splitSign cs).2
  if !ds.isEmpty && ds.all Decimal.isDigit && ds.length > Decimal.intDigitLimit then
    some ds.length
  else none

/-- A document read as an integer: a number, a double truncated, or an integer text. A text
that is not one is quoted in the message, the quoted text cut at 200 characters. -/
def toInt (j : Json) : Except Raised Int :=
  match j with
  | int n => pure n
  | bool b => pure (if b then 1 else 0)
  | float x => truncate x
  | str s =>
    match Decimal.readInt? s with
    | some n => pure n
    | none =>
      match overlongDigits s with
      | some n => throw (tooManyDigits n)
      | none => throw ⟨"ValueError", "invalid literal for int() with base 10: " ++
          String.ofList ((Datum.quote s).toList.take 200)⟩
  | _ => throw ⟨"TypeError",
      "int() argument must be a string, a bytes-like object or a real number, not '" ++
      j.typeName ++ "'"⟩

mutual

/-- Whether one document is less than another. -/
def lt : Json → Json → Except Raised Bool
  | str a, str b => pure (decide (a < b))
  | arr as, arr bs => ltItems as bs
  | a, b =>
    match numeric? a, numeric? b with
    | some x, some y => pure (x.compare y == .lt)
    | _, _ =>
      if a.isNumber && b.isNumber then pure false
      else throw ⟨"TypeError", "'<' not supported between instances of '" ++ a.typeName ++
        "' and '" ++ b.typeName ++ "'"⟩

/-- Whether one array is less than another: at the first items that differ, or else by
length. -/
def ltItems : List Json → List Json → Except Raised Bool
  | [], [] => pure false
  | [], _ :: _ => pure true
  | _ :: _, [] => pure false
  | a :: as, b :: bs => if same a b then ltItems as bs else lt a b

end

/-- The least of some documents: each later one replaces the least so far when it is less. -/
def least : List Json → Except Raised (Option Json)
  | [] => pure none
  | x :: rest =>
    some <$> rest.foldlM (fun m y => do pure (if ← lt y m then y else m)) x

/-- The sum of two documents: numbers added, strings or arrays joined. -/
def plus (a b : Json) : Except Raised Json :=
  match a, b with
  | str x, str y => pure (str (x ++ y))
  | arr x, arr y => pure (arr (x ++ y))
  | float x, _ => do
    if !b.isNumber then throw (unsupported "+" a b)
    pure (float (x + (← toFloat b)))
  | _, float y => do
    if !a.isNumber then throw (unsupported "+" a b)
    pure (float ((← toFloat a) + y))
  | _, _ =>
    if a.isNumber && b.isNumber then do pure (int ((← toInt a) + (← toInt b)))
    else throw (unsupported "+" a b)

/-- Half of a number, as a double. -/
def halve (j : Json) : Except Raised Json :=
  if j.isNumber then do pure (float ((← toFloat j) / 2.0))
  else throw (unsupported "/" j (int 2))

/-- The median of some documents, at least one: the middle one after sorting, or half the sum
of the two middle ones. -/
def median (xs : List Json) : Except Raised Json := do
  let s ← hostSort lt xs
  let n := s.length
  if n % 2 == 1 then pure (s.getD (n / 2) null)
  else halve (← plus (s.getD (n / 2 - 1) null) (s.getD (n / 2) null))

/-- A number rounded to decimal places: an integer stays, a double is rounded. -/
def roundTo (j : Json) (places : Nat) : Except Raised Json :=
  match j with
  | float x => pure (float (Decimal.roundPlaces x places))
  | int n => pure (int n)
  | bool b => pure (int (if b then 1 else 0))
  | _ => throw ⟨"TypeError", "type " ++ j.typeName ++ " doesn't define __round__ method"⟩

/-- A number written with `places` digits after the point. -/
def fixedText (j : Json) (places : Nat) : Except Raised String :=
  match j with
  | str _ => throw ⟨"ValueError", "Unknown format code 'f' for object of type 'str'"⟩
  | _ =>
    if j.isNumber then do pure (Decimal.fixed (← toFloat j) places)
    else throw ⟨"TypeError", "unsupported format string passed to " ++ j.typeName ++
      ".__format__"⟩

/-- The two parts of a document taken apart into two: what walking it gives, which must be
two. -/
def unpackPair (j : Json) : Except Raised (Json × Json) :=
  match iter j with
  | .error _ => throw ⟨"TypeError", "cannot unpack non-iterable " ++ j.typeName ++ " object"⟩
  | .ok [a, b] => pure (a, b)
  | .ok xs =>
    if xs.length > 2 then throw ⟨"ValueError", "too many values to unpack (expected 2)"⟩
    else throw ⟨"ValueError", "not enough values to unpack (expected 2, got " ++
      toString xs.length ++ ")"⟩

end Json

end Report

end Monkey
