import Monkey.Report.Json
import Monkey.Decimal.Read

/-!
# Reading JSON documents

A reader of JSON text with the tools' rules and messages. The text is read as a list of
characters with the position of its head, so that one step takes one character off the front.

- Blanks between tokens are space, tab, line feed and carriage return.
- A string may not hold a control character below `U+0020`; its escapes are `\"`, `\\`, `\/`,
  `\b`, `\f`, `\n`, `\r`, `\t` and `\u` with four hexadecimal digits, where a high and a low
  surrogate written one after the other make one character.
- A number is an optional minus, `0` or digits not starting with `0`, an optional fraction and
  an optional exponent; it is an integer without fraction and exponent, and otherwise the
  nearest double. A fraction needs a digit after the point and an exponent a digit after its
  sign, or the number ends before them.
- `NaN`, `Infinity` and `-Infinity` stand for those doubles.
- In an object a later member of the same key replaces the value in the earlier one's place.

A failure names what was expected and the position where, counted in characters; its message
adds the line and the column there. An integer of more than 4300 digits fails apart, as the
tools' conversion of its text fails.
-/

namespace Monkey

namespace Report

/-- Why a text is no JSON document: what the reader expected and where, or an integer with
more digits than the tools convert. -/
inductive ReadError where
  | malformed (msg : String) (pos : Nat)
  | tooManyDigits (count : Nat)

/-- The failure a text gives: for a malformed text what was expected, then the line, the column
and the position. -/
def ReadError.raised (doc : String) : ReadError → Raised
  | .malformed msg pos =>
    let before := doc.toList.take pos
    let line := before.count '\n' + 1
    let col := match before.reverse.findIdx? (· == '\n') with
      | some k => k + 1
      | none => pos + 1
    ⟨"JSONDecodeError", msg ++ ": line " ++ toString line ++ " column " ++ toString col ++
      " (char " ++ toString pos ++ ")"⟩
  | .tooManyDigits n => Report.tooManyDigits n

namespace Json

/-- Whether a character is a blank between tokens. -/
def isBlank (c : Char) : Bool := c == ' ' || c == '\t' || c == '\n' || c == '\r'

/-- The text after the blanks at its head, and its position. -/
def skipBlanks : List Char → Nat → List Char × Nat
  | c :: cs, i => if isBlank c then skipBlanks cs (i + 1) else (c :: cs, i)
  | [], i => ([], i)

/-- The value of a hexadecimal digit. -/
def hexDigit? (c : Char) : Option Nat :=
  if '0' ≤ c && c ≤ '9' then some (c.toNat - '0'.toNat)
  else if 'a' ≤ c && c ≤ 'f' then some (c.toNat - 'a'.toNat + 10)
  else if 'A' ≤ c && c ≤ 'F' then some (c.toNat - 'A'.toNat + 10)
  else none

/-- The number written by the first four characters, all hexadecimal digits. -/
def hex4? : List Char → Option Nat
  | a :: b :: c :: d :: _ => do
    pure ((((← hexDigit? a) * 16 + (← hexDigit? b)) * 16 + (← hexDigit? c)) * 16 +
      (← hexDigit? d))
  | _ => none

/-- The character a simple escape stands for. -/
def escaped? : Char → Option Char
  | '"' => some '"'
  | '\\' => some '\\'
  | '/' => some '/'
  | 'b' => some (Char.ofNat 8)
  | 'f' => some (Char.ofNat 12)
  | 'n' => some '\n'
  | 'r' => some '\r'
  | 't' => some '\t'
  | _ => none

/-- The character of a code point; a lone surrogate reads as the replacement character. -/
def codeChar (n : Nat) : Char :=
  if 0xD800 ≤ n && n ≤ 0xDFFF then Char.ofNat 0xFFFD else Char.ofNat n

/-- The rest of a string after its opening quote at `begin`: the string, and the text after
the closing quote with its position. `acc` holds the characters read so far, last first. -/
def scanString (begin : Nat) (cs : List Char) (i : Nat) (acc : List Char) :
    Except ReadError (String × List Char × Nat) :=
  match cs with
  | [] => throw (.malformed "Unterminated string starting at" begin)
  | '"' :: rest => pure (String.ofList acc.reverse, rest, i + 1)
  | '\\' :: rest =>
    match rest with
    | [] => throw (.malformed "Unterminated string starting at" begin)
    | 'u' :: more =>
      if more.length ≤ 4 then throw (.malformed "Invalid \\uXXXX escape" (i + 1))
      else match hex4? more with
        | none => throw (.malformed "Invalid \\uXXXX escape" (i + 1))
        | some c =>
          let after := more.drop 4
          let pair := match after with
            | '\\' :: 'u' :: low =>
              0xD800 ≤ c && c ≤ 0xDBFF && after.length > 6 && low.length ≥ 4
            | _ => false
          if pair then
            match hex4? (after.drop 2) with
            | none => throw (.malformed "Invalid \\uXXXX escape" (i + 7))
            | some c2 =>
              if 0xDC00 ≤ c2 && c2 ≤ 0xDFFF then
                let joined := 0x10000 + (c - 0xD800) * 0x400 + (c2 - 0xDC00)
                scanString begin (after.drop 6) (i + 12) (Char.ofNat joined :: acc)
              else scanString begin after (i + 6) (codeChar c :: acc)
          else scanString begin after (i + 6) (codeChar c :: acc)
    | e :: more =>
      match escaped? e with
      | some ch => scanString begin more (i + 2) (ch :: acc)
      | none => throw (.malformed "Invalid \\escape" i)
  | c :: rest =>
    if c.toNat ≤ 0x1f then throw (.malformed "Invalid control character at" i)
    else scanString begin rest (i + 1) (c :: acc)
termination_by cs.length
decreasing_by all_goals (simp only [List.length_cons, List.length_drop]; omega)

/-- Whether a character is a decimal digit. -/
def isDigit (c : Char) : Bool := '0' ≤ c && c ≤ '9'

/-- The exponent digits after `e` or `E`, with their sign, and the text after them; nothing
when no digit follows. -/
def exponent? (cs : List Char) : Option (Bool × List Char × List Char) :=
  let (neg, body) := match cs with
    | '-' :: r@(_ :: _) => (true, r)
    | '+' :: r@(_ :: _) => (false, r)
    | r => (false, r)
  let ds := body.takeWhile isDigit
  if ds.isEmpty then none else some (neg, ds, body.dropWhile isDigit)

/-- The integer digits at the head of a number: `0`, or digits not starting with `0`. -/
def wholeDigits? : List Char → Option (List Char)
  | '0' :: _ => some ['0']
  | c :: rest => if '1' ≤ c && c ≤ '9' then some (c :: rest.takeWhile isDigit) else none
  | [] => none

/-- A number at the head of a text at position `i`: the document, the text after it and its
position. -/
def number (cs : List Char) (i : Nat) : Except ReadError (Json × List Char × Nat) := do
  let (neg, body) := match cs with
    | '-' :: r => (true, r)
    | r => (false, r)
  let whole ← match wholeDigits? body with
    | some ds => pure ds
    | none => throw (.malformed "Expecting value" i)
  let rest := body.drop whole.length
  let (frac, rest) := match rest with
    | '.' :: d :: more => if isDigit d then
        let fs := (d :: more).takeWhile isDigit
        (fs, (d :: more).drop fs.length)
      else ([], rest)
    | _ => ([], rest)
  let (expo, rest) := match rest with
    | e :: more@(_ :: _) =>
      if e == 'e' || e == 'E' then
        match exponent? more with
        | some (eneg, ds, after) =>
          let n := Decimal.digitsValue ds
          (some (if eneg then -(n : Int) else n), after)
        | none => (none, rest)
      else (none, rest)
    | _ => (none, rest)
  if frac.isEmpty && expo.isNone && whole.length > Decimal.intDigitLimit then
    throw (.tooManyDigits whole.length)
  let used := cs.length - rest.length
  let digits := Decimal.digitsValue (whole ++ frac)
  let v : Json :=
    if frac.isEmpty && expo.isNone then
      .int (if neg then -(digits : Int) else digits)
    else .float (Decimal.nearestFloat neg digits (expo.getD 0 - frac.length))
  pure (v, rest, i + used)

mutual

/-- A document at the head of a text at position `i`: the document, the text after it and its
position. `fuel` bounds the steps; the reader gives it more than the text can use. -/
def value (fuel : Nat) (cs : List Char) (i : Nat) : Except ReadError (Json × List Char × Nat) :=
  match fuel with
  | 0 => throw (.malformed "Expecting value" i)
  | fuel + 1 =>
    match cs with
    | [] => throw (.malformed "Expecting value" i)
    | '"' :: rest => do
      let (s, rest, j) ← scanString i rest (i + 1) []
      pure (.str s, rest, j)
    | '{' :: rest =>
      let (rest, j) := skipBlanks rest (i + 1)
      match rest with
      | '}' :: after => pure (.obj [], after, j + 1)
      | _ => objectMembers fuel rest j []
    | '[' :: rest =>
      let (rest, j) := skipBlanks rest (i + 1)
      match rest with
      | ']' :: after => pure (.arr [], after, j + 1)
      | _ => arrayItems fuel rest j []
    | 'n' :: 'u' :: 'l' :: 'l' :: rest => pure (.null, rest, i + 4)
    | 't' :: 'r' :: 'u' :: 'e' :: rest => pure (.bool true, rest, i + 4)
    | 'f' :: 'a' :: 'l' :: 's' :: 'e' :: rest => pure (.bool false, rest, i + 5)
    | 'N' :: 'a' :: 'N' :: rest => pure (.float (0.0 / 0.0), rest, i + 3)
    | 'I' :: 'n' :: 'f' :: 'i' :: 'n' :: 'i' :: 't' :: 'y' :: rest =>
      pure (.float (1.0 / 0.0), rest, i + 8)
    | '-' :: 'I' :: 'n' :: 'f' :: 'i' :: 'n' :: 'i' :: 't' :: 'y' :: rest =>
      pure (.float (-(1.0 / 0.0)), rest, i + 9)
    | _ => number cs i

/-- The members of an object from the key at the head of a text, after `acc`; the text after
the closing brace and its position. -/
def objectMembers (fuel : Nat) (cs : List Char) (i : Nat) (acc : List (String × Json)) :
    Except ReadError (Json × List Char × Nat) :=
  match fuel with
  | 0 => throw (.malformed "Expecting value" i)
  | fuel + 1 =>
    match cs with
    | '"' :: rest => do
      let (k, rest, j) ← scanString i rest (i + 1) []
      let (rest, j) := skipBlanks rest j
      match rest with
      | ':' :: rest =>
        let (rest, j) := skipBlanks rest (j + 1)
        let (v, rest, j) ← value fuel rest j
        let acc := setMember k v acc
        let (rest, j) := skipBlanks rest j
        match rest with
        | '}' :: after => pure (.obj acc, after, j + 1)
        | ',' :: after =>
          let (after, j) := skipBlanks after (j + 1)
          objectMembers fuel after j acc
        | _ => throw (.malformed "Expecting ',' delimiter" j)
      | _ => throw (.malformed "Expecting ':' delimiter" j)
    | _ => throw (.malformed "Expecting property name enclosed in double quotes" i)

/-- The items of an array from the item at the head of a text, after `acc` (last first); the
text after the closing bracket and its position. -/
def arrayItems (fuel : Nat) (cs : List Char) (i : Nat) (acc : List Json) :
    Except ReadError (Json × List Char × Nat) :=
  match fuel with
  | 0 => throw (.malformed "Expecting value" i)
  | fuel + 1 => do
    let (v, rest, j) ← value fuel cs i
    let (rest, j) := skipBlanks rest j
    match rest with
    | ']' :: after => pure (.arr (v :: acc).reverse, after, j + 1)
    | ',' :: after =>
      let (after, j) := skipBlanks after (j + 1)
      arrayItems fuel after j (v :: acc)
    | _ => throw (.malformed "Expecting ',' delimiter" j)

end

/-- The document a text holds, blanks around it allowed. -/
def read (s : String) : Except ReadError Json := do
  let cs := s.toList
  if cs.head? == some (Char.ofNat 0xFEFF) then
    throw (.malformed "Unexpected UTF-8 BOM (decode using utf-8-sig)" 0)
  let (cs, i) := skipBlanks cs 0
  let (v, rest, j) ← value (2 * cs.length + 2) cs i
  let (rest, j) := skipBlanks rest j
  if rest.isEmpty then pure v else throw (.malformed "Extra data" j)

/-- The document a text holds, or the failure of why it holds none. -/
def parse (s : String) : Except Raised Json :=
  match read s with
  | .ok v => .ok v
  | .error e => .error (e.raised s)

end Json

end Report

end Monkey
