import Monkey.Heap
import Monkey.Syntax.Printer

/-!
# The text of a value

What a value shows when it is printed or turned into a string. Most values show a text. A
class shows nothing, which prints as `None` and cannot be joined into the text of an array; a
value being returned shows a bound method instead of a text, which cannot be joined either.
The absence of a value has no text at all and is a fault.

- numbers show their shortest text; an integer of more than 4300 digits cannot be written;
- arrays show their elements' texts between brackets, hashes `key : value` pairs between
  braces, in insertion order;
- a function shows its parameters and the text of its body.
-/

namespace Monkey

/-- What a value shows: a text, nothing, or a bound method. -/
inductive Shown where
  | text (s : String)
  | nothing
  | method
  deriving Inhabited, DecidableEq

namespace Shown

/-- The shown thing as printed text. -/
def str : Shown → String
  | text s => s
  | nothing => "None"
  | method => "<bound method>"

/-- The kind of a shown thing that is not a text, as a fault names it. -/
def kind : Shown → String
  | text _ => "str"
  | nothing => "NoneType"
  | method => "method"

/-- The texts of shown things that are all texts; the first that is not, from position `i`
on, is a fault. -/
def texts (i : Nat) : List Shown → Except Fault (List String)
  | [] => pure []
  | text s :: rest => do
    let ts ← texts (i + 1) rest
    pure (s :: ts)
  | other :: _ => throw (.notText i other.kind)

end Shown

namespace Number

/-- The most decimal digits an integer may be written with. -/
def digitLimit : Nat := 4300

/-- The text of a number; an integer with more than `digitLimit` digits has none. -/
def text (n : Number) : Except Fault String :=
  match n with
  | .int i =>
    let s := toString i.natAbs
    if s.length > digitLimit then throw .digitLimit
    else pure (if i < 0 then "-" ++ s else s)
  | .float _ => pure n.render

end Number

namespace Value

/-- What a value shows, given the heap holding the elements of arrays, up to a depth of
nesting. -/
def shownAt (h : Heap) : Nat → Value → Except Fault Shown
  | 0, _ => throw .outOfSteps
  | fuel + 1, v => match v with
    | num n _ => do pure (.text (← n.text))
    | str s => pure (.text s)
    | bool b _ => pure (.text (if b then "true" else "false"))
    | null _ => pure (.text "null")
    | error m => pure (.text ("ERROR: " ++ m))
    | array _ cells => do
      let parts ← (h.list cells).toList.mapM (shownAt h fuel)
      let ts ← Shown.texts 0 parts
      pure (.text ("[" ++ joinWith ", " ts ++ "]"))
    | hash _ ps => do
      let parts ← ps.mapM fun (_, k, w) => do
        let a ← shownAt h fuel k
        let b ← shownAt h fuel w
        pure (a.str ++ " : " ++ b.str)
      pure (.text ("\x7b" ++ joinWith ", " parts ++ "\x7d"))
    | function _ params body => do
      let ps ← match params with
        | none => throw .notIterable
        | some ps => pure (ps.map (·.name))
      let b ← body.render
      pure (.text ("fn(" ++ joinWith ", " ps ++ ") \x7b\n" ++ b ++ "\n\x7d"))
    | builtin .. => pure (.text "builtin function")
    | cls .. => pure .nothing
    | inst .. => pure (.text "CLASS_INSTANCE")
    | returned .. => pure .method
    | exitSig _ => pure (.text "program exited")
    | breakSig _ => pure (.text "BREAK")
    | continueSig _ => pure (.text "CONTINUE")
    | void => throw (Fault.absent "inspect")

/-- The depth of nesting up to which values are shown. -/
def showDepth : Nat := 100000

/-- What a value shows. -/
def inspect (h : Heap) (v : Value) : Except Fault Shown := shownAt h showDepth v

end Value

end Monkey
