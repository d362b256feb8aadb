import Monkey.Machine

/-!
# Builtin functions

What each builtin does with its arguments. A builtin that gets the wrong number of arguments,
or an argument of the wrong type, gives an error value, which the program can see; asking the
type of a missing value is a fault.

- `len` counts the characters of a string or the elements of an array;
- `first`, `last` and `rest` take an array apart, giving `null` for an empty one;
- `push` appends to the array's list in place and gives a new array viewing the same list;
- `update` replaces an element in place;
- `print` and `printl` write what their arguments show, the latter a line each;
- `str` gives the text a value shows, `int` reads a number from a string (a double when the
  string has a point), and `input` reads a line of standard input;
- `exit` gives the exit signal.
-/

namespace Monkey

namespace Value

/-- The error value with a message. -/
def err (msg : String) : Value := error msg

end Value

/-- The error for a builtin that got `n` arguments. -/
def wrongArgCount (n : Nat) : Value :=
  .err ("wrong number of arguments. got=" ++ toString n ++ ", want=1")

/-- The number a string stands for: a double when the string holds a point, an integer
otherwise, or `null` when it does not read as one. -/
def readNumber (s : String) : Value :=
  if s.contains '.' then
    match Decimal.readFloat? s with
    | some x => Value.ofNumber (.float x)
    | none => Value.nullVal
  else
    match Decimal.readInt? s with
    | some n => Value.ofInt n
    | none => Value.nullVal

/-- The element of an array's list at a position given as a number: `null` outside the list;
a double inside it cannot be a position. -/
def elementAt (elems : Array Value) (pos : Number) : Except Fault Value :=
  let below := pos.compare? (.int 0) == some .lt
  let above := pos.compare? (.int (elems.size - 1 : Int)) == some .gt
  if below || above then pure Value.nullVal
  else match pos with
    | .int i => pure (elems.getD i.toNat Value.nullVal)
    | .float _ => throw .floatPosition

namespace Builtin

/-- The array argument of a builtin that takes one array. -/
def oneArray (name : String) : List Value → Run (Except Value (Nat × Array Value))
  | [a] => match a with
    | .array _ c => do pure (.ok (c, (← Run.heap).list c))
    | _ => do
      let t ← Run.lift a.typeName
      pure (.error (.err ("argument to " ++ name ++ " must be ARRAY, got " ++ t)))
  | args => pure (.error (wrongArgCount args.length))

/-- Calls a builtin on arguments. -/
def call (b : Builtin) (args : List Value) : Run Value :=
  match b with
  | len => match args with
    | [.str s] => pure (Value.ofInt s.length)
    | [.array _ c] => do pure (Value.ofInt ((← Run.heap).list c).size)
    | [a] => do
      let t ← Run.lift a.typeName
      pure (.err ("argument to \x60len\x60 not supported, got " ++ t))
    | _ => pure (wrongArgCount args.length)
  | first => do
    match ← oneArray "\x60first\x60" args with
    | .error e => pure e
    | .ok (_, vs) => pure (vs[0]?.getD Value.nullVal)
  | last => do
    match ← oneArray "\x60last\x60" args with
    | .error e => pure e
    | .ok (_, vs) => pure (vs.back?.getD Value.nullVal)
  | rest => do
    match ← oneArray "\x60rest\x60" args with
    | .error e => pure e
    | .ok (_, vs) => if vs.isEmpty then pure Value.nullVal else Run.newArray (vs.extract 1 vs.size)
  | push => match args with
    | [a, v] => match a with
      | .array _ c => do
        Run.onHeap (·.append c v)
        let i ← Run.fresh
        pure (.array i c)
      | _ => do
        let t ← Run.lift a.typeName
        pure (.err ("argument to \x60push\x60 must be ARRAY, got " ++ t))
    | _ => pure (wrongArgCount args.length)
  | update => match args with
    | [a, p, v] => match a with
      | .array _ c => match p with
        | .num pos _ => do
          let vs := (← Run.heap).list c
          let below := pos.compare? (.int 0) == some .lt
          let beyond := match pos.compare? (.int vs.size) with
            | some .lt => false
            | some _ => true
            | Option.none => false
          if below || beyond then pure (.err "index out of range")
          else match pos with
            | .int i => do
              Run.onHeap (·.setAt c i.toNat v)
              pure Value.nullVal
            | .float _ => throw .floatPosition
        | _ => do
          let _ ← Run.lift p.typeName
          pure (.err "second argument to \x60update\x60 must be INTEGER, got ARRAY")
      | _ => do
        let t ← Run.lift a.typeName
        pure (.err ("first argument to \x60update\x60 must be ARRAY, got " ++ t))
    | _ => pure (wrongArgCount args.length)
  | exit => pure Value.exitVal
  | print => do
    for a in args do
      let s ← Run.lift (a.inspect (← Run.heap))
      Run.write s.str
    pure Value.nullVal
  | printl => do
    for a in args do
      let s ← Run.lift (a.inspect (← Run.heap))
      Run.write (s.str ++ "\n")
    pure Value.nullVal
  | str => match args with
    | [a] => do
      let s ← Run.lift (a.inspect (← Run.heap))
      pure (.str s.str)
    | _ => pure (wrongArgCount args.length)
  | int => match args with
    | [.str s] => pure (readNumber s)
    | [_] => pure Value.nullVal
    | _ => pure (wrongArgCount args.length)
  | input => do pure (.str (← Run.readLine))

end Builtin

end Monkey
