import Monkey.Syntax
import Monkey.Fault
import Monkey.Text.Sha256

/-!
# Values

The values a program computes. Numbers and strings are plain data, except that a double that
is not a number keeps the identity of the operation that made it: it equals nothing, not even
itself, so a hash finds it as a key only as that very double. Every other value is an
object with an identity, and `==` on such values asks whether they are the same object. The
Booleans, `null` and the three control signals have one canonical object each, with the
identities `0` to `5`; the builtin functions have the identities from `6` on; a copy of any of
them (made when a class is instantiated) is a new object. Arrays are views of a list of
elements kept in the heap, so that two arrays can share one list; class values and instances
own a scope in the heap.

`void` is the absence of a value, which a statement such as `let` produces.
-/

namespace Monkey

/-- The functions every program can call by name. -/
inductive Builtin where
  | len | first | last | rest | push | print | printl | update | exit | str | int | input
  deriving DecidableEq, Repr, Inhabited

namespace Builtin

/-- All builtins, in the order of their identities. -/
def all : List Builtin :=
  [len, first, last, rest, push, print, printl, update, exit, str, int, input]

/-- The name a program calls a builtin by. -/
def name : Builtin → String
  | len => "len" | first => "first" | last => "last" | rest => "rest" | push => "push"
  | print => "print" | printl => "printl" | update => "update" | exit => "exit"
  | str => "str" | int => "int" | input => "input"

/-- The builtin with a given name. -/
def ofName? (s : String) : Option Builtin := all.find? (·.name == s)

/-- The identity of the canonical object of a builtin. -/
def id (b : Builtin) : Nat := 6 + (all.idxOf b)

end Builtin

/-- The key a hash stores a pair under: the number the key value hashes to and, for a double
that is not a number, the identity of the operation that made it. -/
structure HashKey where
  number : Number
  origin : Nat
  deriving Inhabited

/-- Whether a key finds a pair stored under another: a double that is not a number finds only
itself, and other numbers find the numbers they equal. -/
def HashKey.matches (a b : HashKey) : Bool :=
  if a.number.isNaN || b.number.isNaN then
    a.number.isNaN && b.number.isNaN && a.origin == b.origin
  else a.number.eq b.number

/-- The values of the language. -/
inductive Value where
  /-- a number; `origin` is the identity of the operation that made a double that is not a
  number, and zero for every other number -/
  | num (n : Number) (origin : Nat)
  /-- a string -/
  | str (s : String)
  /-- a Boolean object -/
  | bool (b : Bool) (id : Nat)
  /-- a `null` object -/
  | null (id : Nat)
  /-- an error, which stops the evaluation that meets it -/
  | error (msg : String)
  /-- an array object viewing the element list `cells` of the heap -/
  | array (id : Nat) (cells : Nat)
  /-- a hash object: its pairs in insertion order, each with the key it is stored under -/
  | hash (id : Nat) (pairs : List (HashKey × Value × Value))
  /-- a function object; the parameters are missing when their list was not closed -/
  | function (id : Nat) (params : Option (List Ident)) (body : Block)
  /-- a builtin function object -/
  | builtin (fn : Builtin) (id : Nat)
  /-- a class object with its scope of fields -/
  | cls (id : Nat) (scope : Nat) (body : Block)
  /-- an instance of a class with its own scope of fields -/
  | inst (id : Nat) (scope : Nat)
  /-- a value being returned from a function -/
  | returned (id : Nat) (v : Value)
  /-- the signal to end the program -/
  | exitSig (id : Nat)
  /-- the signal to leave a loop -/
  | breakSig (id : Nat)
  /-- the signal to go on with the next round of a loop -/
  | continueSig (id : Nat)
  /-- no value at all -/
  | void
  deriving Inhabited

namespace Value

/-- The canonical `true`. -/
def trueVal : Value := bool true 0
/-- The canonical `false`. -/
def falseVal : Value := bool false 1
/-- The canonical `null`. -/
def nullVal : Value := null 2
/-- The canonical exit signal. -/
def exitVal : Value := exitSig 3
/-- The canonical break signal. -/
def breakVal : Value := breakSig 4
/-- The canonical continue signal. -/
def continueVal : Value := continueSig 5

/-- The least identity given to new objects. -/
def firstFreshId : Nat := 32

/-- The canonical Boolean for a truth value. -/
def ofBool (b : Bool) : Value := if b then trueVal else falseVal

/-- The integer value. -/
def ofInt (n : Int) : Value := num (.int n) 0

/-- The value of a number that no operation made. -/
def ofNumber (n : Number) : Value := num n 0

/-- The identity of an object; plain data has none. -/
def ident? : Value → Option Nat
  | bool _ i | null i | array i _ | hash i _ | function i .. | builtin _ i | cls i .. | inst i _
  | returned i _ | exitSig i | breakSig i | continueSig i => some i
  | num .. | str _ | error _ | void => none

/-- The same object under another identity; plain data has none to change. -/
def withIdent (j : Nat) : Value → Value
  | bool b _ => bool b j
  | null _ => null j
  | array _ c => array j c
  | hash _ ps => hash j ps
  | function _ ps body => function j ps body
  | builtin f _ => builtin f j
  | cls _ sc body => cls j sc body
  | inst _ sc => inst j sc
  | returned _ v => returned j v
  | exitSig _ => exitSig j
  | breakSig _ => breakSig j
  | continueSig _ => continueSig j
  | v => v

/-- Whether two values are the same object; the absence of a value is the same as itself. -/
def same (a b : Value) : Bool :=
  match a, b with
  | void, void => true
  | _, _ => match a.ident?, b.ident? with
    | some i, some j => i == j
    | _, _ => false

/-- Whether a value counts as true in a condition: everything but the canonical `false` and
`null` objects. -/
def isTruthy : Value → Bool
  | bool false 1 => false
  | null 2 => false
  | _ => true

/-- Whether a value is an error. -/
def isError : Value → Bool
  | error _ => true
  | _ => false

/-- The type name of a value, as the language reports it. -/
def typeName : Value → Except Fault String
  | num .. => pure "INTEGER"
  | str _ => pure "STRING"
  | bool .. => pure "BOOLEAN"
  | null _ => pure "NULL"
  | error _ => pure "ERROR"
  | array .. => pure "ARRAY"
  | hash .. => pure "HASH"
  | function .. => pure "FUNCTION"
  | builtin .. => pure "BUILTIN"
  | cls .. => pure "CLASS"
  | inst .. => pure "CLASS_INSTANCE"
  | returned .. => pure "RETURN_VALUE"
  | exitSig _ => pure "EXIT"
  | breakSig _ => pure "BREAK"
  | continueSig _ => pure "CONTINUE"
  | void => throw (Fault.absent "type")

/-- The kind of object a value is, as faults name it. -/
def kindName : Value → String
  | num .. => "Integer" | str _ => "String" | bool .. => "Boolean" | null _ => "Null"
  | error _ => "Error" | array .. => "Array" | hash .. => "Hash" | function .. => "Function"
  | builtin .. => "Builtin" | cls .. => "Class" | inst .. => "ClassInstance"
  | returned .. => "ReturnValue" | exitSig _ => "Exit" | breakSig _ => "Break"
  | continueSig _ => "Continue" | void => "NoneType"

/-- The truth of a value's payload, which `&&` and `||` combine: a number is true when
nonzero, a string when not empty, a Boolean as itself, a returned value when it is not
`void`. Other values have no payload. -/
def payloadTruth : Value → Except Fault Bool
  | num n _ => pure n.isNonzero
  | str s => pure (!s.isEmpty)
  | bool b _ => pure b
  | returned _ v => match v with
    | void => pure false
    | _ => pure true
  | v => throw (.noAttribute v.kindName "value")

/-- The number that keys a string in a hash: the first eight bytes of the SHA-256 digest of
its ASCII encoding, read little-endian. -/
def stringKey (s : String) : Except Fault Number := do
  let cs := s.toList
  match cs.findIdx? (fun c => c.toNat ≥ 128) with
  | some i =>
    let run := (cs.drop i).takeWhile (fun c => c.toNat ≥ 128)
    throw (.unencodable (cs.getD i ' ') i (i + run.length))
  | none =>
    let bytes := Sha256.digest (cs.map fun c => c.toNat.toUInt8)
    let key : Nat := (bytes.take 8).reverse.foldl (fun (n : Nat) b => 256 * n + b.toNat) 0
    pure (.int key)

/-- Whether a value can key a hash: numbers, Booleans and strings. -/
def isHashable : Value → Bool
  | num .. | bool .. | str _ => true
  | _ => false

/-- The key that a hashable value is stored under: a number itself with its origin, `1` or
`0` for a Boolean, and the string key of a string. -/
def hashKey : Value → Except Fault HashKey
  | num n o => pure ⟨n, o⟩
  | bool b _ => pure ⟨.int (if b then 1 else 0), 0⟩
  | str s => do pure ⟨← stringKey s, 0⟩
  | v => throw (.noAttribute v.kindName "hashKey")

end Value

/-- The value stored under a key in hash pairs. -/
def pairValue? (key : HashKey) : List (HashKey × Value × Value) → Option Value
  | [] => none
  | (k, _, v) :: rest => if k.matches key then some v else pairValue? key rest

/-- Stores a pair under a key: a matching key keeps its place and takes the new pair; a new key
goes last. -/
def storePair (key : HashKey) (kv : Value) (v : Value) :
    List (HashKey × Value × Value) → List (HashKey × Value × Value)
  | [] => [(key, kv, v)]
  | (k, kv', v') :: rest =>
    if k.matches key then (k, kv, v) :: rest else (k, kv', v') :: storePair key kv v rest

end Monkey
