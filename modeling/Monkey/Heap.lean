import Monkey.Value

/-!
# The heap

The mutable part of a run. A *scope* binds names to values; scopes are kept in the heap by
number, so that class values and instances can own one and two instances can share one. The
element lists of arrays are kept in the heap too, because `push` and `update` change a list in
place and every array viewing it sees the change. The heap also hands out the identities of new
objects.

A *frame* is where evaluation stands: the chain of scopes that a name is looked up in,
innermost first, and whether `break` and `continue` are allowed there. A name is found in the
first scope of the chain that binds it; `let` binds in the innermost scope, while assignment
changes the binding that lookup finds.
-/

namespace Monkey

/-- The names bound in one scope with their values, in the order they were first bound. -/
abbrev Bindings := List (String × Value)

namespace Bindings

/-- The value bound to a name. -/
def get? (name : String) : Bindings → Option Value
  | [] => none
  | (n, v) :: rest => if n == name then some v else get? name rest

/-- Binds a name: a bound name keeps its place and takes the new value; a new name goes last. -/
def put (name : String) (v : Value) : Bindings → Bindings
  | [] => [(name, v)]
  | (n, w) :: rest => if n == name then (n, v) :: rest else (n, w) :: put name v rest

/-- Whether a name is bound. -/
def binds (name : String) (b : Bindings) : Bool := (b.get? name).isSome

/-- The bindings sorted by name. -/
def sorted (b : Bindings) : Bindings := b.mergeSort (fun x y => decide (x.1 ≤ y.1))

@[simp] theorem get?_nil (name : String) :
  get? name [] = none
  := rfl

theorem get?_put_self (name : String) (v : Value) (b : Bindings) :
  (b.put name v).get? name = some v
  := by
  induction b with
  | nil => simp [put, get?]
  | cons p rest ih =>
    obtain ⟨n, w⟩ := p
    by_cases h : n = name
    · simp [put, get?, h]
    · simp [put, get?, h, ih]

theorem get?_put_other (name other : String) (v : Value) (b : Bindings) (h : other ≠ name) :
  (b.put name v).get? other = b.get? other
  := by
  induction b with
  | nil => simp [put, get?, Ne.symm h]
  | cons p rest ih =>
    obtain ⟨n, w⟩ := p
    by_cases hn : n = name
    · subst hn
      simp [put, get?, Ne.symm h]
    · by_cases ho : n = other
      · subst ho
        simp [put, get?, h]
      · simp [put, get?, hn, ho, ih]

end Bindings

/-- The mutable state of a run: scopes by number, element lists by number, and the next fresh
identity for a new object. -/
structure Heap where
  scopes : Array Bindings
  lists : Array (Array Value)
  nextId : Nat
  deriving Inhabited

/-- Where evaluation stands: the scopes searched for a name, innermost first, and whether
`break` and `continue` are allowed. -/
structure Frame where
  chain : List Nat
  inLoop : Bool
  deriving Inhabited

namespace Heap

/-- The heap of a new run: no scopes, no lists, and identities from `Value.firstFreshId` on. -/
def empty : Heap := ⟨#[], #[], Value.firstFreshId⟩

/-- A fresh identity. -/
def fresh (h : Heap) : Nat × Heap := (h.nextId, { h with nextId := h.nextId + 1 })

/-- A new scope holding the given bindings, and its number. -/
def newScope (b : Bindings) (h : Heap) : Nat × Heap :=
  (h.scopes.size, { h with scopes := h.scopes.push b })

/-- The bindings of a scope. -/
def scope (h : Heap) (i : Nat) : Bindings := h.scopes.getD i []

/-- Replaces the bindings of a scope. -/
def setScope (h : Heap) (i : Nat) (b : Bindings) : Heap := { h with scopes := h.scopes.set! i b }

/-- Binds a name in a scope. -/
def bind (h : Heap) (i : Nat) (name : String) (v : Value) : Heap :=
  { h with scopes := h.scopes.modify i (Bindings.put name v) }

/-- The value of a name: that of the first scope of the chain binding it. -/
def lookup (h : Heap) (name : String) : List Nat → Option Value
  | [] => none
  | i :: rest => match (h.scope i).get? name with
    | some v => some v
    | none => h.lookup name rest

/-- Changes the binding of a name that lookup finds; a name bound nowhere is bound in the
innermost scope. -/
def assign (h : Heap) (name : String) (v : Value) (chain : List Nat) : Heap :=
  match chain.find? (fun i => (h.scope i).binds name) with
  | some i => h.bind i name v
  | none => match chain with
    | [] => h
    | i :: _ => h.bind i name v

/-- A new element list, and its number. -/
def newList (vs : Array Value) (h : Heap) : Nat × Heap :=
  (h.lists.size, { h with lists := h.lists.push vs })

/-- The elements of a list. -/
def list (h : Heap) (i : Nat) : Array Value := h.lists.getD i #[]

/-- Appends an element to a list. -/
def append (h : Heap) (i : Nat) (v : Value) : Heap :=
  { h with lists := h.lists.modify i (·.push v) }

/-- Replaces the element at a position of a list. -/
def setAt (h : Heap) (i : Nat) (pos : Nat) (v : Value) : Heap :=
  { h with lists := h.lists.modify i (·.set! pos v) }

theorem lookup_nil (h : Heap) (name : String) :
  h.lookup name [] = none
  := rfl

end Heap

end Monkey
