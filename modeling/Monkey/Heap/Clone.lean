import Monkey.Heap

/-!
# Cloning a scope

Instantiating a class gives the instance a deep copy of the class's scope. Every object
reachable from the scope is copied once: a copy remembers, for each object, list and scope
already copied, what it became, so that sharing is kept (two bindings of one array give two
bindings of one new array) and every copy is a new object with a new identity. The canonical
`true`, `false` and `null` are copied too, so inside an instance they are no longer the
canonical objects. Numbers, strings and errors have no identity and are kept as they are.

An object is remembered before its contents are copied, so that contents reaching back to the
object find its copy. A hash and a returned value hold their contents in themselves, so they are
remembered first with no contents; once their contents are copied, the copies made meanwhile
are settled to hold the whole copy (`CloneState.settle`). Copying is bounded by a depth of
nesting; a copy that goes deeper stops with `Fault.outOfSteps`.
-/

namespace Monkey

/-- The state of a copy in progress: the heap, and what each object, list and scope copied so
far became. -/
structure CloneState where
  heap : Heap
  objects : List (Nat × Value) := []
  lists : List (Nat × Nat) := []
  scopes : List (Nat × Nat) := []

mutual

/-- The value with `w` in place of every object of identity `j` that it holds, in the pairs of a
hash or in a returned value, at any depth. -/
def Value.settle (j : Nat) (w : Value) : Value → Value
  | .hash k ps => if k = j then w else .hash k (Value.settlePairs j w ps)
  | .returned k v => if k = j then w else .returned k (Value.settle j w v)
  | v => v

/-- The pairs of a hash with `w` in place of every object of identity `j`, keys and values
alike. -/
def Value.settlePairs (j : Nat) (w : Value) :
    List (HashKey × Value × Value) → List (HashKey × Value × Value)
  | [] => []
  | (k, kv, v) :: rest =>
    (k, Value.settle j w kv, Value.settle j w v) :: Value.settlePairs j w rest

end

/-- Whether a list or a scope of the heap is one a copy made, by what it stands for. -/
def madeIn (made : List (Nat × Nat)) (c : Nat) : Bool := made.any (·.2 == c)

/-- The copy in progress with `w` in place of the object of identity `j` in what it has made:
the lists and the scopes it made, and what each object became. -/
def CloneState.settle (s : CloneState) (j : Nat) (w : Value) : CloneState :=
  { s with
    heap := { s.heap with
      lists := s.heap.lists.mapIdx fun c vs =>
        if madeIn s.lists c then vs.map (Value.settle j w) else vs
      scopes := s.heap.scopes.mapIdx fun c b =>
        if madeIn s.scopes c then b.map fun (n, v) => (n, Value.settle j w v) else b }
    objects := s.objects.map fun (i, v) => (i, Value.settle j w v) }

/-- A copy in progress. -/
abbrev Cloning := EStateM Fault CloneState

namespace Cloning

/-- A fresh identity. -/
def freshId : Cloning Nat :=
  modifyGet fun s => (s.heap.nextId, { s with heap := { s.heap with nextId := s.heap.nextId + 1 } })

/-- Remembers what an object became. -/
def keep (i : Nat) (w : Value) : Cloning Unit :=
  modify fun s => { s with objects := (i, w) :: s.objects }

/-- The new list standing for a list, and whether it still has to be filled. -/
def listFor (i : Nat) : Cloning (Nat × Bool) := do
  match (← get).lists.lookup i with
  | some j => pure (j, false)
  | none => modifyGet fun s =>
    let j := s.heap.lists.size
    let heap := { s.heap with lists := s.heap.lists.push #[] }
    ((j, true), { s with heap := heap, lists := (i, j) :: s.lists })

/-- The new scope standing for a scope, and whether it still has to be filled. -/
def scopeFor (i : Nat) : Cloning (Nat × Bool) := do
  match (← get).scopes.lookup i with
  | some j => pure (j, false)
  | none => modifyGet fun s =>
    let j := s.heap.scopes.size
    let heap := { s.heap with scopes := s.heap.scopes.push [] }
    ((j, true), { s with heap := heap, scopes := (i, j) :: s.scopes })

/-- The elements of a list of the heap. -/
def elements (i : Nat) : Cloning (Array Value) := do pure ((← get).heap.list i)

/-- The bindings of a scope of the heap. -/
def bindings (i : Nat) : Cloning Bindings := do pure ((← get).heap.scope i)

/-- Fills a list of the heap. -/
def fillList (j : Nat) (vs : Array Value) : Cloning Unit :=
  modify fun s => { s with heap := { s.heap with lists := s.heap.lists.set! j vs } }

/-- Fills a scope of the heap. -/
def fillScope (j : Nat) (b : Bindings) : Cloning Unit :=
  modify fun s => { s with heap := s.heap.setScope j b }

/-- Settles what the copy has made to hold `w` for the object of identity `j`. -/
def settle (j : Nat) (w : Value) : Cloning Unit :=
  modify fun s => s.settle j w

/-- The copy of a value, with the copies of its contents up to a depth of nesting. -/
def value : Nat → Value → Cloning Value
  | 0, _ => throw .outOfSteps
  | fuel + 1, v => do
    match v.ident? with
    | none => pure v
    | some i =>
      match (← get).objects.lookup i with
      | some w => pure w
      | none => match v with
        | .array _ cells => do
          let j ← freshId
          let (c, todo) ← listFor cells
          keep i (.array j c)
          if todo then
            let vs ← (← elements cells).mapM (value fuel)
            fillList c vs
          pure (.array j c)
        | .cls _ sc body => do
          let j ← freshId
          let (c, todo) ← scopeFor sc
          keep i (.cls j c body)
          if todo then
            let b ← (← bindings sc).mapM fun (n, w) => do pure (n, ← value fuel w)
            fillScope c b
          pure (.cls j c body)
        | .inst _ sc => do
          let j ← freshId
          let (c, todo) ← scopeFor sc
          keep i (.inst j c)
          if todo then
            let b ← (← bindings sc).mapM fun (n, w) => do pure (n, ← value fuel w)
            fillScope c b
          pure (.inst j c)
        | .hash _ ps => do
          let j ← freshId
          keep i (.hash j [])
          let ps' ← ps.mapM fun (k, kv, w) => do
            let kv' ← value fuel kv
            let w' ← value fuel w
            pure (k, kv', w')
          settle j (.hash j ps')
          pure (.hash j ps')
        | .returned _ w => do
          let j ← freshId
          keep i (.returned j .void)
          let w' ← value fuel w
          settle j (.returned j w')
          pure (.returned j w')
        | w => do
          let j ← freshId
          let w' := w.withIdent j
          keep i w'
          pure w'

end Cloning

namespace Heap

/-- The depth of nesting up to which a scope is cloned. -/
def cloneDepth : Nat := 100000

/-- A new scope holding a deep copy of the bindings of a scope, and its number. -/
def cloneScope (h : Heap) (i : Nat) : Except Fault (Nat × Heap) :=
  let run : Cloning Nat := do
    let (c, _) ← Cloning.scopeFor i
    let b ← (h.scope i).mapM fun (n, w) => do pure (n, ← Cloning.value cloneDepth w)
    Cloning.fillScope c b
    pure c
  match run.run { heap := h } with
  | .ok c s => .ok (c, s.heap)
  | .error e _ => .error e

end Heap

end Monkey
