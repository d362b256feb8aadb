import Monkey.Heap.Clone
import Monkey.Value.View

/-!
# Runs

A run of the interpreter threads a *machine* through the evaluation: the heap, the lines of
standard input not read yet, and the text written to standard output so far. A run may stop
with a fault; the machine is kept then too, so that what was written before the fault is not
lost.

Loops are driven by `Run.loop`, which repeats a round until the round says the loop is done.
A loop that goes on past a bound of rounds stops with `Fault.outOfSteps`; no program that ends
comes near the bound.
-/

namespace Monkey

/-- The state of a run: the heap, the unread lines of standard input, and the output. -/
structure Machine where
  heap : Heap := Heap.empty
  input : List String := []
  out : String := ""
  deriving Inhabited

/-- The lines of a text as standard input delivers them: split at line feeds, without a last
empty line after a final line feed. -/
def Machine.linesOf (text : String) : List String :=
  match (text.splitOn "\n").reverse with
  | "" :: rest => rest.reverse
  | all => all.reverse

/-- A run: a computation on a machine that may stop with a fault. -/
abbrev Run := EStateM Fault Machine

/-- How a round of a loop ends: with the state for the next round, or with the loop's result. -/
inductive Round (σ α : Type) where
  | next (s : σ)
  | done (a : α)

namespace Run

/-- The heap. -/
def heap : Run Heap := do pure (← get).heap

/-- Changes the heap. -/
def onHeap (f : Heap → Heap) : Run Unit := modify fun m => { m with heap := f m.heap }

/-- A fresh identity. -/
def fresh : Run Nat :=
  modifyGet fun m => let (i, h) := m.heap.fresh; (i, { m with heap := h })

/-- A new scope with the given bindings. -/
def newScope (b : Bindings) : Run Nat :=
  modifyGet fun m => let (i, h) := m.heap.newScope b; (i, { m with heap := h })

/-- A new element list. -/
def newList (vs : Array Value) : Run Nat :=
  modifyGet fun m => let (i, h) := m.heap.newList vs; (i, { m with heap := h })

/-- A new array object viewing a new list with the given elements. -/
def newArray (vs : Array Value) : Run Value := do
  let c ← newList vs
  let i ← fresh
  pure (.array i c)

/-- Stops with the fault of a failed computation, or goes on with its result. -/
def lift {α : Type} : Except Fault α → Run α
  | .ok a => pure a
  | .error e => throw e

/-- Writes text to standard output. -/
def write (s : String) : Run Unit := modify fun m => { m with out := m.out ++ s }

/-- Reads the next line of standard input; there is none after the last. -/
def readLine : Run String := do
  match (← get).input with
  | [] => throw .inputExhausted
  | l :: rest =>
    modify fun m => { m with input := rest }
    pure l

/-- The bound on the rounds of a loop. -/
def roundBound : Nat := 1000000000000

/-- Repeats a round, from a state, until it ends the loop, at most `bound` times. -/
def loopFor {σ α : Type} (bound : Nat) (round : σ → Run (Round σ α)) (s : σ) : Run α :=
  match bound with
  | 0 => throw .outOfSteps
  | n + 1 => do
    match ← round s with
    | .next s' => loopFor n round s'
    | .done a => pure a

/-- Repeats a round, from a state, until it ends the loop. -/
def loop {σ α : Type} (round : σ → Run (Round σ α)) (s : σ) : Run α :=
  loopFor roundBound round s

/-- Runs an action on each item in order, until one gives a value that ends the sequence; the
result is the last value given, or `last` when there are no items. -/
def seq {α : Type} (act : α → Run Value) (ends : Value → Bool) :
    List α → Value → Run Value
  | [], last => pure last
  | a :: rest, _ => do
    let v ← act a
    if ends v then pure v else seq act ends rest v

/-- Runs an action on each item in order and collects the values; the first error value stops
the run of actions and is the result instead. -/
def values {α : Type} (act : α → Run Value) : List α → Run (Except Value (List Value))
  | [] => pure (.ok [])
  | a :: rest => do
    let v ← act a
    if v.isError then pure (.error v)
    else match ← values act rest with
      | .ok vs => pure (.ok (v :: vs))
      | .error e => pure (.error e)

end Run

end Monkey
