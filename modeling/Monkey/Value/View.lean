import Monkey.Value.Text

/-!
# Views of values

A value seen as a tree, with the heap read out: arrays as their elements, class values and
instances as the bindings of their scopes sorted by name, functions as their parameter names and
the text of their body. A view is what a report about a run shows of a value; it holds no
identities, so two views are equal exactly when the values look alike. A function whose list
of parameters was never closed has no names to list, and has no view: asking for one is the
fault of walking a missing list.
-/

namespace Monkey

/-- A value as a tree. -/
inductive View where
  | num (text : String)
  | bool (b : Bool)
  | str (s : String)
  | null
  | error (msg : String)
  | array (items : List View)
  | hash (pairs : List (View × View))
  | returned (v : View)
  /-- parameter names and body text (none when the body cannot be printed) -/
  | function (params : List String) (body : Option String)
  | cls (fields : List (String × View))
  | inst (fields : List (String × View))
  | builtin
  | exit
  | brk
  | cont
  /-- the absence of a value -/
  | none
  deriving Inhabited

namespace Value

/-- The view of a value, given the heap, up to a depth of nesting. -/
def viewAt (h : Heap) : Nat → Value → Except Fault View
  | 0, _ => throw .outOfSteps
  | fuel + 1, v => match v with
    | num n _ => do pure (.num (← n.text))
    | str s => pure (.str s)
    | bool b _ => pure (.bool b)
    | null _ => pure .null
    | error m => pure (.error m)
    | array _ cells => do pure (.array (← (h.list cells).toList.mapM (viewAt h fuel)))
    | hash _ ps => do
      let vs ← ps.mapM fun (_, k, w) => do
        let a ← viewAt h fuel k
        let b ← viewAt h fuel w
        pure (a, b)
      pure (.hash vs)
    | returned _ w => do pure (.returned (← viewAt h fuel w))
    | function _ params body =>
      match params with
      | Option.none => throw .notIterable
      | some ps =>
        let b := match body.render with
          | .ok s => some s
          | .error _ => Option.none
        pure (.function (ps.map (·.name)) b)
    | cls _ sc _ => do
      pure (.cls (← (h.scope sc).sorted.mapM fun (n, w) => do pure (n, ← viewAt h fuel w)))
    | inst _ sc => do
      pure (.inst (← (h.scope sc).sorted.mapM fun (n, w) => do pure (n, ← viewAt h fuel w)))
    | builtin .. => pure .builtin
    | exitSig _ => pure .exit
    | breakSig _ => pure .brk
    | continueSig _ => pure .cont
    | void => pure .none

/-- The view of a value. -/
def view (h : Heap) (v : Value) : Except Fault View := viewAt h showDepth v

end Value

/-- The views of the bindings of a scope, sorted by name. -/
def Heap.viewScope (h : Heap) (i : Nat) : Except Fault (List (String × View)) :=
  (h.scope i).sorted.mapM fun (n, w) => do pure (n, ← w.view h)

end Monkey
