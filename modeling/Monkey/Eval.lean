import Monkey.Builtins

/-!
# Evaluation

The meaning of programs. Evaluation walks the tree with a frame: names are looked up along the
frame's chain of scopes, and calls are dynamically scoped, so a function body runs in a new
scope in front of the *caller's* chain. A hole in the tree evaluates to no value at all.

Errors are values that stop the evaluation that meets them: an operand, argument or condition
that is an error is the result. The signals of `return`, `break`, `continue` and `exit` are
values too; a block stops at the first statement giving one of them or an error, a loop ends
on `break` and goes on after `continue`, a call unwraps the value being returned, and a program
stops at a returned value (giving what it wraps), at `exit` and at an error.

- In an infix operation the right operand is evaluated first.
- Two numbers combine arithmetically, two strings by `+`, `==` and `!=`; otherwise `==` and `!=`
  ask whether both sides are the same object, and `&&` and `||` combine the payloads' truth.
- `if` and loops run their blocks in a new scope; a `while` loop evaluates its condition in the
  enclosing frame, a `for` loop everything in its own scope, where `break` and `continue` are
  allowed.
- A class literal runs its `let` statements in a scope of its own; calling a class makes an
  instance with a deep copy of that scope. `obj.field` reads an instance's field and
  `obj.method(args)` calls a function of the instance in front of the instance's scope.
- A not-a-number that a prefix or infix operation makes is a new value with an identity of its
  own. Reading a name, an element or a field, or passing it as an argument, keeps that
  identity. A hash key that is not a number matches only the value with the same identity.

Evaluation is bounded by a depth of nesting (`Eval.depth`); a deeper evaluation stops with
`Fault.outOfSteps`.
-/

namespace Monkey

namespace Value

/-- Whether a value ends a block: a signal or an error. -/
def endsBlock : Value → Bool
  | breakSig _ | continueSig _ | returned .. | error _ | exitSig _ => true
  | _ => false

end Value

namespace Eval

/-- The result of a prefix operator on an evaluated operand: `!` negates truth, `-` negates a
number. -/
def prefixOp (op : String) (r : Value) : Except Fault Value :=
  if op == "!" then pure (Value.ofBool (!r.isTruthy))
  else if op == "-" then
    match r with
    | .num n _ => pure (.num n.neg 0)
    | _ => do pure (.err ("unknown operator: -" ++ (← r.typeName)))
  else do pure (.err ("unknwon operator: " ++ op ++ (← r.typeName)))

/-- An arithmetic operation's result as a value. -/
def arith (r : Except ArithError Number) : Except Fault Value :=
  match r with
  | .ok n => pure (.num n 0)
  | .error e => throw (.arith e)

/-- The result of an infix operator on two numbers. -/
def numeric (op : String) (a b : Number) : Except Fault Value :=
  let cmp (f : Ordering → Bool) : Except Fault Value :=
    pure (Value.ofBool ((a.compare? b).map f |>.getD false))
  if op == "+" then arith (a.add b)
  else if op == "-" then arith (a.sub b)
  else if op == "*" then arith (a.mul b)
  else if op == "/" then arith (a.div b)
  else if op == "%" then arith (a.mod b)
  else if op == "<" then cmp (· == .lt)
  else if op == ">" then cmp (· == .gt)
  else if op == "<=" then cmp (· != .gt)
  else if op == ">=" then cmp (· != .lt)
  else if op == "==" then pure (Value.ofBool (a.eq b))
  else if op == "!=" then pure (Value.ofBool (!a.eq b))
  else pure (.err ("unknown operator: INTEGER " ++ op ++ " INTEGER"))

/-- The result of an infix operator on two strings. -/
def strings (op : String) (a b : String) : Value :=
  if op == "+" then .str (a ++ b)
  else if op == "==" then Value.ofBool (a == b)
  else if op == "!=" then Value.ofBool (a != b)
  else .err ("unknown operator: STRING " ++ op ++ " STRING")

/-- The result of an infix operator on two evaluated operands. -/
def infixOp (op : String) (l r : Value) : Except Fault Value := do
  let lt ← l.typeName
  if lt == "INTEGER" then
    let rt ← r.typeName
    if rt == "INTEGER" then
      match l, r with
      | .num a _, .num b _ => return ← numeric op a b
      | _, _ => pure ()
  if lt == "STRING" then
    let rt ← r.typeName
    if rt == "STRING" then
      match l, r with
      | .str a, .str b => return strings op a b
      | _, _ => pure ()
  if op == "==" then return Value.ofBool (l.same r)
  if op == "!=" then return Value.ofBool (!l.same r)
  if op == "&&" || op == "and" then
    if !(← l.payloadTruth) then return Value.falseVal
    return Value.ofBool (← r.payloadTruth)
  if op == "||" || op == "or" then
    if ← l.payloadTruth then return Value.trueVal
    return Value.ofBool (← r.payloadTruth)
  let rt ← r.typeName
  if lt != rt then return .err ("type mismatch: " ++ lt ++ " " ++ op ++ " " ++ rt)
  return .err ("unknown operator: " ++ lt ++ " " ++ op ++ " " ++ rt)

/-- A value that an operation has just made: a double that is not a number gets the identity
of the operation. -/
def made (v : Value) : Run Value :=
  match v with
  | .num n _ => if n.isNaN then do pure (.num n (← Run.fresh)) else pure v
  | _ => pure v

/-- The value of an index expression on an evaluated target and key: an element of an array
(`null` outside it), or the value of a hash under the key (`null` when absent). -/
def index (h : Heap) (l k : Value) : Except Fault Value := do
  let lt ← l.typeName
  match l with
  | .array _ cells =>
    let _ ← k.typeName
    match k with
    | .num pos _ => elementAt (h.list cells) pos
    | _ => pure (.err ("index operator not supported: " ++ lt))
  | .hash _ ps =>
    if k.isHashable then
      let key ← k.hashKey
      pure ((pairValue? key ps).getD Value.nullVal)
    else pure (.err ("unusable as hash key: " ++ (← k.typeName)))
  | _ => pure (.err ("index operator not supported: " ++ lt))

/-- Evaluates the pairs of a hash literal in order into the pairs so far: the key, then the
value, then the key's number. -/
def hashPairs (ev : Option Expr → Run Value) :
    List (Option Expr × Option Expr) → List (HashKey × Value × Value) → Run Value
  | [], acc => do pure (.hash (← Run.fresh) acc)
  | (kn, vn) :: rest, acc => do
    let k ← ev kn
    if k.isError then return k
    if !k.isHashable then return .err ("unusable as hash key: " ++ (← Run.lift k.typeName))
    let v ← ev vn
    if v.isError then return v
    let key ← Run.lift k.hashKey
    hashPairs ev rest (storePair key k v acc)

/-- A new instance with a deep copy of a class's scope. -/
def instantiate (sc : Nat) : Run Value := do
  let (c, h) ← Run.lift ((← Run.heap).cloneScope sc)
  Run.onHeap fun _ => h
  pure (.inst (← Run.fresh) c)

/-- Runs the statements of a class body while they are all `let` statements; false when
another statement is met. -/
def fields (run : Stmt → Run Value) : List Stmt → Run Bool
  | [] => pure true
  | s :: rest => match s with
    | .letStmt .. => do
      let _ ← run s
      fields run rest
    | _ => pure false

/-- Runs the statements of a program in order: a returned value ends the program with what it
wraps, and `exit` or an error ends it as it is. -/
def statements (run : Stmt → Run Value) : List Stmt → Value → Run Value
  | [], last => pure last
  | s :: rest, _ => do
    let r ← run s
    match r with
    | .returned _ v => pure v
    | .exitSig _ | .error _ => pure r
    | _ => statements run rest r

/-- The value of an optional statement; none gives `dflt`. -/
def optionally (run : Stmt → Run Value) (s : Option Stmt) (dflt : Value) : Run Value :=
  match s with
  | some s => run s
  | none => pure dflt

mutual

/-- The value of an expression; a hole has no value. -/
def expr : Nat → Frame → Option Expr → Run Value
  | 0, _, _ => throw .outOfSteps
  | _ + 1, _, none => pure .void
  | fuel + 1, fr, some e => match e with
    | .ident id => do
      match (← Run.heap).lookup id.name fr.chain with
      | some v => pure v
      | none => match Builtin.ofName? id.name with
        | some b => pure (.builtin b b.id)
        | none => pure (.err ("identifier not found: " ++ id.name))
    | .number _ n => pure (.num n 0)
    | .boolean _ b => pure (Value.ofBool b)
    | .string _ s => pure (.str s)
    | .prefixOp _ op right => do
      let r ← expr fuel fr right
      if r.isError then return r
      made (← Run.lift (prefixOp op r))
    | .infixOp _ left op right =>
      if op == "." then dot fuel fr left right
      else do
        let r ← expr fuel fr right
        if r.isError then return r
        let l ← expr fuel fr left
        if l.isError then return l
        made (← Run.lift (infixOp op l r))
    | .ifElse _ cond yes no => do
      let inner ← Run.newScope []
      let fr' : Frame := { fr with chain := inner :: fr.chain }
      let c ← expr fuel fr cond
      if c.isError then return c
      if c.isTruthy then block fuel fr' yes
      else match no with
        | some b => block fuel fr' b
        | none => pure Value.nullVal
    | .function _ params body => do pure (.function (← Run.fresh) params body)
    | .call _ callee args => do
      let f ← expr fuel fr callee
      if f.isError then return f
      match f with
      | .cls _ sc _ => instantiate sc
      | _ =>
        match args with
        | none => throw .notIterable
        | some args => do
          match ← Run.values (expr fuel fr) args with
          | .error e => pure e
          | .ok vs => apply fuel fr.chain f vs
    | .array _ elems =>
      match elems with
      | none => throw .notIterable
      | some elems => do
        match ← Run.values (expr fuel fr) elems with
        | .error e => pure e
        | .ok vs => Run.newArray vs.toArray
    | .index _ target key => do
      let l ← expr fuel fr target
      if l.isError then return l
      let k ← expr fuel fr key
      if k.isError then return k
      Run.lift (index (← Run.heap) l k)
    | .hash _ pairs => hashPairs (expr fuel fr) pairs []
    | .whileLoop _ cond body => do
      let inner ← Run.newScope []
      let fr' : Frame := ⟨inner :: fr.chain, true⟩
      Run.loop (fun result => do
        let c ← expr fuel fr cond
        if c.isError then return .done c
        if !c.isTruthy then return .done result
        let r ← block fuel fr' body
        match r with
        | .breakSig _ => pure (.done Value.nullVal)
        | .error _ | .exitSig _ | .returned .. => pure (.done r)
        | .continueSig _ => pure (.next Value.nullVal)
        | _ => pure (.next r)) Value.nullVal
    | .forLoop _ init cond step body => do
      let inner ← Run.newScope []
      let fr' : Frame := ⟨inner :: fr.chain, true⟩
      let i ← optionally (stmt fuel fr') init .void
      if i.isError then return i
      Run.loop (fun result => do
        let c ← optionally (stmt fuel fr') cond Value.trueVal
        if c.isError then return .done c
        if !c.isTruthy then return .done result
        let r ← block fuel fr' body
        match r with
        | .breakSig _ => return .done Value.nullVal
        | .error _ | .exitSig _ | .returned .. => return .done r
        | _ => pure ()
        let u ← optionally (stmt fuel fr') step .void
        if u.isError then return .done u
        match r with
        | .continueSig _ => pure (.next Value.nullVal)
        | _ => pure (.next r)) Value.nullVal
    | .classDef _ body => do
      let sc ← Run.newScope []
      let fr' : Frame := ⟨[sc], false⟩
      if ← fields (stmt fuel fr') body.stmts then pure (.cls (← Run.fresh) sc body)
      else pure (.err "in class declaration there must be only Let statements")

/-- The value of `left.right`: `left` must name an instance; `right` is a field name, whose
value is read from the instance's scope, or a call, whose callee is evaluated in the
instance's scope and whose arguments in the current frame. -/
def dot : Nat → Frame → Option Expr → Option Expr → Run Value
  | 0, _, _, _ => throw .outOfSteps
  | fuel + 1, fr, left, right => match left with
    | some (.ident id) => do
      match (← Run.heap).lookup id.name fr.chain with
      | some (.inst _ sc) =>
        match right with
        | some (.ident f) => do pure (((← Run.heap).scope sc).get? f.name |>.getD .void)
        | some (.call _ callee args) => do
          let f ← expr fuel ⟨[sc], false⟩ callee
          if f.isError then return f
          match f with
          | .cls _ fsc _ => pure (.inst (← Run.fresh) fsc)
          | _ =>
            match args with
            | none => throw .notIterable
            | some args => do
              match ← Run.values (expr fuel fr) args with
              | .error e => pure e
              | .ok vs => apply fuel [sc] f vs
        | _ => pure (.err "Can't find a way to execute DOT operator")
      | _ => pure (.err (id.name ++ " does not exist in current scope"))
    | _ => pure (.err "Can't find a way to execute DOT operator")

/-- Applies a function to arguments, in front of the caller's chain of scopes. -/
def apply : Nat → List Nat → Value → List Value → Run Value
  | 0, _, _, _ => throw .outOfSteps
  | fuel + 1, chain, f, args => match f with
    | .function _ params body =>
      match params with
      | none => throw .noLength
      | some params =>
        if params.length != args.length then
          pure (.err ("wrong number of parametrs: wanted " ++ toString params.length ++
            ", got " ++ toString args.length))
        else do
          let b := (params.zip args).foldl (fun (b : Bindings) (p, a) => b.put p.name a) []
          let sc ← Run.newScope b
          let r ← block fuel ⟨sc :: chain, false⟩ body
          match r with
          | .returned _ v => pure v
          | _ => pure r
    | .builtin b _ => b.call args
    | _ => do pure (.err ("not a function: " ++ (← Run.lift f.typeName)))

/-- The value of a statement; `let` and assignment give no value. -/
def stmt : Nat → Frame → Stmt → Run Value
  | 0, _, _ => throw .outOfSteps
  | fuel + 1, fr, s => match s with
    | .letStmt _ name value field => do
      let v ← expr fuel fr value
      if v.isError then return v
      match field with
      | some f => do
        let h ← Run.heap
        match h.lookup name.name fr.chain with
        | some (.inst _ sc) =>
          if (h.scope sc).binds f.name then
            Run.onHeap (·.bind sc f.name v)
            pure .void
          else pure (.err ("Can't find instance " ++ f.name))
        | _ => pure (.err ("Can't find object " ++ name.name))
      | none => do
        match fr.chain with
        | sc :: _ => Run.onHeap (·.bind sc name.name v)
        | [] => pure ()
        pure .void
    | .returnStmt _ value => do
      match value with
      | none => pure (.returned (← Run.fresh) (Value.ofInt 0))
      | some _ => do
        let v ← expr fuel fr value
        if v.isError then return v
        pure (.returned (← Run.fresh) v)
    | .exprStmt _ e => expr fuel fr e
    | .assign _ name value => do
      let v ← expr fuel fr value
      if v.isError then return v
      match (← Run.heap).lookup name.name fr.chain with
      | none => pure (.err "Can't assign value before declaration")
      | some _ => do
        Run.onHeap (·.assign name.name v fr.chain)
        pure .void
    | .breakStmt =>
      if fr.inLoop then pure Value.breakVal else pure (.err "Can't use break outside a loop")
    | .continueStmt =>
      if fr.inLoop then pure Value.continueVal
      else pure (.err "Can't use continue outside a loop")

/-- The value of a block, run in the given frame: that of its last statement, or of the first
that ends the block. -/
def block : Nat → Frame → Block → Run Value
  | 0, _, _ => throw .outOfSteps
  | fuel + 1, fr, b => Run.seq (stmt fuel fr) Value.endsBlock b.stmts .void

end

/-- The depth of nesting up to which programs are evaluated. -/
def depth : Nat := 20000

end Eval

/-- The value of a program, run in the given frame. -/
def Program.eval (p : Program) (fr : Frame) : Run Value :=
  Eval.statements (Eval.stmt Eval.depth fr) p.stmts .void

end Monkey
