import Monkey.Proofs.ScopeGrowth

/-!
# Scope discipline

Where evaluation may add names, and to which scopes.

* Evaluating an expression adds no name to a scope that exists when it starts, and takes
  none away. An `if`, a loop, a call and a class literal run their statements in a scope
  made for them, and the `let` statements there bind in that scope.
* A statement adds at most the name its `let` binds, and only to the innermost scope of
  its frame. A block and a program add only the names of their own `let` statements,
  and only there.
* Assignment adds no name. It rebinds the name in the innermost scope of the chain that
  binds it, and changes no scope when none does.

The proof is one induction on the fuel of evaluation (`Eval.ScopesDisciplined`), with a
step lemma for each function of the evaluator.
-/

namespace Monkey

/-- The name a `let` statement without a field binds in the innermost scope. -/
def Stmt.letName : Stmt → Option String
  | .letStmt _ name _ none => some name.name
  | _ => none

/-- The names the `let` statements of a list bind in the innermost scope. -/
def Stmt.letNames (ss : List Stmt) : List String := ss.filterMap Stmt.letName

namespace Eval

/-- What evaluation with a given fuel may do to the scopes that exist when it starts. -/
structure ScopesDisciplined (fuel : Nat) : Prop where
  expr : ∀ fr e, Run.Grows (fun _ _ => False) (Eval.expr fuel fr e)
  dot : ∀ fr left right, Run.Grows (fun _ _ => False) (Eval.dot fuel fr left right)
  apply : ∀ chain f args, Run.Grows (fun _ _ => False) (Eval.apply fuel chain f args)
  stmt : ∀ fr s,
    Run.Grows (fun i n => fr.chain.head? = some i ∧ s.letName = some n) (Eval.stmt fuel fr s)
  block : ∀ fr b,
    Run.Grows (fun i n => fr.chain.head? = some i ∧ n ∈ Stmt.letNames b.stmts)
      (Eval.block fuel fr b)

namespace ScopesDisciplined

open Run.Grows

variable {fuel : Nat}

theorem zero : ScopesDisciplined 0 where
  expr _ _ := throw _
  dot _ _ _ := throw _
  apply _ _ _ := throw _
  stmt _ _ := throw _
  block _ _ := throw _

/-- A block run in front of a scope `i` adds names to `i` only. -/
theorem block_front (ih : ScopesDisciplined fuel) {add : Nat → String → Prop} {i : Nat}
    (hadd : ∀ n, add i n) (rest : List Nat) (l : Bool) (b : Block) :
  Run.Grows add (Eval.block fuel ⟨i :: rest, l⟩ b)
  := (ih.block _ b).mono fun j n h => by
    obtain rfl : i = j := Option.some.inj h.1
    exact hadd n

/-- A statement run in front of a scope `i` adds names to `i` only. -/
theorem stmt_front (ih : ScopesDisciplined fuel) {add : Nat → String → Prop} {i : Nat}
    (hadd : ∀ n, add i n) (rest : List Nat) (l : Bool) (s : Stmt) :
  Run.Grows add (Eval.stmt fuel ⟨i :: rest, l⟩ s)
  := (ih.stmt _ s).mono fun j n h => by
    obtain rfl : i = j := Option.some.inj h.1
    exact hadd n

theorem expr_succ (ih : ScopesDisciplined fuel) (fr : Frame) :
  ∀ e, Run.Grows (fun _ _ => False) (Eval.expr (fuel + 1) fr e)
  | none => pure _
  | some e => by
    cases e with
    | ident id =>
      rw [Eval.expr]
      refine heap.bind fun _ => ?_
      split
      · exact pure _
      · split <;> exact pure _
    | number _ _ | boolean _ _ | string _ _ => exact pure _
    | prefixOp _ op right =>
      rw [Eval.expr]
      refine (ih.expr fr right).bind fun r => ?_
      split
      · exact pure r
      · exact (lift _).bind Run.Grows.made
    | infixOp _ left op right =>
      rw [Eval.expr]
      split
      · exact ih.dot fr left right
      · refine (ih.expr fr right).bind fun r => ?_
        split
        · exact pure r
        · refine (ih.expr fr left).bind fun l => ?_
          split
          · exact pure l
          · exact (lift _).bind Run.Grows.made
    | ifElse _ cond yes no =>
      rw [Eval.expr]
      refine newScope_bind fun inner => (ih.expr fr cond).weaken.bind fun c => ?_
      split
      · exact pure c
      · split
        · exact ih.block_front (fun _ => Or.inr rfl) _ _ yes
        · split
          · exact ih.block_front (fun _ => Or.inr rfl) _ _ _
          · exact pure _
    | function _ params body =>
      rw [Eval.expr]
      exact fresh.bind fun _ => pure _
    | call _ callee args =>
      rw [Eval.expr]
      refine (ih.expr fr callee).bind fun f => ?_
      split
      · exact pure f
      · split
        · exact Run.Grows.instantiate _
        · split
          · exact throw _
          · refine (values (ih.expr fr) _).bind fun r => ?_
            split
            · exact pure _
            · exact ih.apply _ _ _
    | array _ elems =>
      cases elems with
      | none =>
        rw [Eval.expr]
        exact throw _
      | some elems =>
        rw [Eval.expr]
        refine (values (ih.expr fr) _).bind fun r => ?_
        split
        · exact pure _
        · exact newArray _
    | index _ target key =>
      rw [Eval.expr]
      refine (ih.expr fr target).bind fun l => ?_
      split
      · exact pure l
      · refine (ih.expr fr key).bind fun k => ?_
        split
        · exact pure k
        · exact heap.bind fun _ => lift _
    | hash _ pairs =>
      rw [Eval.expr]
      exact Run.Grows.hashPairs (ih.expr fr) pairs []
    | whileLoop _ cond body =>
      rw [Eval.expr]
      refine newScope_bind fun inner => loop (fun result => ?_) _
      refine (ih.expr fr cond).weaken.bind fun c => ?_
      split
      · exact pure _
      · split
        · exact pure _
        · refine (ih.block_front (fun _ => Or.inr rfl) _ _ body).bind fun r => ?_
          split <;> exact pure _
    | forLoop _ init cond step body =>
      rw [Eval.expr]
      refine newScope_bind fun inner => ?_
      have hpart : ∀ s d, Run.Grows (fun j _ => False ∨ j = inner)
          (Eval.optionally (Eval.stmt fuel ⟨inner :: fr.chain, true⟩) s d) :=
        Run.Grows.optionally (ih.stmt_front (fun _ => Or.inr rfl) _ _)
      refine (hpart init _).bind fun i => ?_
      split
      · exact pure i
      · refine loop (fun result => ?_) _
        refine (hpart cond _).bind fun c => ?_
        split
        · exact pure _
        · split
          · exact pure _
          · refine (ih.block_front (fun _ => Or.inr rfl) _ _ body).bind fun r => ?_
            split
            case h_5 =>
              refine (hpart step _).bind fun u => ?_
              split
              · exact pure _
              · split <;> exact pure _
            all_goals exact pure _
    | classDef _ body =>
      rw [Eval.expr]
      refine newScope_bind fun sc => ?_
      refine (Run.Grows.fields (ih.stmt_front (fun _ => Or.inr rfl) [] false) body.stmts).bind
        fun ok => ?_
      split
      · exact fresh.bind fun _ => pure _
      · exact pure _

theorem dot_succ (ih : ScopesDisciplined fuel) (fr : Frame) (left right : Option Expr) :
  Run.Grows (fun _ _ => False) (Eval.dot (fuel + 1) fr left right)
  := by
  rw [Eval.dot.eq_def]
  dsimp only
  split
  · refine heap.bind fun _ => ?_
    split
    · split
      · exact heap.bind fun _ => pure _
      · refine (ih.expr _ _).bind fun f => ?_
        split
        · exact pure f
        · split
          · exact fresh.bind fun _ => pure _
          · split
            · exact throw _
            · refine (values (ih.expr fr) _).bind fun r => ?_
              split
              · exact pure _
              · exact ih.apply _ _ _
      · exact pure _
    · exact pure _
  · exact pure _

/-- The parameters are bound in the call's new scope, which the body runs in front of. -/
theorem apply_succ (ih : ScopesDisciplined fuel) (chain : List Nat) (f : Value)
    (args : List Value) :
  Run.Grows (fun _ _ => False) (Eval.apply (fuel + 1) chain f args)
  := by
  rw [Eval.apply.eq_def]
  dsimp only
  split
  · split
    · exact throw _
    · split
      · exact pure _
      · refine newScope_bind fun sc => ?_
        refine (ih.block_front (fun _ => Or.inr rfl) _ _ _).bind fun r => ?_
        split <;> exact pure _
  · exact builtin _ _
  · exact (lift _).bind fun _ => pure _

theorem stmt_succ (ih : ScopesDisciplined fuel) (fr : Frame) (s : Stmt) :
  Run.Grows (fun i n => fr.chain.head? = some i ∧ s.letName = some n)
    (Eval.stmt (fuel + 1) fr s)
  := by
  cases s with
  | letStmt _ name value field =>
    rw [Eval.stmt]
    refine (ih.expr fr value).weaken.bind fun v => ?_
    split
    · exact pure v
    · cases field with
      | some f =>
        refine heap_bind fun m => ?_
        split
        · split
          · rename_i hb
            exact Heap.Grows.bind_of_binds hb v
          · exact Heap.Grows.refl _
        · exact Heap.Grows.refl _
      | none =>
        dsimp only
        split
        · rename_i sc rest hchain
          refine (onHeap fun h => Heap.Grows.bind ⟨?_, rfl⟩ v).bind fun _ => pure _
          rw [hchain]
          rfl
        · exact pure _
  | returnStmt _ value =>
    cases value with
    | none =>
      rw [Eval.stmt]
      exact fresh.bind fun _ => pure _
    | some e =>
      rw [Eval.stmt]
      refine (ih.expr fr _).weaken.bind fun v => ?_
      split
      · exact pure v
      · exact fresh.bind fun _ => pure _
  | exprStmt _ e =>
    rw [Eval.stmt]
    exact (ih.expr fr e).weaken
  | assign _ name value =>
    rw [Eval.stmt]
    refine (ih.expr fr value).weaken.bind fun v => ?_
    split
    · exact pure v
    · refine heap_bind fun m => ?_
      split
      · exact Heap.Grows.refl _
      · rename_i w hl
        exact Heap.Grows.assign (by rw [hl]; rfl) v
  | breakStmt | continueStmt =>
    rw [Eval.stmt]
    split <;> exact pure _

theorem block_succ (ih : ScopesDisciplined fuel) (fr : Frame) (b : Block) :
  Run.Grows (fun i n => fr.chain.head? = some i ∧ n ∈ Stmt.letNames b.stmts)
    (Eval.block (fuel + 1) fr b)
  := by
  rw [Eval.block]
  refine seq (fun s hs => (ih.stmt fr s).mono fun i n h => ⟨h.1, ?_⟩) _
  exact List.mem_filterMap.2 ⟨s, hs, h.2⟩

theorem succ (ih : ScopesDisciplined fuel) : ScopesDisciplined (fuel + 1) where
  expr := ih.expr_succ
  dot := ih.dot_succ
  apply := ih.apply_succ
  stmt := ih.stmt_succ
  block := ih.block_succ

end ScopesDisciplined

/-- Evaluation keeps its discipline at every fuel. -/
theorem scopesDisciplined :
  ∀ fuel, ScopesDisciplined fuel
  | 0 => .zero
  | fuel + 1 => (scopesDisciplined fuel).succ

/-- Assignment, once its value is computed: the innermost scope of the chain that binds the
name takes the value, and when no scope binds it the assignment is an error that changes
nothing. -/
theorem stmt_assign_run {fuel : Nat} {fr : Frame} {t : Token} {x : Ident} {e : Option Expr}
    {m m₁ : Machine} {v : Value} (he : (Eval.expr fuel fr e).run m = .ok v m₁)
    (hv : v.isError = false) :
  (Eval.stmt (fuel + 1) fr (.assign t x e)).run m =
    match fr.chain.find? fun i => (m₁.heap.scope i).binds x.name with
      | some i => .ok .void { m₁ with heap := m₁.heap.bind i x.name v }
      | none => .ok (.err "Can't assign value before declaration") m₁
  := by
  rw [Eval.stmt, EStateM.run_bind, he]
  simp only [hv, Bool.false_eq_true, if_false]
  have hheap : Run.heap.run m₁ = .ok m₁.heap m₁ := rfl
  rw [EStateM.run_bind, hheap]
  dsimp only
  have hl := Heap.lookup_isSome m₁.heap x.name fr.chain
  cases hf : fr.chain.find? fun i => (m₁.heap.scope i).binds x.name with
  | none =>
    have hnone : m₁.heap.lookup x.name fr.chain = none := by
      simpa [hf] using hl
    rw [hnone]
    rfl
  | some i =>
    obtain ⟨w, hw⟩ := Option.isSome_iff_exists.1 (by rw [hl, hf]; rfl :
      (m₁.heap.lookup x.name fr.chain).isSome)
    have hassign : m₁.heap.assign x.name v fr.chain = m₁.heap.bind i x.name v := by
      unfold Heap.assign
      rw [hf]
    rw [hw]
    show EStateM.Result.ok _ { m₁ with heap := m₁.heap.assign x.name v fr.chain } = _
    rw [hassign]

end Eval

open Run.Grows

/-- A program adds names only to the innermost scope of its frame: those its own `let`
statements bind. -/
theorem Program.eval_grows (p : Program) (fr : Frame) :
  Run.Grows (fun i n => fr.chain.head? = some i ∧ n ∈ Stmt.letNames p.stmts) (p.eval fr)
  := by
  refine statements (fun s hs => ((Eval.scopesDisciplined _).stmt fr s).mono fun i n h => ?_) _
  exact ⟨h.1, List.mem_filterMap.2 ⟨s, hs, h.2⟩⟩

/-- A round of the read-eval-print loop adds names only to the top-level scope. -/
theorem replRound_grows (fr : Frame) :
  Run.Grows (fun i _ => fr.chain.head? = some i) (replRound fr)
  := by
  unfold replRound
  refine (write _).bind fun _ => readLine.bind fun line => ?_
  dsimp only
  split
  case' isTrue => refine (forM_list (fun _ => write _) _).bind fun _ => ?_
  all_goals
    refine ((Program.eval_grows _ fr).mono fun i n h => h.1).bind fun v => ?_
    split
    · exact pure _
    · refine heap.bind fun _ => (lift _).bind fun _ => (write _).bind fun _ => ?_
      split <;> exact pure _

/-- The read-eval-print loop, over all the lines it reads, adds names only to the top-level
scope it makes, and no scope loses a name. -/
theorem Run.repl_grows (m : Machine) :
  (m.heap.newScope []).2.Grows (fun i _ => i = m.heap.scopes.size)
    (stateAfter Run.repl m).heap
  := by
  rw [Run.repl, stateAfter_bind_ok (Run.topFrame_run m)]
  have hloop := Run.Grows.loopFor (fun _ => replRound_grows ⟨[m.heap.scopes.size], false⟩)
  exact ((Run.Grows.get.bind fun mm => hloop (mm.input.length + 1) ()).mono
    fun _ _ h => (Option.some.inj h).symm) { m with heap := (m.heap.newScope []).2 }

/-- Scope discipline over every evaluation. No scope that exists when an evaluation starts
loses a name. An expression and a call add no name to such a scope. A statement adds only the
name its `let` binds, to the innermost scope of its frame. A block, a program and a line of the
read-eval-print loop add names to that scope only, and the loop, over all the lines it reads,
to the top-level scope it makes. So a name unbound along a frame's chain is
still unbound there after any expression. An assignment rebinds the name in the innermost
scope of the chain that binds it, and changes no scope when none binds it. -/
theorem scope_discipline :
  (∀ fuel fr e, Run.Grows (fun _ _ => False) (Eval.expr fuel fr e)) ∧
  (∀ fuel chain f args, Run.Grows (fun _ _ => False) (Eval.apply fuel chain f args)) ∧
  (∀ fuel fr s, Run.Grows (fun i n => fr.chain.head? = some i ∧ s.letName = some n)
    (Eval.stmt fuel fr s)) ∧
  (∀ fuel fr b, Run.Grows (fun i n => fr.chain.head? = some i ∧ n ∈ Stmt.letNames b.stmts)
    (Eval.block fuel fr b)) ∧
  (∀ (p : Program) fr,
    Run.Grows (fun i n => fr.chain.head? = some i ∧ n ∈ Stmt.letNames p.stmts) (p.eval fr)) ∧
  (∀ fr, Run.Grows (fun i _ => fr.chain.head? = some i) (replRound fr)) ∧
  (∀ m : Machine, (m.heap.newScope []).2.Grows (fun i _ => i = m.heap.scopes.size)
    (stateAfter Run.repl m).heap) ∧
  (∀ fuel fr e (m : Machine) name, (∀ i ∈ fr.chain, i < m.heap.scopes.size) →
    m.heap.lookup name fr.chain = none →
    (stateAfter (Eval.expr fuel fr e) m).heap.lookup name fr.chain = none) ∧
  (∀ fuel fr t x e (m m₁ : Machine) v, (Eval.expr fuel fr e).run m = .ok v m₁ →
    v.isError = false →
    (Eval.stmt (fuel + 1) fr (.assign t x e)).run m =
      match fr.chain.find? fun i => (m₁.heap.scope i).binds x.name with
      | some i => .ok .void { m₁ with heap := m₁.heap.bind i x.name v }
      | none => .ok (.err "Can't assign value before declaration") m₁)
  := ⟨fun fuel => (Eval.scopesDisciplined fuel).expr,
    fun fuel => (Eval.scopesDisciplined fuel).apply,
    fun fuel => (Eval.scopesDisciplined fuel).stmt,
    fun fuel => (Eval.scopesDisciplined fuel).block,
    Program.eval_grows,
    replRound_grows,
    Run.repl_grows,
    fun fuel fr e m _ hchain hl =>
      ((Eval.scopesDisciplined fuel).expr fr e m).lookup_eq_none hchain hl,
    fun _ _ _ _ _ _ _ _ he hv => Eval.stmt_assign_run he hv⟩

/-- In a frame whose inner scope is empty and whose outer scope binds `x`, the assignment
`x = 2` rebinds `x` in the outer scope, and a `let y` inside an `if` is not visible after it. -/
theorem scope_discipline_nested :
  let tok : Token := ⟨.ident, "x"⟩
  let m : Machine := { heap := ⟨#[[("x", .num (.int 1) 0)], []], #[], 32⟩ }
  let fr : Frame := ⟨[1, 0], false⟩
  let two : Option Expr := some (.number tok (.int 2))
  let ifLet : Option Expr :=
    some (.ifElse tok (some (.boolean tok true)) (.mk tok [.letStmt tok ⟨tok, "y"⟩ two none]) none)
  (Eval.stmt 2 fr (.assign tok ⟨tok, "x"⟩ two)).run m
      = .ok .void { m with heap := m.heap.bind 0 "x" (.num (.int 2) 0) } ∧
    (stateAfter (Eval.expr 4 fr ifLet) m).heap.lookup "y" fr.chain = none
  := by
  intro tok m fr two ifLet
  refine ⟨(scope_discipline.2.2.2.2.2.2.2.2 1 fr tok ⟨tok, "x"⟩ two m m _ rfl rfl).trans rfl, ?_⟩
  exact scope_discipline.2.2.2.2.2.2.2.1 4 fr ifLet m "y" (by decide) rfl

end Monkey
