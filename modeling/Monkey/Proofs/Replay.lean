import Monkey.Eval

/-!
# Runs that replay

The evaluator reaches the standard input only through the builtin `input`, and the output only
by adding text to it. So a run that gives a result from a machine with no input left has read
none, since reading then stops the run; and it gives the same result, leaves the same heap and
adds the same text when it starts from that heap with any input and any text already written
(`Run.Replays`).

The property is closed under the ways runs are put together (`Run.Replays.bind` and the loops),
and every operation of the machine but reading a line has it outright. One induction on the
depth of evaluation, in the shape of the evaluator, gives it for every expression, statement,
block and call (`Eval.replays`), and so for every program (`Program.eval_replays`).

This is what lets a session that writes between the statements it runs, such as the
read-eval-print loop with its prompts, be compared with one that writes nothing between them.
-/

namespace Monkey

/-- A run *replays* when, from a heap `h`, no input left and the output `o`, every result it
gives comes with no input read and some text `p` added to the output; and from the same heap
with any input and any output it gives the same result, leaves the same heap, keeps the input
and adds the same `p`. -/
def Run.Replays {α : Type} (x : Run α) : Prop :=
  ∀ (h : Heap) (o : String) (a : α) (m : Machine), x.run ⟨h, [], o⟩ = .ok a m →
    m.input = [] ∧ ∃ p, m.out = o ++ p ∧
      ∀ (i : List String) (o' : String), x.run ⟨h, i, o'⟩ = .ok a ⟨m.heap, i, o' ++ p⟩

namespace Run.Replays

variable {α β : Type}

/-- A run that only changes the heap, by a function of the heap. -/
theorem of_heap {x : Run α} (g : Heap → α × Heap)
    (hx : ∀ m : Machine, x.run m = .ok (g m.heap).1 { m with heap := (g m.heap).2 }) :
  Run.Replays x
  := by
  intro h o a m hrun
  rw [hx] at hrun
  cases hrun
  refine ⟨rfl, "", String.append_empty.symm, fun i o' => ?_⟩
  rw [hx, String.append_empty]

theorem pure (a : α) :
  Run.Replays (Pure.pure a : Run α)
  := of_heap (fun h => (a, h)) fun _ => rfl

theorem throw (f : Fault) :
  Run.Replays (MonadExcept.throw f : Run α)
  := by
  intro h o a m hrun
  cases hrun

theorem bind {x : Run α} {f : α → Run β} (hx : Run.Replays x) (hf : ∀ a, Run.Replays (f a)) :
  Run.Replays (x >>= f)
  := by
  intro h o b m hrun
  rw [EStateM.run_bind] at hrun
  cases hx₁ : x.run ⟨h, [], o⟩ with
  | error e m₁ => rw [hx₁] at hrun; cases hrun
  | ok a m₁ =>
    rw [hx₁] at hrun
    obtain ⟨hin₁, p₁, hout₁, hrep₁⟩ := hx h o a m₁ hx₁
    obtain ⟨h₁, i₁, o₁⟩ := m₁
    simp only at hin₁ hout₁
    subst hin₁ hout₁
    obtain ⟨hin₂, p₂, hout₂, hrep₂⟩ := hf a h₁ (o ++ p₁) b m hrun
    refine ⟨hin₂, p₁ ++ p₂, by rw [hout₂, String.append_assoc], fun i o' => ?_⟩
    rw [EStateM.run_bind, hrep₁ i o']
    dsimp only
    rw [hrep₂ i (o' ++ p₁), String.append_assoc]

theorem lift (r : Except Fault α) :
  Run.Replays (Run.lift r)
  := by
  cases r with
  | ok a => exact pure a
  | error e => exact throw e

/-- A run that starts by reading the heap replays when it does for every heap it may read. -/
theorem read {f : Heap → Run α} (hf : ∀ h, Run.Replays (f h)) :
  Run.Replays (Run.heap >>= f)
  := by
  intro h o a m hrun
  exact hf h h o a m hrun

theorem onHeap (g : Heap → Heap) :
  Run.Replays (Run.onHeap g)
  := of_heap (fun h => ((), g h)) fun _ => rfl

theorem fresh :
  Run.Replays Run.fresh
  := of_heap Heap.fresh fun _ => rfl

theorem newScope (b : Bindings) :
  Run.Replays (Run.newScope b)
  := of_heap (·.newScope b) fun _ => rfl

theorem newList (vs : Array Value) :
  Run.Replays (Run.newList vs)
  := of_heap (·.newList vs) fun _ => rfl

theorem newArray (vs : Array Value) :
  Run.Replays (Run.newArray vs)
  := bind (newList vs) fun _ => bind fresh fun _ => pure _

theorem write (s : String) :
  Run.Replays (Run.write s)
  := by
  intro h o a m hrun
  cases hrun
  exact ⟨rfl, s, rfl, fun _ _ => rfl⟩

/-- Reading a line with no input left stops the run, so it never gives a result there. -/
theorem readLine :
  Run.Replays Run.readLine
  := by
  intro h o a m hrun
  cases hrun

theorem loopFor {σ γ : Type} {round : σ → Run (Round σ γ)} (hround : ∀ s, Run.Replays (round s)) :
  ∀ bound s, Run.Replays (Run.loopFor bound round s)
  | 0, _ => throw _
  | bound + 1, s => by
    refine bind (hround s) fun r => ?_
    cases r with
    | next s' => exact loopFor hround bound s'
    | done a => exact pure a

theorem seq {γ : Type} {act : γ → Run Value} {ends : Value → Bool}
    (hact : ∀ a, Run.Replays (act a)) :
  ∀ l last, Run.Replays (Run.seq act ends l last)
  | [], last => pure last
  | a :: rest, _ => by
    refine bind (hact a) fun v => ?_
    split
    · exact pure v
    · exact seq hact rest v

theorem values {γ : Type} {act : γ → Run Value} (hact : ∀ a, Run.Replays (act a)) :
  ∀ l, Run.Replays (Run.values act l)
  | [] => pure _
  | a :: rest => by
    refine bind (hact a) fun v => ?_
    split
    · exact pure _
    · refine bind (values hact rest) fun r => ?_
      split <;> exact pure _

theorem forIn_list {γ δ : Type} {f : γ → δ → Run (ForInStep δ)}
    (hf : ∀ a b, Run.Replays (f a b)) :
  ∀ (l : List γ) (b : δ), Run.Replays (forIn l b f)
  | [], _ => pure _
  | a :: rest, b => by
    rw [List.forIn_cons]
    refine bind (hf a b) fun r => ?_
    cases r with
    | done b' => exact pure b'
    | yield b' => exact forIn_list hf rest b'

end Run.Replays

/-! ### The parts of evaluation -/

namespace Run.Replays

theorem made (v : Value) :
  Run.Replays (Eval.made v)
  := by
  unfold Eval.made
  split
  · split
    · exact bind fresh fun _ => pure _
    · exact pure _
  · exact pure _

theorem instantiate (sc : Nat) :
  Run.Replays (Eval.instantiate sc)
  := by
  unfold Eval.instantiate
  refine read fun h => bind (lift _) fun r => ?_
  exact bind (onHeap _) fun _ => bind fresh fun _ => pure _

theorem hashPairs {ev : Option Expr → Run Value} (hev : ∀ e, Run.Replays (ev e)) :
  ∀ pairs acc, Run.Replays (Eval.hashPairs ev pairs acc)
  | [], acc => bind fresh fun _ => pure _
  | (kn, vn) :: rest, acc => by
    rw [Eval.hashPairs]
    refine bind (hev kn) fun k => ?_
    split
    · exact pure k
    · split
      · exact bind (lift _) fun _ => pure _
      · refine bind (hev vn) fun v => ?_
        split
        · exact pure v
        · exact bind (lift _) fun key => hashPairs hev rest _

theorem fields {run : Stmt → Run Value} (hrun : ∀ s, Run.Replays (run s)) :
  ∀ l, Run.Replays (Eval.fields run l)
  | [] => pure true
  | s :: rest => by
    unfold Eval.fields
    split
    · exact bind (hrun _) fun _ => fields hrun rest
    · exact pure false

theorem optionally {run : Stmt → Run Value} (hrun : ∀ s, Run.Replays (run s))
    (s : Option Stmt) (dflt : Value) :
  Run.Replays (Eval.optionally run s dflt)
  := by
  cases s with
  | none => exact pure dflt
  | some s => exact hrun s

theorem statements {run : Stmt → Run Value} (hrun : ∀ s, Run.Replays (run s)) :
  ∀ l last, Run.Replays (Eval.statements run l last)
  | [], last => pure last
  | s :: rest, _ => by
    unfold Eval.statements
    refine bind (hrun s) fun r => ?_
    split
    · exact pure _
    · exact pure _
    · exact pure _
    · exact statements hrun rest _

theorem oneArray (name : String) (args : List Value) :
  Run.Replays (Builtin.oneArray name args)
  := by
  unfold Builtin.oneArray
  split
  · split
    · exact read fun h => pure _
    · exact bind (lift _) fun _ => pure _
  · exact pure _

/-- Every builtin but `input` keeps to the heap and the output; `input` reads a line, which
with no input left stops the run. -/
theorem builtin (b : Builtin) (args : List Value) :
  Run.Replays (b.call args)
  := by
  cases b with
  | len =>
    simp only [Builtin.call]
    split
    · exact pure _
    · exact read fun _ => pure _
    · exact bind (lift _) fun _ => pure _
    · exact pure _
  | first | last =>
    simp only [Builtin.call]
    refine bind (oneArray _ args) fun r => ?_
    split <;> exact pure _
  | rest =>
    simp only [Builtin.call]
    refine bind (oneArray _ args) fun r => ?_
    split
    · exact pure _
    · split
      · exact pure _
      · exact newArray _
  | push =>
    simp only [Builtin.call]
    split
    · split
      · exact bind (onHeap _) fun _ => bind fresh fun _ => pure _
      · exact bind (lift _) fun _ => pure _
    · exact pure _
  | update =>
    simp only [Builtin.call]
    split
    · split
      · split
        · refine read fun _ => ?_
          split
          all_goals
            split
            · exact pure _
            · split
              · exact bind (onHeap _) fun _ => pure _
              · exact throw _
        · exact bind (lift _) fun _ => pure _
      · exact bind (lift _) fun _ => pure _
    · exact pure _
  | exit => exact pure _
  | print | printl =>
    simp only [Builtin.call]
    refine bind (forIn_list (fun a _ => ?_) args _) fun _ => pure _
    exact read fun h => bind (lift _) fun _ => bind (write _) fun _ => pure _
  | str =>
    simp only [Builtin.call]
    split
    · exact read fun h => bind (lift _) fun _ => pure _
    · exact pure _
  | int =>
    simp only [Builtin.call]
    split <;> exact pure _
  | input =>
    simp only [Builtin.call]
    exact bind readLine fun _ => pure _

end Run.Replays

/-! ### Evaluation replays -/

namespace Eval

/-- Every evaluation with at most `fuel` levels of nesting replays. -/
structure ReplaysAt (fuel : Nat) : Prop where
  expr : ∀ fr e, Run.Replays (Eval.expr fuel fr e)
  dot : ∀ fr left right, Run.Replays (Eval.dot fuel fr left right)
  apply : ∀ chain f args, Run.Replays (Eval.apply fuel chain f args)
  stmt : ∀ fr s, Run.Replays (Eval.stmt fuel fr s)
  block : ∀ fr b, Run.Replays (Eval.block fuel fr b)

namespace ReplaysAt

open Run.Replays

variable {fuel : Nat}

theorem zero : ReplaysAt 0 where
  expr _ _ := throw _
  dot _ _ _ := throw _
  apply _ _ _ := throw _
  stmt _ _ := throw _
  block _ _ := throw _

theorem expr_succ (ih : ReplaysAt fuel) (fr : Frame) :
  ∀ e, Run.Replays (Eval.expr (fuel + 1) fr e)
  | none => pure _
  | some e => by
    cases e with
    | ident id =>
      rw [Eval.expr]
      refine read fun h => ?_
      split
      · exact pure _
      · split <;> exact pure _
    | number _ _ | string _ _ | boolean _ _ => exact pure _
    | prefixOp _ op right =>
      rw [Eval.expr]
      refine bind (ih.expr fr right) fun r => ?_
      split
      · exact pure r
      · exact bind (lift _) fun v => Run.Replays.made v
    | infixOp _ left op right =>
      rw [Eval.expr]
      split
      · exact ih.dot fr left right
      · refine bind (ih.expr fr right) fun r => ?_
        split
        · exact pure r
        · refine bind (ih.expr fr left) fun l => ?_
          split
          · exact pure l
          · exact bind (lift _) fun v => Run.Replays.made v
    | ifElse _ cond yes no =>
      rw [Eval.expr]
      refine bind (newScope _) fun inner => bind (ih.expr fr cond) fun c => ?_
      split
      · exact pure c
      · split
        · exact ih.block _ yes
        · split
          · exact ih.block _ _
          · exact pure _
    | function _ params body =>
      rw [Eval.expr]
      exact bind fresh fun _ => pure _
    | call _ callee args =>
      rw [Eval.expr]
      refine bind (ih.expr fr callee) fun f => ?_
      split
      · exact pure f
      · split
        · exact Run.Replays.instantiate _
        · split
          · exact throw _
          · refine bind (values (ih.expr fr) _) fun r => ?_
            split
            · exact pure _
            · exact ih.apply _ f _
    | array _ elems =>
      cases elems with
      | none =>
        rw [Eval.expr]
        exact throw _
      | some es =>
        rw [Eval.expr]
        refine bind (values (ih.expr fr) es) fun r => ?_
        split
        · exact pure _
        · exact newArray _
    | index _ target key =>
      rw [Eval.expr]
      refine bind (ih.expr fr target) fun l => ?_
      split
      · exact pure l
      · refine bind (ih.expr fr key) fun k => ?_
        split
        · exact pure k
        · exact read fun h => lift _
    | hash _ pairs =>
      rw [Eval.expr]
      exact Run.Replays.hashPairs (ih.expr fr) pairs []
    | whileLoop _ cond body =>
      rw [Eval.expr]
      refine bind (newScope _) fun inner => loopFor (fun result => ?_) _ _
      refine bind (ih.expr fr cond) fun c => ?_
      split
      · exact pure _
      · split
        · exact pure _
        · refine bind (ih.block _ body) fun r => ?_
          split <;> exact pure _
    | forLoop _ init cond step body =>
      rw [Eval.expr]
      refine bind (newScope _) fun inner => ?_
      have hpart : ∀ (s : Option Stmt) (d : Value),
          Run.Replays (Eval.optionally (Eval.stmt fuel ⟨inner :: fr.chain, true⟩) s d) :=
        Run.Replays.optionally (ih.stmt _)
      refine bind (hpart init _) fun i => ?_
      split
      · exact pure i
      · refine loopFor (fun result => ?_) _ _
        refine bind (hpart cond _) fun c => ?_
        split
        · exact pure _
        · split
          · exact pure _
          · refine bind (ih.block _ body) fun r => ?_
            split
            · exact pure _
            · exact pure _
            · exact pure _
            · exact pure _
            · refine bind (hpart step _) fun u => ?_
              split
              · exact pure _
              · split <;> exact pure _
    | classDef _ body =>
      rw [Eval.expr]
      refine bind (newScope _) fun sc => bind (Run.Replays.fields (ih.stmt _) _) fun ok => ?_
      split
      · exact bind fresh fun _ => pure _
      · exact pure _

theorem dot_succ (ih : ReplaysAt fuel) (fr : Frame) (left right : Option Expr) :
  Run.Replays (Eval.dot (fuel + 1) fr left right)
  := by
  rw [Eval.dot.eq_def]
  dsimp only
  split
  · refine read fun h => ?_
    split
    · split
      · exact read fun _ => pure _
      · refine bind (ih.expr _ _) fun f => ?_
        split
        · exact pure f
        · split
          · exact bind fresh fun _ => pure _
          · split
            · exact throw _
            · refine bind (values (ih.expr fr) _) fun r => ?_
              split
              · exact pure _
              · exact ih.apply _ f _
      · exact pure _
    · exact pure _
  · exact pure _

theorem apply_succ (ih : ReplaysAt fuel) (chain : List Nat) (f : Value) (args : List Value) :
  Run.Replays (Eval.apply (fuel + 1) chain f args)
  := by
  rw [Eval.apply.eq_def]
  dsimp only
  split
  · split
    · exact throw _
    · split
      · exact pure _
      · refine bind (newScope _) fun sc => bind (ih.block _ _) fun r => ?_
        split <;> exact pure _
  · exact builtin _ args
  · exact bind (lift _) fun _ => pure _

theorem stmt_succ (ih : ReplaysAt fuel) (fr : Frame) (s : Stmt) :
  Run.Replays (Eval.stmt (fuel + 1) fr s)
  := by
  cases s with
  | letStmt _ name value field =>
    rw [Eval.stmt]
    refine bind (ih.expr fr value) fun v => ?_
    split
    · exact pure v
    · split
      · refine read fun h => ?_
        split
        · split
          · exact bind (onHeap _) fun _ => pure _
          · exact pure _
        · exact pure _
      · dsimp only
        split
        · exact bind (onHeap _) fun _ => pure _
        · exact bind (pure ()) fun _ => pure _
  | returnStmt _ value =>
    cases value with
    | none =>
      rw [Eval.stmt]
      exact bind fresh fun _ => pure _
    | some e =>
      rw [Eval.stmt]
      refine bind (ih.expr fr _) fun v => ?_
      split
      · exact pure v
      · exact bind fresh fun _ => pure _
  | exprStmt _ e =>
    rw [Eval.stmt]
    exact ih.expr fr e
  | assign _ name value =>
    rw [Eval.stmt]
    refine bind (ih.expr fr value) fun v => ?_
    split
    · exact pure v
    · refine read fun h => ?_
      split
      · exact pure _
      · exact bind (onHeap _) fun _ => pure _
  | breakStmt | continueStmt =>
    rw [Eval.stmt]
    split <;> exact pure _

theorem block_succ (ih : ReplaysAt fuel) (fr : Frame) (b : Block) :
  Run.Replays (Eval.block (fuel + 1) fr b)
  := by
  rw [Eval.block]
  exact seq (ih.stmt fr) _ _

theorem succ (ih : ReplaysAt fuel) : ReplaysAt (fuel + 1) where
  expr := ih.expr_succ
  dot := ih.dot_succ
  apply := ih.apply_succ
  stmt := ih.stmt_succ
  block := ih.block_succ

end ReplaysAt

/-- Evaluation replays at every depth. -/
theorem replays :
  ∀ fuel, ReplaysAt fuel
  | 0 => ReplaysAt.zero
  | fuel + 1 => (replays fuel).succ

end Eval

/-- Running a program replays: from the same heap, with any input and after any output, it
does what it does with no input left and nothing written. -/
theorem Program.eval_replays (p : Program) (fr : Frame) :
  Run.Replays (p.eval fr)
  := Run.Replays.statements ((Eval.replays Eval.depth).stmt fr) p.stmts .void

end Monkey
