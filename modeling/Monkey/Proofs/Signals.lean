import Monkey.Proofs.ScopeGrowth

/-!
# Where the control signals go

The signals of `return`, `break` and `continue` are values, and they travel with the values:
a block stops at one and hands it up, a loop ends on `break` and goes on after `continue`, a
call unwraps a returned value and a program stops at one. But the places where a value is
*stored* (the value of a `let` or an assignment, a returned value, an array element, a hash
value, an argument) take what their expression gives, whatever it is. A conditional gives the
value of its block, and a loop ends with a returned value it meets, so a conditional or a loop
written at such a place can store a signal.

A tree *stores plain values* (`Expr.storesPlain`) when no place of it where a value is stored
holds a conditional or a loop. For such trees nothing else lets a signal out:

* a *calm* value (`Value.calm`) is no returned value, `break` or `continue`, nor a hash holding
  one, nor a function whose body could store one; a heap is calm (`Heap.Calm`) when all its
  scopes and lists hold calm values;
* evaluation keeps the heap calm (`Run.Keeps Heap.Calm`), a plain expression gives a calm
  value, a statement or block passes up only a calm value, a returned calm value, and, inside
  a loop, `break` and `continue` (`Value.Passes`); a loop passes up neither of the last two,
  a call gives a calm value, and so does a program run outside any loop.

The exit signal is calm: it is the value of a call of `exit` and is stored like any other.
-/

namespace Monkey

/-! ### Trees that store plain values -/

/-- An expression whose value is not that of a block: no conditional and no loop. -/
def Expr.isPlain : Expr → Bool
  | .ifElse .. | .whileLoop .. | .forLoop .. => false
  | _ => true

mutual

/-- Every place of the expression where a value is stored holds a plain expression. -/
def Expr.storesPlain : Expr → Bool
  | .ident _ | .number .. | .boolean .. | .string .. => true
  | .prefixOp _ _ right => Expr.storesPlainOpt right
  | .infixOp _ left _ right => Expr.storesPlainOpt left && Expr.storesPlainOpt right
  | .ifElse _ cond yes no =>
    Expr.storesPlainOpt cond && Block.storesPlain yes && Block.storesPlainOpt no
  | .function _ _ body => Block.storesPlain body
  | .call _ callee args => Expr.storesPlainOpt callee && Expr.storedPlainArgs args
  | .array _ elems => Expr.storedPlainArgs elems
  | .index _ target key => Expr.storesPlainOpt target && Expr.storesPlainOpt key
  | .hash _ pairs => Expr.storedPlainPairs pairs
  | .whileLoop _ cond body => Expr.storesPlainOpt cond && Block.storesPlain body
  | .forLoop _ init cond step body =>
    Stmt.storesPlainOpt init && Stmt.storesPlainOpt cond && Stmt.storesPlainOpt step &&
      Block.storesPlain body
  | .classDef _ body => Block.storesPlain body

/-- A hole stores nothing. -/
def Expr.storesPlainOpt : Option Expr → Bool
  | none => true
  | some e => e.storesPlain

/-- An expression at a place where its value is stored: plain, and storing plain values. -/
def Expr.storedPlain : Option Expr → Bool
  | none => true
  | some e => e.isPlain && e.storesPlain

/-- The arguments of a call or the elements of an array. -/
def Expr.storedPlainArgs : Option (List (Option Expr)) → Bool
  | none => true
  | some es => Expr.storedPlainList es

/-- Expressions at places where their values are stored. -/
def Expr.storedPlainList : List (Option Expr) → Bool
  | [] => true
  | e :: rest => Expr.storedPlain e && Expr.storedPlainList rest

/-- The pairs of a hash literal, whose values are stored. -/
def Expr.storedPlainPairs : List (Option Expr × Option Expr) → Bool
  | [] => true
  | (k, v) :: rest => Expr.storesPlainOpt k && Expr.storedPlain v && Expr.storedPlainPairs rest

/-- A statement stores plain values; the values of `let`, assignment and `return` are stored. -/
def Stmt.storesPlain : Stmt → Bool
  | .letStmt _ _ value _ => Expr.storedPlain value
  | .returnStmt _ value => Expr.storedPlain value
  | .exprStmt _ e => Expr.storesPlainOpt e
  | .assign _ _ value => Expr.storedPlain value
  | .breakStmt | .continueStmt => true

/-- An optional part of a `for` header. -/
def Stmt.storesPlainOpt : Option Stmt → Bool
  | none => true
  | some s => s.storesPlain

/-- Statements in order. -/
def Stmt.storesPlainList : List Stmt → Bool
  | [] => true
  | s :: rest => s.storesPlain && Stmt.storesPlainList rest

/-- A block stores plain values when its statements do. -/
def Block.storesPlain : Block → Bool
  | .mk _ stmts => Stmt.storesPlainList stmts

/-- An optional `else` block. -/
def Block.storesPlainOpt : Option Block → Bool
  | none => true
  | some b => b.storesPlain

end

/-- A program stores plain values when its statements do. -/
def Program.storesPlain (p : Program) : Bool := Stmt.storesPlainList p.stmts

theorem Stmt.storesPlainList_iff {ss : List Stmt} :
  Stmt.storesPlainList ss = true ↔ ∀ s ∈ ss, s.storesPlain = true
  := by
  induction ss with
  | nil => simp [Stmt.storesPlainList]
  | cons s rest ih => simp [Stmt.storesPlainList, ih]

theorem Block.storesPlain_iff {b : Block} :
  b.storesPlain = true ↔ ∀ s ∈ b.stmts, s.storesPlain = true
  := by
  cases b
  exact Stmt.storesPlainList_iff

theorem Expr.storedPlainList_iff {es : List (Option Expr)} :
  Expr.storedPlainList es = true ↔ ∀ e ∈ es, Expr.storedPlain e = true
  := by
  induction es with
  | nil => simp [Expr.storedPlainList]
  | cons e rest ih => simp [Expr.storedPlainList, ih]

theorem Expr.storedPlainPairs_iff {ps : List (Option Expr × Option Expr)} :
  Expr.storedPlainPairs ps = true ↔
    ∀ p ∈ ps, Expr.storesPlainOpt p.1 = true ∧ Expr.storedPlain p.2 = true
  := by
  induction ps with
  | nil => simp [Expr.storedPlainPairs]
  | cons p rest ih =>
    obtain ⟨k, v⟩ := p
    simp [Expr.storedPlainPairs, ih, and_assoc]

/-- A stored expression stores plain values. -/
theorem Expr.storesPlainOpt_of_storedPlain {e : Option Expr} (h : Expr.storedPlain e = true) :
  Expr.storesPlainOpt e = true
  := by
  cases e with
  | none => rfl
  | some e =>
    simp only [Expr.storedPlain, Bool.and_eq_true] at h
    exact h.2

/-! ### Calm values and heaps -/

mutual

/-- A value that is no returned value, `break` or `continue`, nor holds one: the pairs of a
hash hold calm values, and the body of a function stores plain values. -/
def Value.calm : Value → Bool
  | .returned .. | .breakSig _ | .continueSig _ => false
  | .function _ _ body => body.storesPlain
  | .hash _ pairs => Value.calmPairs pairs
  | _ => true

/-- The pairs of a hash, keys and values alike. -/
def Value.calmPairs : List (HashKey × Value × Value) → Bool
  | [] => true
  | (_, kv, w) :: rest => kv.calm && w.calm && Value.calmPairs rest

end

/-- What evaluation in a frame hands up to what runs it: a calm value, a returned calm value,
and, inside a loop, `break` and `continue`. -/
def Value.Passes (inLoop : Bool) : Value → Prop
  | .returned _ w => w.calm = true
  | .breakSig _ | .continueSig _ => inLoop = true
  | v => v.calm = true

/-- A function whose body, when called, stores plain values; every other value calls nothing
of the program's. -/
def Value.RunsPlain : Value → Prop
  | .function _ _ body => body.storesPlain = true
  | _ => True

namespace Value

theorem calmPairs_iff {ps : List (HashKey × Value × Value)} :
  calmPairs ps = true ↔ ∀ p ∈ ps, p.2.1.calm = true ∧ p.2.2.calm = true
  := by
  induction ps with
  | nil => simp [calmPairs]
  | cons p rest ih =>
    obtain ⟨k, kv, w⟩ := p
    simp [calmPairs, ih, and_assoc]

mutual

/-- Settling a calm value to hold a calm one leaves it calm. -/
theorem calm_settle {j : Nat} {w : Value} (hw : w.calm = true) :
  ∀ v : Value, v.calm = true → (settle j w v).calm = true
  | .hash k ps, hv => by
    rw [settle]
    split
    · exact hw
    · exact calmPairs_settle hw ps hv
  | .returned _ _, hv => by simp [calm] at hv
  | .num .., hv | .str _, hv | .bool .., hv | .null _, hv | .error _, hv | .array .., hv
  | .function .., hv | .builtin .., hv | .cls .., hv | .inst .., hv | .exitSig _, hv
  | .breakSig _, hv | .continueSig _, hv | .void, hv => hv

theorem calmPairs_settle {j : Nat} {w : Value} (hw : w.calm = true) :
  ∀ ps : List (HashKey × Value × Value), calmPairs ps = true →
    calmPairs (settlePairs j w ps) = true
  | [], _ => rfl
  | (k, kv, v) :: rest, h => by
    simp only [calmPairs, Bool.and_eq_true] at h
    simp only [settlePairs, calmPairs, Bool.and_eq_true]
    exact ⟨⟨calm_settle hw kv h.1.1, calm_settle hw v h.1.2⟩, calmPairs_settle hw rest h.2⟩

end

theorem passes_of_calm {v : Value} (h : v.calm = true) (inLoop : Bool) :
  v.Passes inLoop
  := by
  cases v <;> simp_all [calm, Passes]

theorem runsPlain_of_passes {v : Value} {inLoop : Bool} (h : v.Passes inLoop) :
  v.RunsPlain
  := by
  cases v <;> simp_all [calm, Passes, RunsPlain]

/-- Outside a loop, what passes up is calm or a returned calm value. -/
theorem calm_of_passes_false {v : Value} (h : v.Passes false) (hr : ∀ i w, v ≠ .returned i w) :
  v.calm = true
  := by
  cases v <;> simp_all [Passes]

@[simp] theorem calm_ofBool (b : Bool) :
  (ofBool b).calm = true
  := by
  cases b <;> rfl

@[simp] theorem calm_err (msg : String) :
  (err msg).calm = true
  := rfl

@[simp] theorem calm_nullVal :
  nullVal.calm = true
  := rfl

@[simp] theorem calm_exitVal :
  exitVal.calm = true
  := rfl

theorem calm_of_isHashable {v : Value} (h : v.isHashable = true) :
  v.calm = true
  := by
  cases v <;> simp_all [isHashable, calm]

/-- A value that passes up and is a hash is calm, and so are its pairs. -/
theorem calmPairs_of_passes {inLoop : Bool} {i : Nat} {ps : List (HashKey × Value × Value)}
    (h : (hash i ps).Passes inLoop) :
  calmPairs ps = true
  := by
  simpa [Passes, calm] using h

end Value

namespace Bindings

theorem mem_put {b : Bindings} {name : String} {v : Value} {p : String × Value}
    (hp : p ∈ b.put name v) :
  p ∈ b ∨ p.2 = v
  := by
  induction b with
  | nil =>
    simp only [put, List.mem_singleton] at hp
    exact Or.inr (by rw [hp])
  | cons q rest ih =>
    obtain ⟨n, w⟩ := q
    simp only [put] at hp
    split at hp
    · rcases List.mem_cons.1 hp with rfl | hp
      · exact Or.inr rfl
      · exact Or.inl (List.mem_cons_of_mem _ hp)
    · rcases List.mem_cons.1 hp with rfl | hp
      · exact Or.inl List.mem_cons_self
      · exact (ih hp).imp_left (List.mem_cons_of_mem _)

theorem get?_mem {b : Bindings} {name : String} {v : Value} (h : b.get? name = some v) :
  ∃ p ∈ b, p.2 = v
  := by
  induction b with
  | nil => simp at h
  | cons q rest ih =>
    simp only [get?] at h
    split at h
    · exact ⟨q, List.mem_cons_self, Option.some.inj h⟩
    · obtain ⟨p, hp, hv⟩ := ih h
      exact ⟨p, List.mem_cons_of_mem _ hp, hv⟩

/-- Bindings built by folding in values one at a time hold values satisfying `Q` when each
step adds only such values. -/
theorem holds_foldl {α : Type} {f : Bindings → α → Bindings} {A : α → Prop}
    {Q : Value → Prop} (hf : ∀ b a, A a → (∀ p ∈ b, Q p.2) → ∀ p ∈ f b a, Q p.2) :
  ∀ (l : List α) (b : Bindings), (∀ a ∈ l, A a) → (∀ p ∈ b, Q p.2) →
    ∀ p ∈ l.foldl f b, Q p.2
  | [], _, _, hb => hb
  | a :: rest, b, hl, hb =>
    holds_foldl hf rest (f b a) (fun x hx => hl x (List.mem_cons_of_mem a hx))
      (hf b a (hl a List.mem_cons_self) hb)

end Bindings

/-- What an element of an array changed in one place is: an old element, or the new one. -/
theorem Array.mem_modify_cases {α : Type} {xs : Array α} {i : Nat} {f : α → α} {x : α}
    (h : x ∈ xs.modify i f) :
  x ∈ xs ∨ ∃ y ∈ xs, x = f y
  := by
  obtain ⟨j, hj⟩ := Array.mem_iff_getElem?.1 h
  rw [Array.getElem?_modify] at hj
  split at hj
  · obtain ⟨y, hy, rfl⟩ := Option.map_eq_some_iff.1 hj
    exact Or.inr ⟨y, Array.mem_of_getElem? hy, rfl⟩
  · exact Or.inl (Array.mem_of_getElem? hj)

/-- No scope of the heap binds a name to a value that is not calm, and no list holds one. -/
structure Heap.Calm (h : Heap) : Prop where
  scopes : ∀ b ∈ h.scopes, ∀ p ∈ b, p.2.calm = true
  lists : ∀ l ∈ h.lists, ∀ v ∈ l, v.calm = true

namespace Heap.Calm

variable {h : Heap}

theorem empty :
  Heap.empty.Calm
  := ⟨by simp [Heap.empty], by simp [Heap.empty]⟩

theorem scope (hc : h.Calm) (i : Nat) :
  ∀ p ∈ h.scope i, p.2.calm = true
  := by
  intro p hp
  unfold Heap.scope at hp
  rw [Array.getD_eq_getD_getElem?] at hp
  cases hi : h.scopes[i]? with
  | none => simp [hi] at hp
  | some b =>
    rw [hi, Option.getD_some] at hp
    exact hc.scopes b (Array.mem_of_getElem? hi) p hp

theorem list (hc : h.Calm) (j : Nat) :
  ∀ v ∈ h.list j, v.calm = true
  := by
  intro v hv
  unfold Heap.list at hv
  rw [Array.getD_eq_getD_getElem?] at hv
  cases hj : h.lists[j]? with
  | none => simp [hj] at hv
  | some l =>
    rw [hj, Option.getD_some] at hv
    exact hc.lists l (Array.mem_of_getElem? hj) v hv

/-- What lookup finds in a calm heap is calm. -/
theorem lookup (hc : h.Calm) {name : String} {chain : List Nat} {v : Value}
    (hl : h.lookup name chain = some v) :
  v.calm = true
  := by
  induction chain with
  | nil => simp [Heap.lookup] at hl
  | cons i rest ih =>
    simp only [Heap.lookup] at hl
    split at hl
    · rename_i w hw
      obtain ⟨p, hp, rfl⟩ := Bindings.get?_mem hw
      cases hl
      exact hc.scope i p hp
    · exact ih hl

theorem get? (hc : h.Calm) {i : Nat} {name : String} {v : Value}
    (hv : (h.scope i).get? name = some v) :
  v.calm = true
  := by
  obtain ⟨p, hp, rfl⟩ := Bindings.get?_mem hv
  exact hc.scope i p hp

/-- A field read from a scope of a calm heap, or `void` for a field it lacks, is calm. -/
theorem field (hc : h.Calm) (i : Nat) (name : String) :
  (((h.scope i).get? name).getD .void).calm = true
  := by
  cases hv : (h.scope i).get? name with
  | none => rfl
  | some v => exact hc.get? hv

theorem bind (hc : h.Calm) (i : Nat) (name : String) {v : Value} (hv : v.calm = true) :
  (h.bind i name v).Calm
  := by
  refine ⟨fun b hb p hp => ?_, hc.lists⟩
  rcases Array.mem_modify_cases hb with hb | ⟨b₀, hb₀, rfl⟩
  · exact hc.scopes b hb p hp
  · rcases Bindings.mem_put hp with hp | hp
    · exact hc.scopes b₀ hb₀ p hp
    · rw [hp]; exact hv

theorem assign (hc : h.Calm) (name : String) {v : Value} (hv : v.calm = true)
    (chain : List Nat) :
  (h.assign name v chain).Calm
  := by
  unfold Heap.assign
  split
  · exact hc.bind _ _ hv
  · split
    · exact hc
    · exact hc.bind _ _ hv

theorem newScope (hc : h.Calm) {b : Bindings} (hb : ∀ p ∈ b, p.2.calm = true) :
  (h.newScope b).2.Calm
  := by
  refine ⟨fun b' hb' => ?_, hc.lists⟩
  rcases Array.mem_push.1 hb' with hb' | rfl
  · exact hc.scopes b' hb'
  · exact hb

theorem newList (hc : h.Calm) {vs : Array Value} (hvs : ∀ v ∈ vs, v.calm = true) :
  (h.newList vs).2.Calm
  := by
  refine ⟨hc.scopes, fun l hl => ?_⟩
  rcases Array.mem_push.1 hl with hl | rfl
  · exact hc.lists l hl
  · exact hvs

theorem append (hc : h.Calm) (i : Nat) {v : Value} (hv : v.calm = true) :
  (h.append i v).Calm
  := by
  refine ⟨hc.scopes, fun l hl w hw => ?_⟩
  rcases Array.mem_modify_cases (show l ∈ h.lists.modify i (·.push v) from hl) with
    hl | ⟨l₀, hl₀, rfl⟩
  · exact hc.lists l hl w hw
  · rcases Array.mem_push.1 hw with hw | rfl
    · exact hc.lists l₀ hl₀ w hw
    · exact hv

theorem setAt (hc : h.Calm) (i pos : Nat) {v : Value} (hv : v.calm = true) :
  (h.setAt i pos v).Calm
  := by
  refine ⟨hc.scopes, fun l hl w hw => ?_⟩
  rcases Array.mem_modify_cases (show l ∈ h.lists.modify i (·.set! pos v) from hl) with
    hl | ⟨l₀, hl₀, rfl⟩
  · exact hc.lists l hl w hw
  · rw [Array.set!_eq_setIfInBounds] at hw
    rcases Array.mem_or_eq_of_mem_setIfInBounds hw with hw | rfl
    · exact hc.lists l₀ hl₀ w hw
    · exact hv

theorem fresh (hc : h.Calm) :
  h.fresh.2.Calm
  := ⟨hc.scopes, hc.lists⟩

end Heap.Calm

/-! ### Runs that keep an invariant of the heap -/

/-- Every run of `x` from a machine whose heap satisfies `I` ends with a heap satisfying `I`,
whether it gives a result or stops with a fault, and a result it gives satisfies `Q`. -/
def Run.Keeps (I : Heap → Prop) {α : Type} (x : Run α) (Q : α → Prop) : Prop :=
  ∀ m : Machine, I m.heap → I (stateAfter x m).heap ∧ ∀ a m', x.run m = .ok a m' → Q a

namespace Run.Keeps

variable {I : Heap → Prop} {α β : Type} {Q Q' : α → Prop} {R : β → Prop}

theorem pure {a : α} (ha : Q a) :
  Run.Keeps I (Pure.pure a : Run α) Q
  := fun _ hm => ⟨hm, fun _ _ h => by cases h; exact ha⟩

theorem throw (f : Fault) :
  Run.Keeps I (MonadExcept.throw f : Run α) Q
  := fun _ hm => ⟨hm, fun _ _ h => nomatch h⟩

theorem bind {x : Run α} {f : α → Run β} (hx : Run.Keeps I x Q)
    (hf : ∀ a, Q a → Run.Keeps I (f a) R) :
  Run.Keeps I (x >>= f) R
  := by
  intro m hm
  obtain ⟨hI, hQ⟩ := hx m hm
  cases h : x.run m with
  | ok a m₁ =>
    rw [stateAfter_of_ok h] at hI
    obtain ⟨hI', hR⟩ := hf a (hQ a m₁ h) m₁ hI
    refine ⟨by rwa [stateAfter_bind_ok h], fun b m' hb => hR b m' ?_⟩
    rwa [EStateM.run_bind, h] at hb
  | error e m₁ =>
    rw [stateAfter_of_error h] at hI
    refine ⟨by rwa [stateAfter_bind_error h], fun b m' hb => ?_⟩
    rw [EStateM.run_bind, h] at hb
    cases hb

theorem mono {x : Run α} (hx : Run.Keeps I x Q) (hq : ∀ a, Q a → Q' a) :
  Run.Keeps I x Q'
  := fun m hm => ⟨(hx m hm).1, fun a m' h => hq a ((hx m hm).2 a m' h)⟩

theorem lift (r : Except Fault α) (hr : ∀ a, r = .ok a → Q a) :
  Run.Keeps I (Run.lift r) Q
  := by
  cases r with
  | ok a => exact pure (hr a rfl)
  | error e => exact throw e

/-- A computation that starts by reading the heap, judged with each heap it may read. -/
theorem read {f : Heap → Run α} (hf : ∀ h, I h → Run.Keeps I (f h) Q) :
  Run.Keeps I (Run.heap >>= f) Q
  := by
  intro m hm
  have hrun : Run.heap.run m = .ok m.heap m := rfl
  rw [stateAfter_bind_ok hrun]
  refine ⟨(hf m.heap hm m hm).1, fun a m' h => (hf m.heap hm m hm).2 a m' ?_⟩
  rwa [EStateM.run_bind, hrun] at h

/-- A computation that keeps the heap as it is. -/
theorem of_heap {x : Run α} (hx : ∀ m, (stateAfter x m).heap = m.heap)
    (hq : ∀ m a m', x.run m = .ok a m' → Q a) :
  Run.Keeps I x Q
  := fun m hm => ⟨by rw [hx m]; exact hm, hq m⟩

theorem write (s : String) :
  Run.Keeps I (Run.write s) fun _ => True
  := of_heap (fun _ => rfl) fun _ _ _ _ => trivial

theorem readLine :
  Run.Keeps I Run.readLine fun _ => True
  := by
  unfold Run.readLine
  refine bind (of_heap (fun _ => rfl) fun _ _ _ _ => trivial) fun _ _ => ?_
  split
  · exact throw _
  · exact bind (of_heap (fun _ => rfl) fun _ _ _ _ => trivial) fun _ _ => pure trivial

theorem onHeap {f : Heap → Heap} (hf : ∀ h, I h → I (f h)) :
  Run.Keeps I (Run.onHeap f) fun _ => True
  := fun _ hm => ⟨hf _ hm, fun _ _ _ => trivial⟩

/-- A loop keeps the invariant when each round does, the loop's state satisfying `S` and its
result `Q`, however many rounds it runs. -/
theorem loopFor {σ γ : Type} {round : σ → Run (Round σ γ)} {S : σ → Prop} {Q : γ → Prop}
    (hround : ∀ s, S s → Run.Keeps I (round s) fun r =>
      match r with
      | .next s' => S s'
      | .done a => Q a) :
  ∀ bound s, S s → Run.Keeps I (Run.loopFor bound round s) Q
  | 0, _, _ => throw _
  | bound + 1, s, hs => by
    refine bind (hround s hs) fun r hr => ?_
    cases r with
    | next s' => exact loopFor hround bound s' hr
    | done a => exact pure hr

theorem seq {γ : Type} {act : γ → Run Value} {ends : Value → Bool} {Q : Value → Prop} :
  ∀ {l : List γ}, (∀ a ∈ l, Run.Keeps I (act a) Q) → ∀ last, Q last →
    Run.Keeps I (Run.seq act ends l last) Q
  | [], _, _, hlast => pure hlast
  | a :: rest, hact, _, _ => by
    refine bind (hact a List.mem_cons_self) fun v hv => ?_
    split
    · exact pure hv
    · exact seq (fun b hb => hact b (List.mem_cons_of_mem a hb)) v hv

/-- The values of a list of actions: each is one that an action gave. -/
theorem values {γ : Type} {act : γ → Run Value} {Q : Value → Prop} :
  ∀ {l : List γ}, (∀ a ∈ l, Run.Keeps I (act a) Q) →
    Run.Keeps I (Run.values act l) fun r =>
      match r with
        | .ok vs => ∀ v ∈ vs, Q v
        | .error e => Q e
  | [], _ => pure (fun _ h => nomatch h)
  | a :: rest, hact => by
    refine bind (hact a List.mem_cons_self) fun v hv => ?_
    split
    · exact pure hv
    · refine bind (values fun b hb => hact b (List.mem_cons_of_mem a hb)) fun r hr => ?_
      split
      · rename_i vs
        refine pure fun w hw => ?_
        rcases List.mem_cons.1 hw with rfl | hw
        · exact hv
        · exact hr w hw
      · exact pure hr

theorem forIn_list {γ δ : Type} {f : γ → δ → Run (ForInStep δ)}
    (hf : ∀ a b, Run.Keeps I (f a b) fun _ => True) :
  ∀ (l : List γ) (b : δ), Run.Keeps I (forIn l b f) fun _ => True
  | [], _ => pure trivial
  | a :: rest, b => by
    rw [List.forIn_cons]
    refine bind (hf a b) fun r _ => ?_
    cases r with
    | done b' => exact pure trivial
    | yield b' => exact forIn_list hf rest b'

/-! The heap operations of a run keep the heap calm. -/

theorem fresh :
  Run.Keeps Heap.Calm Run.fresh fun _ => True
  := fun _ hm => ⟨Heap.Calm.fresh hm, fun _ _ _ => trivial⟩

theorem newScope {b : Bindings} (hb : ∀ p ∈ b, p.2.calm = true) :
  Run.Keeps Heap.Calm (Run.newScope b) fun _ => True
  := fun _ hm => ⟨Heap.Calm.newScope hm hb, fun _ _ _ => trivial⟩

theorem newArray {vs : Array Value} (hvs : ∀ v ∈ vs, v.calm = true) :
  Run.Keeps Heap.Calm (Run.newArray vs) (·.calm = true)
  := by
  refine bind (fun _ hm => ⟨Heap.Calm.newList hm hvs, fun _ _ _ => trivial⟩) fun _ _ => ?_
  exact bind fresh fun _ _ => pure rfl

end Run.Keeps

/-! ### A copy of a calm scope is calm -/

/-- Every successful run of a copy in progress from a state satisfying `S` ends in a state
satisfying `S`, with a result satisfying `Q`. A failed copy leaves no heap behind. -/
def Cloning.Holds (S : CloneState → Prop) {α : Type} (x : Cloning α) (Q : α → Prop) : Prop :=
  ∀ s a s', S s → x.run s = .ok a s' → S s' ∧ Q a

/-- A copy in progress whose heap is calm and whose copies made so far are calm. -/
def CloneState.Calm (s : CloneState) : Prop :=
  s.heap.Calm ∧ ∀ p ∈ s.objects, p.2.calm = true

namespace Cloning.Holds

variable {S : CloneState → Prop} {α β : Type} {Q : α → Prop} {R : β → Prop}

theorem pure {a : α} (ha : Q a) :
  Cloning.Holds S (Pure.pure a) Q
  := by
  intro s b s' hs hrun
  cases hrun
  exact ⟨hs, ha⟩

theorem throw (e : Fault) :
  Cloning.Holds S (MonadExcept.throw e : Cloning α) Q
  := by
  intro _ _ _ _ hrun
  cases hrun

theorem bind {x : Cloning α} {f : α → Cloning β} (hx : Cloning.Holds S x Q)
    (hf : ∀ a, Q a → Cloning.Holds S (f a) R) :
  Cloning.Holds S (x >>= f) R
  := by
  intro s b s' hs hrun
  rw [EStateM.run_bind] at hrun
  split at hrun
  · rename_i a s₁ hx₁
    obtain ⟨hs₁, ha⟩ := hx s a s₁ hs hx₁
    exact hf a ha s₁ b s' hs₁ hrun
  · cases hrun

/-- A step that first reads the state, judged on each state with the state it reads there. -/
theorem get_bind {f : CloneState → Cloning α}
    (hf : ∀ s a s', S s → (f s).run s = .ok a s' → S s' ∧ Q a) :
  Cloning.Holds S (MonadState.get >>= f) Q
  := fun s a s' hs hrun => hf s a s' hs hrun

theorem list_mapM {γ δ : Type} {f : γ → Cloning δ} {P : γ → Prop} {Q : δ → Prop}
    (hf : ∀ a, P a → Cloning.Holds S (f a) Q) :
  ∀ l : List γ, (∀ a ∈ l, P a) → Cloning.Holds S (l.mapM f) fun bs => ∀ b ∈ bs, Q b
  | [], _ => pure (fun _ h => nomatch h)
  | a :: rest, hl => by
    rw [List.mapM_cons]
    refine bind (hf a (hl a List.mem_cons_self)) fun b hb => ?_
    refine bind (list_mapM hf rest fun c hc => hl c (List.mem_cons_of_mem a hc)) fun bs hbs => ?_
    refine pure fun c hc => ?_
    rcases List.mem_cons.1 hc with rfl | hc
    · exact hb
    · exact hbs c hc

theorem array_mapM {γ δ : Type} {f : γ → Cloning δ} {P : γ → Prop} {Q : δ → Prop}
    (hf : ∀ a, P a → Cloning.Holds S (f a) Q) (as : Array γ) (has : ∀ a ∈ as, P a) :
  Cloning.Holds S (as.mapM f) fun bs => ∀ b ∈ bs, Q b
  := by
  rw [Array.mapM_eq_mapM_toList, map_eq_pure_bind]
  refine bind (list_mapM hf _ fun a ha => has a (Array.mem_toList_iff.1 ha)) fun bs hbs => ?_
  exact pure fun b hb => hbs b (List.mem_toArray.1 hb)

end Cloning.Holds

namespace CloneState.Calm

open Cloning.Holds

theorem freshId :
  Cloning.Holds CloneState.Calm Cloning.freshId fun _ => True
  := by
  intro s a s' hs hrun
  cases hrun
  exact ⟨⟨⟨hs.1.scopes, hs.1.lists⟩, hs.2⟩, trivial⟩

theorem keep (i : Nat) {w : Value} (hw : w.calm = true) :
  Cloning.Holds CloneState.Calm (Cloning.keep i w) fun _ => True
  := by
  intro s a s' hs hrun
  cases hrun
  refine ⟨⟨hs.1, fun p hp => ?_⟩, trivial⟩
  rcases List.mem_cons.1 hp with rfl | hp
  · exact hw
  · exact hs.2 p hp

theorem elements (i : Nat) :
  Cloning.Holds CloneState.Calm (Cloning.elements i) fun vs => ∀ v ∈ vs, v.calm = true
  := by
  intro s a s' hs hrun
  cases hrun
  exact ⟨hs, hs.1.list i⟩

theorem bindings (i : Nat) :
  Cloning.Holds CloneState.Calm (Cloning.bindings i) fun b => ∀ p ∈ b, p.2.calm = true
  := by
  intro s a s' hs hrun
  cases hrun
  exact ⟨hs, hs.1.scope i⟩

theorem listFor (i : Nat) :
  Cloning.Holds CloneState.Calm (Cloning.listFor i) fun _ => True
  := by
  unfold Cloning.listFor
  refine get_bind fun s a s' hs hrun => ?_
  split at hrun
  · cases hrun
    exact ⟨hs, trivial⟩
  · cases hrun
    refine ⟨⟨⟨hs.1.scopes, fun l hl => ?_⟩, hs.2⟩, trivial⟩
    rcases Array.mem_push.1 hl with hl | rfl
    · exact hs.1.lists l hl
    · exact fun _ h => nomatch h

theorem scopeFor (i : Nat) :
  Cloning.Holds CloneState.Calm (Cloning.scopeFor i) fun _ => True
  := by
  unfold Cloning.scopeFor
  refine get_bind fun s a s' hs hrun => ?_
  split at hrun
  · cases hrun
    exact ⟨hs, trivial⟩
  · cases hrun
    refine ⟨⟨⟨fun b hb => ?_, hs.1.lists⟩, hs.2⟩, trivial⟩
    rcases Array.mem_push.1 hb with hb | rfl
    · exact hs.1.scopes b hb
    · exact fun _ h => nomatch h

theorem fillList (j : Nat) {vs : Array Value} (hvs : ∀ v ∈ vs, v.calm = true) :
  Cloning.Holds CloneState.Calm (Cloning.fillList j vs) fun _ => True
  := by
  intro s a s' hs hrun
  cases hrun
  refine ⟨⟨⟨hs.1.scopes, fun l hl => ?_⟩, hs.2⟩, trivial⟩
  have hl' : l ∈ s.heap.lists.setIfInBounds j vs := by
    simpa [Array.set!_eq_setIfInBounds] using hl
  rcases Array.mem_or_eq_of_mem_setIfInBounds hl' with hl | rfl
  · exact hs.1.lists l hl
  · exact hvs

theorem fillScope (j : Nat) {b : Bindings} (hb : ∀ p ∈ b, p.2.calm = true) :
  Cloning.Holds CloneState.Calm (Cloning.fillScope j b) fun _ => True
  := by
  intro s a s' hs hrun
  cases hrun
  refine ⟨⟨⟨fun b' hb' => ?_, hs.1.lists⟩, hs.2⟩, trivial⟩
  have hb'' : b' ∈ s.heap.scopes.setIfInBounds j b := by
    simpa [Heap.setScope, Array.set!_eq_setIfInBounds] using hb'
  rcases Array.mem_or_eq_of_mem_setIfInBounds hb'' with hb' | rfl
  · exact hs.1.scopes b' hb'
  · exact hb

/-- Settling the copy to hold a calm value keeps it calm. -/
theorem settle (j : Nat) {w : Value} (hw : w.calm = true) :
  Cloning.Holds CloneState.Calm (Cloning.settle j w) fun _ => True
  := by
  intro s a s' hs hrun
  cases hrun
  have hQ : ∀ v : Value, v.calm = true → (Value.settle j w v).calm = true :=
    Value.calm_settle hw
  exact ⟨⟨⟨CloneState.settle_scopes hQ hs.1.scopes, CloneState.settle_lists hQ hs.1.lists⟩,
    CloneState.settle_objects hQ hs.2⟩, trivial⟩

theorem calm_withIdent {v : Value} (hv : v.calm = true) (j : Nat) :
  (v.withIdent j).calm = true
  := by
  cases v <;> simp_all [Value.withIdent, Value.calm]

/-- The copy of a calm value is calm, and so is everything the copy puts in the heap. -/
theorem value (fuel : Nat) :
  ∀ v, v.calm = true → Cloning.Holds CloneState.Calm (Cloning.value fuel v) (·.calm = true)
  := by
  induction fuel with
  | zero => exact fun _ _ => throw _
  | succ fuel ih =>
    have hbind : ∀ p : String × Value, p.2.calm = true →
        Cloning.Holds CloneState.Calm (do Pure.pure (p.1, ← Cloning.value fuel p.2))
          fun q => q.2.calm = true :=
      fun p hp => bind (ih p.2 hp) fun _ hw => pure hw
    intro v hv
    unfold Cloning.value
    split
    · exact pure hv
    · refine get_bind fun s a s' hs hrun => ?_
      split at hrun
      · rename_i w hw
        cases hrun
        obtain ⟨l₁, l₂, hl, -⟩ := List.lookup_eq_some_iff.1 hw
        exact ⟨hs, hs.2 _ (hl ▸ List.mem_append_right _ List.mem_cons_self)⟩
      · refine (?_ : Cloning.Holds CloneState.Calm _ (fun w : Value => w.calm = true))
          s a s' hs hrun
        split
        · refine bind freshId fun j _ => bind (listFor _) fun p _ => ?_
          refine bind (keep _ rfl) fun _ _ => ?_
          dsimp only
          split
          · refine bind (elements _) fun vs hvs => ?_
            refine bind (array_mapM ih vs hvs) fun ws hws => ?_
            exact bind (fillList _ hws) fun _ _ => pure rfl
          · exact pure rfl
        · refine bind freshId fun j _ => bind (scopeFor _) fun p _ => ?_
          refine bind (keep _ rfl) fun _ _ => ?_
          dsimp only
          split
          · refine bind (bindings _) fun b hb => ?_
            refine bind (list_mapM hbind b hb) fun b' hb' => ?_
            exact bind (fillScope _ hb') fun _ _ => pure rfl
          · exact pure rfl
        · refine bind freshId fun j _ => bind (scopeFor _) fun p _ => ?_
          refine bind (keep _ rfl) fun _ _ => ?_
          dsimp only
          split
          · refine bind (bindings _) fun b hb => ?_
            refine bind (list_mapM hbind b hb) fun b' hb' => ?_
            exact bind (fillScope _ hb') fun _ _ => pure rfl
          · exact pure rfl
        · rename_i ps _
          have hps := Value.calmPairs_iff.1 hv
          refine bind freshId fun j _ => bind (keep _ rfl) fun _ _ => ?_
          refine bind (list_mapM (P := fun q => q.2.1.calm = true ∧ q.2.2.calm = true)
            (Q := fun q => q.2.1.calm = true ∧ q.2.2.calm = true) (fun q hq => ?_) ps hps)
            fun ps' hps' => ?_
          · obtain ⟨k, kv, w⟩ := q
            exact bind (ih kv hq.1) fun _ hkv => bind (ih w hq.2) fun _ hw => pure ⟨hkv, hw⟩
          · have hcalm : (Value.hash j ps').calm = true := Value.calmPairs_iff.2 hps'
            exact bind (settle j hcalm) fun _ _ => pure hcalm
        · simp [Value.calm] at hv
        · exact bind freshId fun j _ => bind (keep _ (calm_withIdent hv j)) fun _ _ =>
            pure (calm_withIdent hv j)

/-- The copy of a binding of a calm scope is calm. -/
theorem binding (fuel : Nat) (p : String × Value) (hp : p.2.calm = true) :
  Cloning.Holds CloneState.Calm (do Pure.pure (p.1, ← Cloning.value fuel p.2))
    fun q => q.2.calm = true
  := bind (value fuel p.2 hp) fun _ hw => pure hw

end CloneState.Calm

/-- The deep copy of a scope of a calm heap leaves a calm heap. -/
theorem Heap.Calm.cloneScope {h h' : Heap} {i c : Nat} (hh : h.Calm)
    (hc : h.cloneScope i = .ok (c, h')) :
  h'.Calm
  := by
  unfold Heap.cloneScope at hc
  dsimp only at hc
  split at hc
  · rename_i c' s hrun
    obtain ⟨-, rfl⟩ := Prod.mk.inj (Except.ok.inj hc)
    have hs : CloneState.Calm { heap := h } := ⟨hh, fun _ hp => nomatch hp⟩
    refine (?_ : Cloning.Holds CloneState.Calm _ fun _ => True) _ _ _ hs hrun |>.1.1
    refine Cloning.Holds.bind (CloneState.Calm.scopeFor i) fun p _ => ?_
    refine Cloning.Holds.bind (Cloning.Holds.list_mapM (CloneState.Calm.binding _) _
      (hh.scope i)) fun b hb => ?_
    exact Cloning.Holds.bind (CloneState.Calm.fillScope _ hb) fun _ _ => Cloning.Holds.pure trivial
  · cases hc

/-! ### What the operations give -/

/-- A computation that may fail gives, when it succeeds, a value satisfying `P`. -/
def Except.Gives {ε α : Type} (P : α → Prop) (x : Except ε α) : Prop := ∀ a, x = .ok a → P a

namespace Except.Gives

variable {ε α β : Type} {P : β → Prop}

theorem pure {b : β} (h : P b) :
  Except.Gives P (Pure.pure b : Except ε β)
  := fun _ hb => by cases hb; exact h

theorem bind {x : Except ε α} {f : α → Except ε β}
    (hf : ∀ a, x = .ok a → Except.Gives P (f a)) :
  Except.Gives P (x >>= f)
  := by
  intro b hb
  cases hx : x with
  | error e => rw [hx] at hb; cases hb
  | ok a => rw [hx] at hb; exact hf a hx b hb

theorem ite {c : Prop} [Decidable c] {x y : Except ε β} (hx : c → Except.Gives P x)
    (hy : ¬c → Except.Gives P y) :
  Except.Gives P (if c then x else y)
  := by
  by_cases h : c
  · rw [if_pos h]; exact hx h
  · rw [if_neg h]; exact hy h

end Except.Gives

/-- A failing computation lifted into a run keeps every invariant. -/
theorem Run.Keeps.lift_gives {I : Heap → Prop} {α : Type} {x : Except Fault α} {Q : α → Prop}
    (hx : Except.Gives Q x) :
  Run.Keeps I (Run.lift x) Q
  := Run.Keeps.lift x hx

namespace Value

theorem calm_of_isError {v : Value} (h : v.isError = true) :
  v.calm = true
  := by
  cases v <;> simp_all [isError, calm]

@[simp] theorem calm_falseVal :
  falseVal.calm = true
  := rfl

@[simp] theorem calm_trueVal :
  trueVal.calm = true
  := rfl

/-- Inside a loop, what passes up and is no signal is calm. -/
theorem calm_of_passes_true {v : Value} (h : v.Passes true) (hb : ∀ i, v ≠ breakSig i)
    (hc : ∀ i, v ≠ continueSig i) (hr : ∀ i w, v ≠ returned i w) :
  v.calm = true
  := by
  cases v <;> simp_all [Passes]

theorem calmPairs_storePair {key : HashKey} {kv v : Value} (hkv : kv.calm = true)
    (hv : v.calm = true) :
  ∀ {ps : List (HashKey × Value × Value)}, calmPairs ps = true →
    calmPairs (storePair key kv v ps) = true
  | [], _ => by simp [storePair, calmPairs, hkv, hv]
  | (k, kv', v') :: rest, hps => by
    simp only [calmPairs, Bool.and_eq_true] at hps
    simp only [storePair]
    split
    · simp [calmPairs, hkv, hv, hps.2]
    · simp [calmPairs, hps.1.1, hps.1.2, calmPairs_storePair hkv hv hps.2]

/-- An element of a list of calm values, or `null`. -/
theorem getD_calm {xs : Array Value} (hxs : ∀ v ∈ xs, v.calm = true) (i : Nat) :
  (xs[i]?.getD nullVal).calm = true
  := by
  cases hv : xs[i]? with
  | none => rfl
  | some v => exact hxs v (Array.mem_of_getElem? hv)

theorem pairValue?_calm {key : HashKey} {ps : List (HashKey × Value × Value)}
    (hps : calmPairs ps = true) {v : Value} (h : pairValue? key ps = some v) :
  v.calm = true
  := by
  induction ps with
  | nil => simp [pairValue?] at h
  | cons p rest ih =>
    obtain ⟨k, kv, w⟩ := p
    simp only [calmPairs, Bool.and_eq_true] at hps
    simp only [pairValue?] at h
    split at h
    · cases h; exact hps.1.2
    · exact ih hps.2 h

end Value

namespace Eval

open Except.Gives

theorem arith_calm (r : Except ArithError Number) :
  Except.Gives (·.calm = true) (arith r)
  := by
  unfold arith
  split
  · exact pure rfl
  · exact fun _ h => nomatch h

theorem numeric_calm (op : String) (a b : Number) :
  Except.Gives (·.calm = true) (numeric op a b)
  := by
  simp only [numeric]
  repeat' (first
    | exact arith_calm _
    | refine ite (fun _ => ?_) (fun _ => ?_)
    | exact pure (Value.calm_ofBool _)
    | exact pure rfl)

theorem strings_calm (op a b : String) :
  (strings op a b).calm = true
  := by
  unfold strings
  repeat' split
  all_goals simp [Value.calm]

/-- A prefix operator gives a Boolean, a number or an error. -/
theorem prefixOp_calm (op : String) (r : Value) :
  Except.Gives (·.calm = true) (prefixOp op r)
  := by
  unfold prefixOp
  repeat' (first
    | refine ite (fun _ => ?_) (fun _ => ?_)
    | refine bind fun _ _ => ?_
    | exact pure (Value.calm_ofBool _)
    | exact pure rfl
    | split)

/-- An infix operator gives a Boolean, a number, a string or an error, whatever its operands. -/
theorem infixOp_calm (op : String) (l r : Value) :
  Except.Gives (·.calm = true) (infixOp op l r)
  := by
  unfold infixOp
  refine bind fun lt _ => ?_
  extract_lets onAny onStrings
  have hany : ∀ u, Except.Gives (·.calm = true) (onAny u) := fun _ => by
    refine ite (fun _ => pure (Value.calm_ofBool _)) fun _ => ?_
    refine ite (fun _ => pure (Value.calm_ofBool _)) fun _ => ?_
    refine ite (fun _ => bind fun _ _ => ite (fun _ => pure rfl) fun _ =>
      bind fun _ _ => pure (Value.calm_ofBool _)) fun _ => ?_
    refine ite (fun _ => bind fun _ _ => ite (fun _ => pure rfl) fun _ =>
      bind fun _ _ => pure (Value.calm_ofBool _)) fun _ => ?_
    exact bind fun _ _ => ite (fun _ => pure rfl) fun _ => pure rfl
  have hstrings : ∀ u, Except.Gives (·.calm = true) (onStrings u) := fun _ => by
    refine ite (fun _ => bind fun _ _ => ite (fun _ => ?_) fun _ => hany ()) fun _ => hany ()
    split
    · exact pure (strings_calm _ _ _)
    · exact hany ()
  refine ite (fun _ => bind fun _ _ => ite (fun _ => ?_) fun _ => hstrings ()) fun _ => hstrings ()
  split
  · exact numeric_calm _ _ _
  · exact hstrings ()

/-- An element of a list, or `null`. -/
theorem elementAt_calm {elems : Array Value} (hvs : ∀ v ∈ elems, v.calm = true) (pos : Number) :
  Except.Gives (·.calm = true) (elementAt elems pos)
  := by
  unfold elementAt
  refine ite (fun _ => pure rfl) (fun _ => ?_)
  split
  · refine pure ?_
    rw [Array.getD_eq_getD_getElem?]
    exact Value.getD_calm hvs _
  · exact fun _ h => nomatch h

/-- Indexing a calm heap gives an element of a list, a value of a calm hash, `null` or an
error. -/
theorem index_calm {h : Heap} (hh : h.Calm) {l : Value} {inLoop : Bool} (hl : l.Passes inLoop)
    (k : Value) :
  Except.Gives (·.calm = true) (index h l k)
  := by
  unfold index
  refine bind fun _ _ => ?_
  split
  · refine bind fun _ _ => ?_
    split
    · exact elementAt_calm (hh.list _) _
    · exact pure rfl
  · refine ite (fun _ => bind fun _ _ => pure ?_) (fun _ => bind fun _ _ => pure rfl)
    cases hv : pairValue? _ _ with
    | none => rfl
    | some v => exact Value.pairValue?_calm (Value.calmPairs_of_passes hl) hv
  · exact pure rfl

end Eval

namespace Run.Keeps

open Eval

/-- A value that an operation made, with its identity. -/
theorem made {v : Value} (hv : v.calm = true) :
  Run.Keeps Heap.Calm (Eval.made v) (·.calm = true)
  := by
  unfold Eval.made
  split
  · split
    · exact bind fresh fun _ _ => pure rfl
    · exact pure hv
  · exact pure hv

/-- A new instance owns a copy of the class's scope, which is calm. -/
theorem instantiate (sc : Nat) :
  Run.Keeps Heap.Calm (Eval.instantiate sc) (·.calm = true)
  := by
  unfold Eval.instantiate
  refine read fun h hh => ?_
  refine bind (lift_gives (Q := fun p => p.2.Calm) fun p hp => ?_) fun p hp => ?_
  · exact Heap.Calm.cloneScope hh hp
  · refine bind (onHeap fun _ _ => hp) fun _ _ => ?_
    exact bind fresh fun _ _ => pure rfl

theorem hashPairs {ev : Option Expr → Run Value} {pairs : List (Option Expr × Option Expr)}
    (hev : ∀ kn vn, (kn, vn) ∈ pairs →
      Run.Keeps Heap.Calm (ev kn) (fun _ => True) ∧ Run.Keeps Heap.Calm (ev vn) (·.calm = true)) :
  ∀ acc, Value.calmPairs acc = true →
    Run.Keeps Heap.Calm (Eval.hashPairs ev pairs acc) (·.calm = true)
  := by
  induction pairs with
  | nil => exact fun acc hacc => bind fresh fun _ _ => pure hacc
  | cons p rest ih =>
    obtain ⟨kn, vn⟩ := p
    intro acc hacc
    have ⟨hk, hv⟩ := hev kn vn List.mem_cons_self
    unfold Eval.hashPairs
    refine bind hk fun k _ => ?_
    split
    · exact pure (Value.calm_of_isError ‹_›)
    · split
      · exact bind (lift_gives fun _ _ => trivial) fun _ _ => pure rfl
      · rename_i hhash
        refine bind hv fun v hvc => ?_
        split
        · exact pure hvc
        · refine bind (lift_gives fun _ _ => trivial) fun key _ => ?_
          refine ih (fun kn' vn' hm => hev kn' vn' (List.mem_cons_of_mem _ hm)) _ ?_
          exact Value.calmPairs_storePair (Value.calm_of_isHashable (by simpa using hhash)) hvc hacc

theorem fields {run : Stmt → Run Value} {ss : List Stmt}
    (hrun : ∀ s ∈ ss, Run.Keeps Heap.Calm (run s) fun _ => True) :
  Run.Keeps Heap.Calm (Eval.fields run ss) fun _ => True
  := by
  induction ss with
  | nil => exact pure trivial
  | cons s rest ih =>
    unfold Eval.fields
    split
    · exact bind (hrun _ List.mem_cons_self) fun _ _ =>
        ih fun t ht => hrun t (List.mem_cons_of_mem _ ht)
    · exact pure trivial

/-- A program run outside any loop: what its statements pass up is calm, or a returned calm
value, which ends the program with that value. -/
theorem statements {run : Stmt → Run Value} {ss : List Stmt}
    (hrun : ∀ s ∈ ss, Run.Keeps Heap.Calm (run s) (Value.Passes false)) :
  ∀ last, last.calm = true →
    Run.Keeps Heap.Calm (Eval.statements run ss last) (·.calm = true)
  := by
  induction ss with
  | nil => exact fun _ hlast => pure hlast
  | cons s rest ih =>
    intro _ _
    unfold Eval.statements
    refine bind (hrun s List.mem_cons_self) fun r hr => ?_
    split
    · exact pure hr
    · exact pure rfl
    · exact pure rfl
    · rename_i hret _ _
      exact ih (fun t ht => hrun t (List.mem_cons_of_mem s ht)) r
        (Value.calm_of_passes_false hr hret)

theorem optionally {run : Stmt → Run Value} {s : Option Stmt} {d : Value} {Q : Value → Prop}
    (hrun : ∀ t, s = some t → Run.Keeps Heap.Calm (run t) Q) (hd : Q d) :
  Run.Keeps Heap.Calm (Eval.optionally run s d) Q
  := by
  cases s with
  | none => exact pure hd
  | some t => exact hrun t rfl

/-! ### Builtins -/

theorem oneArray (name : String) (args : List Value) :
  Run.Keeps Heap.Calm (Builtin.oneArray name args) fun r =>
    match r with
      | .ok (_, vs) => ∀ v ∈ vs, v.calm = true
      | .error e => e.calm = true
  := by
  unfold Builtin.oneArray
  split
  · split
    · exact read fun h hh => pure (hh.list _)
    · exact bind (lift_gives fun _ _ => trivial) fun _ _ => pure rfl
  · exact pure rfl

/-- The builtins, given calm arguments, keep the heap calm and give calm values: they store
their arguments only in lists, and give elements of lists, numbers, strings, `null`, errors
and the exit signal. -/
theorem builtin (b : Builtin) {args : List Value} (hargs : ∀ v ∈ args, v.calm = true) :
  Run.Keeps Heap.Calm (b.call args) (·.calm = true)
  := by
  cases b with
  | len =>
    simp only [Builtin.call]
    split
    · exact pure rfl
    · exact read fun _ _ => pure rfl
    · exact bind (lift_gives fun _ _ => trivial) fun _ _ => pure rfl
    · exact pure rfl
  | first =>
    simp only [Builtin.call]
    refine bind (oneArray _ args) fun r hr => ?_
    split
    · exact pure hr
    · exact pure (Value.getD_calm hr 0)
  | last =>
    simp only [Builtin.call]
    refine bind (oneArray _ args) fun r hr => ?_
    split
    · exact pure hr
    · refine pure ?_
      rw [Array.back?_eq_getElem?]
      exact Value.getD_calm hr _
  | rest =>
    simp only [Builtin.call]
    refine bind (oneArray _ args) fun r hr => ?_
    split
    · exact pure hr
    · split
      · exact pure rfl
      · refine newArray fun v hv => ?_
        rename_i vs _ _
        obtain ⟨k, _, rfl⟩ := Array.mem_extract_iff_getElem.1 hv
        exact hr _ (Array.getElem_mem _)
  | push =>
    simp only [Builtin.call]
    split
    · split
      · refine bind (onHeap fun h hh => hh.append _ (hargs _ ?_)) fun _ _ => ?_
        · simp
        · exact bind fresh fun _ _ => pure rfl
      · exact bind (lift_gives fun _ _ => trivial) fun _ _ => pure rfl
    · exact pure rfl
  | update =>
    simp only [Builtin.call]
    split
    · split
      · split
        · refine read fun _ _ => ?_
          split
          all_goals
            split
            · exact pure rfl
            · split
              · refine bind (onHeap fun h hh => hh.setAt _ _ (hargs _ ?_)) fun _ _ => pure rfl
                simp
              · exact throw _
        · exact bind (lift_gives fun _ _ => trivial) fun _ _ => pure rfl
      · exact bind (lift_gives fun _ _ => trivial) fun _ _ => pure rfl
    · exact pure rfl
  | exit => exact pure rfl
  | print | printl =>
    simp only [Builtin.call]
    refine bind (forIn_list (fun a _ => ?_) args _) fun _ _ => pure rfl
    exact read fun _ _ => bind (lift_gives fun _ _ => trivial) fun _ _ =>
      bind (write _) fun _ _ => pure trivial
  | str =>
    simp only [Builtin.call]
    split
    · exact read fun _ _ => bind (lift_gives fun _ _ => trivial) fun _ _ => pure rfl
    · exact pure rfl
  | int =>
    simp only [Builtin.call]
    split
    · refine pure ?_
      unfold readNumber
      repeat' split
      all_goals rfl
    · exact pure rfl
    · exact pure rfl
  | input =>
    simp only [Builtin.call]
    exact bind readLine fun _ _ => pure rfl

end Run.Keeps

/-! ### Evaluation -/

/-- Whether an optional expression is plain; a hole is. -/
def Expr.plainOpt : Option Expr → Bool
  | none => true
  | some e => e.isPlain

/-- What the value of an expression may be: a plain expression gives a calm value, and a
conditional or a loop passes up what its block does. -/
def Value.Fits (inLoop : Bool) (e : Option Expr) (v : Value) : Prop :=
  if Expr.plainOpt e = true then v.calm = true else v.Passes inLoop

namespace Value.Fits

variable {inLoop : Bool} {e : Option Expr} {v : Value}

theorem of_calm (hv : v.calm = true) :
  v.Fits inLoop e
  := by
  unfold Fits
  split
  · exact hv
  · exact passes_of_calm hv inLoop

theorem of_passes (hv : v.Passes inLoop) (he : Expr.plainOpt e = false) :
  v.Fits inLoop e
  := by
  simp [Fits, he, hv]

theorem passes (hv : v.Fits inLoop e) :
  v.Passes inLoop
  := by
  unfold Fits at hv
  split at hv
  · exact passes_of_calm hv inLoop
  · exact hv

/-- A stored expression gives a calm value. -/
theorem calm (he : Expr.storedPlain e = true) (hv : v.Fits inLoop e) :
  v.calm = true
  := by
  cases e with
  | none => simpa [Fits, Expr.plainOpt] using hv
  | some e =>
    simp only [Expr.storedPlain, Bool.and_eq_true] at he
    simpa [Fits, Expr.plainOpt, he.1] using hv

end Value.Fits

namespace Eval

open Run.Keeps

/-- What evaluation with a given fuel does with the signals, on trees that store plain values
and from calm heaps: the heap stays calm, and the values are as `Value.Fits` and
`Value.Passes` say; a call gives a calm value. -/
structure Confines (fuel : Nat) : Prop where
  expr : ∀ fr e, Expr.storesPlainOpt e = true →
    Run.Keeps Heap.Calm (Eval.expr fuel fr e) (Value.Fits fr.inLoop e)
  dot : ∀ fr left right, Expr.storesPlainOpt left = true → Expr.storesPlainOpt right = true →
    Run.Keeps Heap.Calm (Eval.dot fuel fr left right) (·.calm = true)
  apply : ∀ chain f args, f.RunsPlain → (∀ v ∈ args, v.calm = true) →
    Run.Keeps Heap.Calm (Eval.apply fuel chain f args) (·.calm = true)
  stmt : ∀ fr s, s.storesPlain = true →
    Run.Keeps Heap.Calm (Eval.stmt fuel fr s) (Value.Passes fr.inLoop)
  block : ∀ fr b, b.storesPlain = true →
    Run.Keeps Heap.Calm (Eval.block fuel fr b) (Value.Passes fr.inLoop)

namespace Confines

variable {fuel : Nat}

theorem zero : Confines 0 where
  expr _ _ _ := throw _
  dot _ _ _ _ _ := throw _
  apply _ _ _ _ _ := throw _
  stmt _ _ _ := throw _
  block _ _ _ := throw _

/-- Stored expressions give calm values. -/
theorem stored (ih : Confines fuel) (fr : Frame) {e : Option Expr}
    (he : Expr.storedPlain e = true) :
  Run.Keeps Heap.Calm (Eval.expr fuel fr e) (·.calm = true)
  := (ih.expr fr e (Expr.storesPlainOpt_of_storedPlain he)).mono fun _ hv => Value.Fits.calm he hv

/-- The values of arguments or elements stored in order. -/
theorem values (ih : Confines fuel) (fr : Frame) {es : List (Option Expr)}
    (hes : Expr.storedPlainList es = true) :
  Run.Keeps Heap.Calm (Run.values (Eval.expr fuel fr) es) fun r =>
    match r with
      | .ok vs => ∀ v ∈ vs, v.calm = true
      | .error e => e.calm = true
  := Run.Keeps.values fun e he => ih.stored fr (Expr.storedPlainList_iff.1 hes e he)

theorem expr_succ (ih : Confines fuel) (fr : Frame) (e : Option Expr)
    (he : Expr.storesPlainOpt e = true) :
  Run.Keeps Heap.Calm (Eval.expr (fuel + 1) fr e) (Value.Fits fr.inLoop e)
  := by
  cases e with
  | none => exact pure (Value.Fits.of_calm rfl)
  | some e =>
    cases e with
    | ident id =>
      rw [Eval.expr]
      refine read fun h hh => ?_
      split
      · exact pure (Value.Fits.of_calm (hh.lookup ‹_›))
      · split <;> exact pure (Value.Fits.of_calm rfl)
    | number _ _ | string _ _ => exact pure (Value.Fits.of_calm rfl)
    | boolean _ _ => exact pure (Value.Fits.of_calm (Value.calm_ofBool _))
    | prefixOp _ op right =>
      rw [Eval.expr]
      refine bind (ih.expr fr right he) fun r _ => ?_
      split
      · exact pure (Value.Fits.of_calm (Value.calm_of_isError ‹_›))
      · refine bind (lift_gives (Eval.prefixOp_calm op r)) fun v hv => ?_
        exact (Run.Keeps.made hv).mono fun _ h => Value.Fits.of_calm h
    | infixOp _ left op right =>
      simp only [Expr.storesPlainOpt, Expr.storesPlain, Bool.and_eq_true] at he
      rw [Eval.expr]
      split
      · exact (ih.dot fr left right he.1 he.2).mono fun _ h => Value.Fits.of_calm h
      · refine bind (ih.expr fr right he.2) fun r _ => ?_
        split
        · exact pure (Value.Fits.of_calm (Value.calm_of_isError ‹_›))
        · refine bind (ih.expr fr left he.1) fun l _ => ?_
          split
          · exact pure (Value.Fits.of_calm (Value.calm_of_isError ‹_›))
          · refine bind (lift_gives (Eval.infixOp_calm op l r)) fun v hv => ?_
            exact (Run.Keeps.made hv).mono fun _ h => Value.Fits.of_calm h
    | ifElse _ cond yes no =>
      simp only [Expr.storesPlainOpt, Expr.storesPlain, Bool.and_eq_true] at he
      rw [Eval.expr]
      refine bind (newScope fun _ h => nomatch h) fun inner _ => ?_
      refine bind (ih.expr fr cond he.1.1) fun c _ => ?_
      split
      · exact pure (Value.Fits.of_calm (Value.calm_of_isError ‹_›))
      · split
        · exact (ih.block _ yes he.1.2).mono fun _ h => Value.Fits.of_passes h (by rfl)
        · split
          · rename_i b
            have hb : b.storesPlain = true := by simpa [Block.storesPlainOpt] using he.2
            exact (ih.block _ b hb).mono fun _ h => Value.Fits.of_passes h (by rfl)
          · exact pure (Value.Fits.of_calm rfl)
    | function _ params body =>
      rw [Eval.expr]
      exact bind fresh fun _ _ => pure (Value.Fits.of_calm he)
    | call _ callee args =>
      simp only [Expr.storesPlainOpt, Expr.storesPlain, Bool.and_eq_true] at he
      rw [Eval.expr]
      refine bind (ih.expr fr callee he.1) fun f hf => ?_
      split
      · exact pure (Value.Fits.of_calm (Value.calm_of_isError ‹_›))
      · split
        · exact (Run.Keeps.instantiate _).mono fun _ h => Value.Fits.of_calm h
        · split
          · exact throw _
          · rename_i as
            have has : Expr.storedPlainList as = true := by
              simpa [Expr.storedPlainArgs] using he.2
            refine bind (ih.values fr has) fun r hr => ?_
            split
            · exact pure (Value.Fits.of_calm hr)
            · refine (ih.apply _ f _ (Value.runsPlain_of_passes hf.passes) hr).mono fun _ h => ?_
              exact Value.Fits.of_calm h
    | array _ elems =>
      cases elems with
      | none =>
        rw [Eval.expr]
        exact throw _
      | some es =>
        rw [Eval.expr]
        refine bind (ih.values fr
          (by simpa [Expr.storesPlainOpt, Expr.storesPlain, Expr.storedPlainArgs] using he))
          fun r hr => ?_
        split
        · exact pure (Value.Fits.of_calm hr)
        · refine (newArray fun v hv => hr v (by simpa using hv)).mono fun _ h => ?_
          exact Value.Fits.of_calm h
    | index _ target key =>
      simp only [Expr.storesPlainOpt, Expr.storesPlain, Bool.and_eq_true] at he
      rw [Eval.expr]
      refine bind (ih.expr fr target he.1) fun l hl => ?_
      split
      · exact pure (Value.Fits.of_calm (Value.calm_of_isError ‹_›))
      · refine bind (ih.expr fr key he.2) fun k _ => ?_
        split
        · exact pure (Value.Fits.of_calm (Value.calm_of_isError ‹_›))
        · refine read fun h hh => ?_
          exact lift_gives fun v hv => Value.Fits.of_calm (Eval.index_calm hh hl.passes k v hv)
    | hash _ pairs =>
      rw [Eval.expr]
      have hpairs := Expr.storedPlainPairs_iff.1
        (by simpa [Expr.storesPlainOpt, Expr.storesPlain] using he)
      refine (Run.Keeps.hashPairs (fun kn vn hm => ⟨?_, ?_⟩) [] rfl).mono fun _ h =>
        Value.Fits.of_calm h
      · exact (ih.expr fr kn (hpairs (kn, vn) hm).1).mono fun _ _ => trivial
      · exact ih.stored fr (hpairs (kn, vn) hm).2
    | whileLoop _ cond body =>
      simp only [Expr.storesPlainOpt, Expr.storesPlain, Bool.and_eq_true] at he
      rw [Eval.expr]
      refine bind (newScope fun _ h => nomatch h) fun inner _ => ?_
      refine loopFor (S := fun s => s.calm = true) (fun result hresult => ?_) _ _ rfl
      refine bind (ih.expr fr cond he.1) fun c _ => ?_
      split
      · exact pure (Value.Fits.of_calm (Value.calm_of_isError ‹_›))
      · split
        · exact pure (Value.Fits.of_calm hresult)
        · refine bind (ih.block _ body he.2) fun r hr => ?_
          revert hr
          split <;> intro hr
          · exact pure (Value.Fits.of_calm rfl)
          · exact pure (Value.Fits.of_calm rfl)
          · exact pure (Value.Fits.of_calm rfl)
          · exact pure (Value.Fits.of_passes hr (by rfl))
          · exact pure rfl
          · rename_i hb _ _ hret hc
            exact pure (Value.calm_of_passes_true hr hb hc hret)
    | forLoop _ init cond step body =>
      simp only [Expr.storesPlainOpt, Expr.storesPlain, Bool.and_eq_true] at he
      rw [Eval.expr]
      refine bind (newScope fun _ h => nomatch h) fun inner _ => ?_
      have hpart : ∀ s : Option Stmt, Stmt.storesPlainOpt s = true → ∀ d : Value, d.calm = true →
          Run.Keeps Heap.Calm (Eval.optionally (Eval.stmt fuel ⟨inner :: fr.chain, true⟩) s d)
            (Value.Passes true) := fun s hs d hd =>
        Run.Keeps.optionally (fun t ht => ih.stmt _ t (by simpa [Stmt.storesPlainOpt, ht] using hs))
          (Value.passes_of_calm hd true)
      refine bind (hpart init he.1.1.1 _ rfl) fun i _ => ?_
      split
      · exact pure (Value.Fits.of_calm (Value.calm_of_isError ‹_›))
      · refine loopFor (S := fun s => s.calm = true) (fun result hresult => ?_) _ _ rfl
        refine bind (hpart cond he.1.1.2 _ rfl) fun c _ => ?_
        split
        · exact pure (Value.Fits.of_calm (Value.calm_of_isError ‹_›))
        · split
          · exact pure (Value.Fits.of_calm hresult)
          · refine bind (ih.block _ body he.2) fun r hr => ?_
            revert hr
            split <;> intro hr
            · exact pure (Value.Fits.of_calm rfl)
            · exact pure (Value.Fits.of_calm rfl)
            · exact pure (Value.Fits.of_calm rfl)
            · exact pure (Value.Fits.of_passes hr (by rfl))
            · rename_i hb _ _ hret
              refine bind (hpart step he.1.2 _ rfl) fun u _ => ?_
              split
              · exact pure (Value.Fits.of_calm (Value.calm_of_isError ‹_›))
              · split
                · exact pure rfl
                · rename_i hc
                  exact pure (Value.calm_of_passes_true hr hb hc hret)
    | classDef _ body =>
      rw [Eval.expr]
      refine bind (newScope fun _ h => nomatch h) fun sc _ => ?_
      refine bind (Run.Keeps.fields fun s hs => (ih.stmt _ s ?_).mono fun _ _ => trivial)
        fun ok _ => ?_
      · exact Block.storesPlain_iff.1 he s hs
      · split
        · exact bind fresh fun _ _ => pure (Value.Fits.of_calm rfl)
        · exact pure (Value.Fits.of_calm rfl)

theorem dot_succ (ih : Confines fuel) (fr : Frame) (left right : Option Expr)
    (hl : Expr.storesPlainOpt left = true) (hr : Expr.storesPlainOpt right = true) :
  Run.Keeps Heap.Calm (Eval.dot (fuel + 1) fr left right) (·.calm = true)
  := by
  rw [Eval.dot.eq_def]
  dsimp only
  split
  · refine read fun _ _ => ?_
    split
    · split
      · exact read fun _ hh => pure (hh.field _ _)
      · rename_i sc _ _ _ callee args
        replace hr : (Expr.storesPlainOpt callee && Expr.storedPlainArgs args) = true := hr
        simp only [Bool.and_eq_true] at hr
        refine bind (ih.expr ⟨[sc], false⟩ callee hr.1) fun f hf => ?_
        split
        · exact pure (Value.calm_of_isError ‹_›)
        · split
          · exact bind fresh fun _ _ => pure rfl
          · split
            · exact throw _
            · rename_i as
              have has : Expr.storedPlainList as = true := by
                simpa [Expr.storedPlainArgs] using hr.2
              refine bind (ih.values fr has) fun r hr => ?_
              split
              · exact pure hr
              · exact ih.apply _ f _ (Value.runsPlain_of_passes hf.passes) hr
      · exact pure rfl
    · exact pure rfl
  · exact pure rfl

theorem apply_succ (ih : Confines fuel) (chain : List Nat) (f : Value) (args : List Value)
    (hf : f.RunsPlain) (hargs : ∀ v ∈ args, v.calm = true) :
  Run.Keeps Heap.Calm (Eval.apply (fuel + 1) chain f args) (·.calm = true)
  := by
  rw [Eval.apply.eq_def]
  dsimp only
  split
  · split
    · exact throw _
    · split
      · exact pure rfl
      · refine bind (newScope (Bindings.holds_foldl (A := fun q => q.2.calm = true)
          (Q := fun v => v.calm = true) (fun b q hq hb p hp => ?_) _ []
          (fun q hq => hargs _ (List.of_mem_zip hq).2)
          (fun _ h => nomatch h))) fun sc _ => ?_
        · obtain ⟨x, a⟩ := q
          rcases Bindings.mem_put hp with hp | hp
          · exact hb p hp
          · rw [hp]; exact hq
        · refine bind (ih.block _ _ hf) fun r hr => ?_
          split
          · exact pure hr
          · exact pure (Value.calm_of_passes_false hr ‹_›)
  · exact builtin _ hargs
  · exact bind (lift_gives fun _ _ => trivial) fun _ _ => pure rfl

theorem stmt_succ (ih : Confines fuel) (fr : Frame) (s : Stmt) (hs : s.storesPlain = true) :
  Run.Keeps Heap.Calm (Eval.stmt (fuel + 1) fr s) (Value.Passes fr.inLoop)
  := by
  cases s with
  | letStmt _ name value field =>
    rw [Eval.stmt]
    refine bind (ih.stored fr hs) fun v hv => ?_
    split
    · exact pure (Value.passes_of_calm hv _)
    · split
      · refine read fun _ _ => ?_
        split
        · split
          · exact bind (onHeap fun h hh => hh.bind _ _ hv) fun _ _ => pure rfl
          · exact pure rfl
        · exact pure rfl
      · dsimp only
        split
        · exact bind (onHeap fun h hh => hh.bind _ _ hv) fun _ _ => pure rfl
        · exact pure rfl
  | returnStmt _ value =>
    cases value with
    | none =>
      rw [Eval.stmt]
      exact bind fresh fun _ _ => pure rfl
    | some e =>
      rw [Eval.stmt]
      refine bind (ih.stored fr hs) fun v hv => ?_
      split
      · exact pure (Value.passes_of_calm hv _)
      · exact bind fresh fun _ _ => pure hv
  | exprStmt _ e =>
    rw [Eval.stmt]
    exact (ih.expr fr e hs).mono fun _ h => h.passes
  | assign _ name value =>
    rw [Eval.stmt]
    refine bind (ih.stored fr hs) fun v hv => ?_
    split
    · exact pure (Value.passes_of_calm hv _)
    · refine read fun _ _ => ?_
      split
      · exact pure rfl
      · exact bind (onHeap fun h hh => hh.assign _ hv _) fun _ _ => pure rfl
  | breakStmt | continueStmt =>
    rw [Eval.stmt]
    split
    · exact pure ‹_›
    · exact pure rfl

theorem block_succ (ih : Confines fuel) (fr : Frame) (b : Block) (hb : b.storesPlain = true) :
  Run.Keeps Heap.Calm (Eval.block (fuel + 1) fr b) (Value.Passes fr.inLoop)
  := by
  rw [Eval.block]
  exact seq (fun s hs => ih.stmt fr s (Block.storesPlain_iff.1 hb s hs)) _
    (Value.passes_of_calm rfl _)

theorem succ (ih : Confines fuel) : Confines (fuel + 1) where
  expr := ih.expr_succ
  dot := ih.dot_succ
  apply := ih.apply_succ
  stmt := ih.stmt_succ
  block := ih.block_succ

/-- Evaluation confines the signals at every fuel. -/
theorem all :
  ∀ fuel, Confines fuel
  | 0 => zero
  | fuel + 1 => (all fuel).succ

end Confines

end Eval

/-- A program that stores plain values, run outside any loop from a calm heap, keeps the heap
calm and gives a calm value: it unwraps a returned value and stops there. -/
theorem Program.eval_calm (p : Program) (fr : Frame) (hp : p.storesPlain = true)
    (hfr : fr.inLoop = false) :
  Run.Keeps Heap.Calm (p.eval fr) (·.calm = true)
  := by
  refine Run.Keeps.statements (fun s hs => ?_) _ rfl
  rw [← hfr]
  exact (Eval.Confines.all _).stmt fr s (Stmt.storesPlainList_iff.1 hp s hs)

/-- Where the signals go, in programs that store plain values. From a calm heap, evaluation
keeps the heap calm, so no scope ever binds a returned value, `break` or `continue`, no list
holds one and no hash in them does. A plain expression at a place where its value is stored
gives a calm value, and so does every call of a function whose body stores plain values on calm
arguments. A statement passes up only a calm value, a returned calm value, and, inside a loop
only, `break` and `continue`. A program run outside any loop gives a calm value. -/
theorem signals_confined :
  (∀ fuel fr e, Expr.storedPlain e = true →
    Run.Keeps Heap.Calm (Eval.expr fuel fr e) (·.calm = true)) ∧
  (∀ fuel chain f args, f.RunsPlain → (∀ v ∈ args, v.calm = true) →
    Run.Keeps Heap.Calm (Eval.apply fuel chain f args) (·.calm = true)) ∧
  (∀ fuel fr s, s.storesPlain = true →
    Run.Keeps Heap.Calm (Eval.stmt fuel fr s) (Value.Passes fr.inLoop)) ∧
  (∀ (p : Program) fr, p.storesPlain = true → fr.inLoop = false →
    Run.Keeps Heap.Calm (p.eval fr) (·.calm = true))
  := ⟨fun fuel fr _ he => (Eval.Confines.all fuel).stored fr he,
    fun fuel => (Eval.Confines.all fuel).apply,
    fun fuel => (Eval.Confines.all fuel).stmt,
    Program.eval_calm⟩

/-- A function that returns its argument, called on `1` at the top of a program, keeps a calm
heap calm and gives a calm value. -/
theorem signals_confined_call :
  let tok : Token := ⟨.ident, "f"⟩
  let x : Ident := ⟨tok, "x"⟩
  let p : Program := ⟨[.letStmt tok ⟨tok, "f"⟩ (some (.function tok (some [x])
      (.mk tok [.returnStmt tok (some (.ident x))]))) none,
    .exprStmt tok
      (some (.call tok (some (.ident ⟨tok, "f"⟩)) (some [some (.number tok (.int 1))])))]⟩
  p.storesPlain = true ∧ Run.Keeps Heap.Calm (p.eval ⟨[0], false⟩) (·.calm = true)
  := ⟨rfl, signals_confined.2.2.2 _ _ rfl rfl⟩

/-- A conditional at a place where a value is stored stores what its block passes up: at the
top of a program, `let y = if (true) { return 1; };` binds `y` to a returned value. -/
theorem conditional_stores_returned :
  let tok : Token := ⟨.ident, "y"⟩
  let p : Program := ⟨[.letStmt tok ⟨tok, "y"⟩ (some (.ifElse tok (some (.boolean tok true))
    (.mk tok [.returnStmt tok (some (.number tok (.int 1)))]) none)) none]⟩
  ∃ i, ((stateAfter (do p.eval (← Run.topFrame)) ({} : Machine)).heap.scope 0).get? "y"
    = some (.returned i (.ofInt 1))
  := ⟨_, rfl⟩

/-- The exit signal is stored as any value is: at the top of a program,
`let e = exit(); printl(1);` binds `e` to the exit signal, and the program goes on to print
`1`. -/
theorem exit_signal_stored :
  let tok : Token := ⟨.ident, "e"⟩
  let call (f : String) (args : List (Option Expr)) : Option Expr :=
    some (.call tok (some (.ident ⟨tok, f⟩)) (some args))
  let p : Program := ⟨[.letStmt tok ⟨tok, "e"⟩ (call "exit" []) none,
    .exprStmt tok (call "printl" [some (.number tok (.int 1))])]⟩
  let m := stateAfter (do p.eval (← Run.topFrame)) ({} : Machine)
  (m.heap.scope 0).get? "e" = some Value.exitVal ∧ m.out = "1\n"
  := ⟨rfl, rfl⟩

end Monkey
