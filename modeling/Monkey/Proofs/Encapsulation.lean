import Monkey.Proofs.Sealing

/-!
# Method calls are encapsulated

A method call `i.m(a₁, …, aₖ)` evaluates `m` in the scope of the instance `i` and applies it, in
front of that scope, to the arguments evaluated in the caller's frame (`Eval.dot`). Ordinary
calls are dynamically scoped: a function runs in front of the chain of its caller. So a method
body, and every function it calls to any depth, runs in chains made of the scopes its calls,
conditionals and loops make, ending in the scope of an instance, of a class, or of the object of
a nested method call. The caller's chain is never reached from there.

Let `P` be a set of scopes that no class or instance has (`Heap.Avoids`): the scopes the top
level, calls, conditionals and loops made. Evaluation in a frame whose chain holds no scope of
`P` is sealed off from `P` (`Eval.SealedOff`, by induction on the fuel, one case per
construct): it changes no scope of `P`, and it runs the same whatever those scopes hold, so that
no name it reads resolves there. A method call is such an evaluation, apart from its arguments
(`method_call_encapsulated`).

The scopes of classes and instances are shared: when a method body itself calls a method of its
own instance, the inner call rebinds the instance's fields, which are on the chain of the body
(`inner_method_call_rebinds`).
-/

namespace Monkey

/-- A frame whose chain holds no scope of `P`. -/
def Frame.Avoids (P : Nat → Prop) (fr : Frame) : Prop := ∀ j ∈ fr.chain, ¬ P j

namespace Frame.Avoids

variable {P : Nat → Prop}

theorem cons {fr : Frame} (hfr : fr.Avoids P) {i : Nat} (hi : ¬ P i) (l : Bool) :
  Frame.Avoids P ⟨i :: fr.chain, l⟩
  := by
  rintro j (_ | ⟨_, hj⟩)
  · exact hi
  · exact hfr j hj

theorem single {i : Nat} (hi : ¬ P i) (l : Bool) :
  Frame.Avoids P ⟨[i], l⟩
  := by
  rintro j (_ | ⟨_, hj⟩)
  · exact hi
  · nomatch hj

end Frame.Avoids

namespace Eval

variable {P : Nat → Prop}

/-- An element of a list of values that avoid `P`, or `null`. -/
theorem getD_avoids {xs : Array Value} (hxs : ∀ v ∈ xs, v.Avoids P) (i : Nat) :
  (xs.getD i Value.nullVal).Avoids P
  := by
  rw [Array.getD_eq_getD_getElem?]
  cases hv : xs[i]? with
  | none => trivial
  | some v => exact hxs v (Array.mem_of_getElem? hv)

theorem elementAt_avoids {elems : Array Value} (hvs : ∀ v ∈ elems, v.Avoids P) (pos : Number) :
  Except.Gives (Value.Avoids P) (elementAt elems pos)
  := by
  unfold elementAt
  refine Except.Gives.ite (fun _ => Except.Gives.pure trivial) (fun _ => ?_)
  split
  · exact Except.Gives.pure (getD_avoids hvs _)
  · exact fun _ h => nomatch h

/-- Indexing gives an element of a list, a value of a hash, `null` or an error. -/
theorem index_avoids {h : Heap} (hh : h.Avoids P) {l : Value} (hl : l.Avoids P) (k : Value) :
  Except.Gives (Value.Avoids P) (index h l k)
  := by
  unfold index
  refine Except.Gives.bind fun _ _ => ?_
  split
  · refine Except.Gives.bind fun _ _ => ?_
    split
    · exact elementAt_avoids (hh.list _) _
    · exact Except.Gives.pure trivial
  · refine Except.Gives.ite (fun _ => Except.Gives.bind fun _ _ => Except.Gives.pure ?_)
      (fun _ => Except.Gives.bind fun _ _ => Except.Gives.pure trivial)
    cases hv : pairValue? _ _ with
    | none => trivial
    | some v => exact Value.pairValue?_avoids hl hv
  · exact Except.Gives.pure trivial

end Eval

namespace Run.Sealed

variable {P : Nat → Prop} [DecidablePred P]

theorem hashPairs {ev : Option Expr → Run Value} {pairs : List (Option Expr × Option Expr)}
    (hev : ∀ e, Run.Sealed P (ev e) (Value.Avoids P)) :
  ∀ acc, Value.AvoidsPairs P acc → Run.Sealed P (Eval.hashPairs ev pairs acc) (Value.Avoids P)
  := by
  induction pairs with
  | nil => exact fun acc hacc => bind fresh fun _ _ => pure hacc
  | cons p rest ih =>
    obtain ⟨kn, vn⟩ := p
    intro acc hacc
    unfold Eval.hashPairs
    refine bind (hev kn) fun k hk => ?_
    split
    · exact pure hk
    · split
      · exact bind (lift_gives fun _ _ => trivial) fun _ _ => pure trivial
      · refine bind (hev vn) fun v hv => ?_
        split
        · exact pure hv
        · refine bind (lift_gives fun _ _ => trivial) fun key _ => ?_
          exact ih _ (Value.avoidsPairs_storePair hk hv hacc)

theorem fields {run : Stmt → Run Value} {ss : List Stmt}
    (hrun : ∀ s ∈ ss, Run.Sealed P (run s) fun _ => True) :
  Run.Sealed P (Eval.fields run ss) fun _ => True
  := by
  induction ss with
  | nil => exact pure trivial
  | cons s rest ih =>
    unfold Eval.fields
    split
    · exact bind (hrun _ List.mem_cons_self) fun _ _ =>
        ih fun t ht => hrun t (List.mem_cons_of_mem _ ht)
    · exact pure trivial

theorem optionally {run : Stmt → Run Value} {s : Option Stmt} {d : Value} {Q : Value → Prop}
    (hrun : ∀ t, Run.Sealed P (run t) Q) (hd : Q d) :
  Run.Sealed P (Eval.optionally run s d) Q
  := by
  cases s with
  | none => exact pure hd
  | some t => exact hrun t

end Run.Sealed

namespace Eval

open Run.Sealed

variable {P : Nat → Prop} [DecidablePred P]

/-- What evaluation with a given fuel does in frames outside `P`: it is sealed off from `P`
and gives values that avoid `P`. -/
structure SealedOff (P : Nat → Prop) [DecidablePred P] (fuel : Nat) : Prop where
  expr : ∀ fr e, fr.Avoids P → Run.Sealed P (Eval.expr fuel fr e) (Value.Avoids P)
  dot : ∀ fr left right, fr.Avoids P → Run.Sealed P (Eval.dot fuel fr left right) (Value.Avoids P)
  apply : ∀ chain f args, (∀ j ∈ chain, ¬ P j) → (∀ v ∈ args, v.Avoids P) →
    Run.Sealed P (Eval.apply fuel chain f args) (Value.Avoids P)
  stmt : ∀ fr s, fr.Avoids P → Run.Sealed P (Eval.stmt fuel fr s) (Value.Avoids P)
  block : ∀ fr b, fr.Avoids P → Run.Sealed P (Eval.block fuel fr b) (Value.Avoids P)

namespace SealedOff

variable {fuel : Nat}

theorem zero : SealedOff P 0 where
  expr _ _ _ := throw _
  dot _ _ _ _ := throw _
  apply _ _ _ _ _ := throw _
  stmt _ _ _ := throw _
  block _ _ _ := throw _

/-- The values of arguments or elements, in order. -/
theorem values (ih : SealedOff P fuel) {fr : Frame} (hfr : fr.Avoids P) (es : List (Option Expr)) :
  Run.Sealed P (Run.values (Eval.expr fuel fr) es) fun r =>
    match r with
      | .ok vs => ∀ v ∈ vs, v.Avoids P
      | .error e => e.Avoids P
  := Run.Sealed.values fun e _ => ih.expr fr e hfr

theorem expr_succ (ih : SealedOff P fuel) (fr : Frame) (hfr : fr.Avoids P) :
  ∀ e, Run.Sealed P (Eval.expr (fuel + 1) fr e) (Value.Avoids P)
  | none => pure trivial
  | some e => by
    cases e with
    | ident id =>
      rw [Eval.expr]
      refine read fun h hh => ⟨by simp only [Heap.lookup_erase hfr], ?_⟩
      split
      · exact pure (hh.lookup ‹_›)
      · split <;> exact pure trivial
    | number _ _ | string _ _ => exact pure trivial
    | boolean _ _ => exact pure (Value.avoids_ofBool _)
    | prefixOp _ op right =>
      rw [Eval.expr]
      refine bind (ih.expr fr right hfr) fun r _ => ?_
      split
      · exact pure (Value.avoids_of_isError ‹_›)
      · refine bind (lift_gives fun v hv => Value.avoids_of_scalar (prefixOp_scalar op r v hv))
          fun v hv => Run.Sealed.made hv
    | infixOp _ left op right =>
      rw [Eval.expr]
      split
      · exact ih.dot fr left right hfr
      · refine bind (ih.expr fr right hfr) fun r _ => ?_
        split
        · exact pure (Value.avoids_of_isError ‹_›)
        · refine bind (ih.expr fr left hfr) fun l _ => ?_
          split
          · exact pure (Value.avoids_of_isError ‹_›)
          · refine bind (lift_gives fun v hv =>
              Value.avoids_of_scalar (infixOp_scalar op l r v hv)) fun v hv => Run.Sealed.made hv
    | ifElse _ cond yes no =>
      rw [Eval.expr]
      refine bind (newScope fun _ h => absurd h List.not_mem_nil) fun inner hinner => ?_
      refine bind (ih.expr fr cond hfr) fun c _ => ?_
      split
      · exact pure (Value.avoids_of_isError ‹_›)
      · split
        · exact ih.block _ yes (hfr.cons hinner _)
        · split
          · exact ih.block _ _ (hfr.cons hinner _)
          · exact pure trivial
    | function _ params body =>
      rw [Eval.expr]
      exact bind fresh fun _ _ => pure trivial
    | call _ callee args =>
      rw [Eval.expr]
      refine bind (ih.expr fr callee hfr) fun f hf => ?_
      split
      · exact pure (Value.avoids_of_isError ‹_›)
      · split
        · exact Run.Sealed.instantiate hf
        · split
          · exact throw _
          · refine bind (ih.values hfr _) fun r hr => ?_
            split
            · exact pure hr
            · exact ih.apply _ f _ hfr hr
    | array _ elems =>
      cases elems with
      | none =>
        rw [Eval.expr]
        exact throw _
      | some es =>
        rw [Eval.expr]
        refine bind (ih.values hfr es) fun r hr => ?_
        split
        · exact pure hr
        · exact newArray fun v hv => hr v (by simpa using hv)
    | index _ target key =>
      rw [Eval.expr]
      refine bind (ih.expr fr target hfr) fun l hl => ?_
      split
      · exact pure (Value.avoids_of_isError ‹_›)
      · refine bind (ih.expr fr key hfr) fun k _ => ?_
        split
        · exact pure (Value.avoids_of_isError ‹_›)
        · exact read fun h hh => ⟨rfl, lift_gives (index_avoids hh hl k)⟩
    | hash _ pairs =>
      rw [Eval.expr]
      exact Run.Sealed.hashPairs (fun e => ih.expr fr e hfr) [] trivial
    | whileLoop _ cond body =>
      rw [Eval.expr]
      refine bind (newScope fun _ h => absurd h List.not_mem_nil) fun inner hinner => ?_
      refine loopFor (S := Value.Avoids P) (fun result hresult => ?_) _ _ trivial
      refine bind (ih.expr fr cond hfr) fun c _ => ?_
      split
      · exact pure (Value.avoids_of_isError ‹_›)
      · split
        · exact pure hresult
        · refine bind (ih.block _ body (hfr.cons hinner _)) fun r hr => ?_
          split
          case h_1 | h_5 => exact pure trivial
          all_goals exact pure hr
    | forLoop _ init cond step body =>
      rw [Eval.expr]
      refine bind (newScope fun _ h => absurd h List.not_mem_nil) fun inner hinner => ?_
      have hpart : ∀ (s : Option Stmt) (d : Value), d.Avoids P →
          Run.Sealed P (Eval.optionally (Eval.stmt fuel ⟨inner :: fr.chain, true⟩) s d)
            (Value.Avoids P) := fun s d hd =>
        Run.Sealed.optionally (fun t => ih.stmt _ t (hfr.cons hinner _)) hd
      refine bind (hpart init _ trivial) fun i _ => ?_
      split
      · exact pure (Value.avoids_of_isError ‹_›)
      · refine loopFor (S := Value.Avoids P) (fun result hresult => ?_) _ _ trivial
        refine bind (hpart cond _ (Value.avoids_ofBool true)) fun c _ => ?_
        split
        · exact pure (Value.avoids_of_isError ‹_›)
        · split
          · exact pure hresult
          · refine bind (ih.block _ body (hfr.cons hinner _)) fun r hr => ?_
            split
            · exact pure trivial
            · exact pure hr
            · exact pure hr
            · exact pure hr
            · refine bind (hpart step _ trivial) fun u _ => ?_
              split
              · exact pure (Value.avoids_of_isError ‹_›)
              · split
                · exact pure trivial
                · exact pure hr
    | classDef _ body =>
      rw [Eval.expr]
      refine bind (newScope fun _ h => absurd h List.not_mem_nil) fun sc hsc => ?_
      refine bind (Run.Sealed.fields fun s _ => (ih.stmt _ s (Frame.Avoids.single hsc _)).mono
        fun _ _ => trivial) fun ok _ => ?_
      split
      · exact bind fresh fun _ _ => pure hsc
      · exact pure trivial

theorem dot_succ (ih : SealedOff P fuel) (fr : Frame) (left right : Option Expr)
    (hfr : fr.Avoids P) :
  Run.Sealed P (Eval.dot (fuel + 1) fr left right) (Value.Avoids P)
  := by
  rw [Eval.dot.eq_def]
  dsimp only
  split
  · refine read fun h hh => ⟨by simp only [Heap.lookup_erase hfr], ?_⟩
    split
    · rename_i sc hsc
      have hsc' : ¬ P sc := hh.lookup hsc
      split
      · exact read fun h hh => ⟨by simp only [Heap.scope_erase_of_not hsc'], pure (hh.field _ _)⟩
      · rename_i callee args
        refine bind (ih.expr ⟨[sc], false⟩ callee (Frame.Avoids.single hsc' _)) fun f hf => ?_
        split
        · exact pure (Value.avoids_of_isError ‹_›)
        · split
          · exact bind fresh fun _ _ => pure hf
          · split
            · exact throw _
            · refine bind (ih.values hfr _) fun r hr => ?_
              split
              · exact pure hr
              · exact ih.apply _ f _ (Frame.Avoids.single hsc' false) hr
      · exact pure trivial
    · exact pure trivial
  · exact pure trivial

theorem apply_succ (ih : SealedOff P fuel) (chain : List Nat) (f : Value) (args : List Value)
    (hchain : ∀ j ∈ chain, ¬ P j) (hargs : ∀ v ∈ args, v.Avoids P) :
  Run.Sealed P (Eval.apply (fuel + 1) chain f args) (Value.Avoids P)
  := by
  rw [Eval.apply.eq_def]
  dsimp only
  split
  · split
    · exact throw _
    · split
      · exact pure trivial
      · refine bind (newScope (Bindings.holds_foldl (A := fun q => q.2.Avoids P)
          (fun b q hq hb p hp => ?_) _ [] (fun q hq => hargs _ (List.of_mem_zip hq).2)
          (fun _ h => nomatch h))) fun sc hsc => ?_
        · obtain ⟨x, a⟩ := q
          rcases Bindings.mem_put hp with hp | hp
          · exact hb p hp
          · rw [hp]; exact hq
        · refine bind (ih.block _ _
            (Frame.Avoids.cons (show Frame.Avoids P ⟨chain, false⟩ from hchain) hsc _))
            fun r hr => ?_
          split
          · exact pure hr
          · exact pure hr
  · exact builtin _ hargs
  · exact bind (lift_gives fun _ _ => trivial) fun _ _ => pure trivial

theorem stmt_succ (ih : SealedOff P fuel) (fr : Frame) (s : Stmt) (hfr : fr.Avoids P) :
  Run.Sealed P (Eval.stmt (fuel + 1) fr s) (Value.Avoids P)
  := by
  cases s with
  | letStmt _ name value field =>
    rw [Eval.stmt]
    refine bind (ih.expr fr value hfr) fun v hv => ?_
    split
    · exact pure hv
    · split
      · refine read fun h hh => ⟨?_, ?_⟩
        · simp only [Heap.lookup_erase hfr]
          cases hl : h.lookup name.name fr.chain with
          | none => rfl
          | some w =>
            cases w with
            | inst id sc => simp only [Heap.scope_erase_of_not (hh.lookup hl)]
            | _ => rfl
        split
        · rename_i sc hsc
          have hsc' : ¬ P sc := hh.lookup hsc
          split
          · refine bind (onHeap fun h hh =>
              ⟨Heap.bind_erase hsc' _ _, hh.bind _ _ hv, fun j hj => ?_⟩) fun _ _ => pure trivial
            exact Heap.scope_bind_other h sc _ v fun h => hsc' (h ▸ hj)
          · exact pure trivial
        · exact pure trivial
      · dsimp only
        split
        · rename_i sc _ hc
          have hsc : ¬ P sc := hfr sc (by simp [hc])
          refine bind (onHeap fun h hh =>
            ⟨Heap.bind_erase hsc _ _, hh.bind _ _ hv, fun j hj => ?_⟩) fun _ _ => pure trivial
          exact Heap.scope_bind_other h sc _ v fun h => hsc (h ▸ hj)
        · exact pure trivial
  | returnStmt _ value =>
    cases value with
    | none =>
      rw [Eval.stmt]
      exact bind fresh fun _ _ => pure trivial
    | some e =>
      rw [Eval.stmt]
      refine bind (ih.expr fr _ hfr) fun v hv => ?_
      split
      · exact pure hv
      · exact bind fresh fun _ _ => pure hv
  | exprStmt _ e =>
    rw [Eval.stmt]
    exact ih.expr fr e hfr
  | assign _ name value =>
    rw [Eval.stmt]
    refine bind (ih.expr fr value hfr) fun v hv => ?_
    split
    · exact pure hv
    · refine read fun h hh => ⟨by simp only [Heap.lookup_erase hfr], ?_⟩
      split
      · exact pure trivial
      · refine bind (onHeap fun h hh =>
          ⟨Heap.assign_erase hfr, hh.assign _ hv _, fun j hj => ?_⟩) fun _ _ => pure trivial
        exact Heap.scope_assign_other h fun h' => hfr j h' hj
  | breakStmt | continueStmt =>
    rw [Eval.stmt]
    split <;> exact pure trivial

theorem block_succ (ih : SealedOff P fuel) (fr : Frame) (b : Block) (hfr : fr.Avoids P) :
  Run.Sealed P (Eval.block (fuel + 1) fr b) (Value.Avoids P)
  := by
  rw [Eval.block]
  exact seq (fun s _ => ih.stmt fr s hfr) _ trivial

theorem succ (ih : SealedOff P fuel) : SealedOff P (fuel + 1) where
  expr fr e hfr := ih.expr_succ fr hfr e
  dot := ih.dot_succ
  apply := ih.apply_succ
  stmt := ih.stmt_succ
  block := ih.block_succ

/-- Evaluation in frames outside `P` is sealed off from `P` at every fuel. -/
theorem all :
  ∀ fuel, SealedOff P fuel
  | 0 => zero
  | fuel + 1 => (all fuel).succ

end SealedOff

end Eval

/-! ### Method calls -/

/-- A field read `i.f` changes nothing. -/
theorem Eval.dot_field_state (fuel : Nat) (fr : Frame) (x name : Ident) (m : Machine) :
  stateAfter (Eval.dot fuel fr (some (.ident x)) (some (.ident name))) m = m
  := by
  cases fuel with
  | zero => rfl
  | succ fuel =>
    rw [Eval.dot]
    have h₀ : Run.heap.run m = .ok m.heap m := rfl
    rw [stateAfter_bind_ok h₀]
    split
    · exact stateAfter_of_ok (by rw [EStateM.run_bind, h₀]; rfl)
    · rfl

/-- Method calls are encapsulated. Let `P` be a set of scopes that no class or instance has,
such as the scopes of the caller's chain made by the top level, by calls, conditionals and
loops, and let `i` be an instance, whose scope `sc` is then outside `P`. Apart from its
arguments, which are evaluated in the caller's frame, a method call `i.m(a₁, …, aₖ)` evaluates
`m` in the scope of `i` and applies its value, in front of that scope, to the arguments' values
(`Eval.dot`). Both steps are sealed off from `P`, however deep the calls they make: they change
no scope of `P`, and they run the same, with the same result and the same effects elsewhere,
whatever the scopes of `P` hold, so no name that the method body or a function it calls reads
resolves there. A field read `i.f` changes nothing at all. -/
theorem method_call_encapsulated (P : Nat → Prop) [DecidablePred P] (fuel : Nat) {sc : Nat}
    (hsc : ¬ P sc) :
  (∀ callee, Run.Sealed P (Eval.expr fuel ⟨[sc], false⟩ callee) (Value.Avoids P)) ∧
  (∀ f args, (∀ v ∈ args, v.Avoids P) →
    Run.Sealed P (Eval.apply fuel [sc] f args) (Value.Avoids P)) ∧
  (∀ fr x name m,
    stateAfter (Eval.dot fuel fr (some (.ident x)) (some (.ident name))) m = m)
  := ⟨fun callee => (Eval.SealedOff.all fuel).expr _ callee (Frame.Avoids.single hsc false),
    fun f args hargs => (Eval.SealedOff.all fuel).apply [sc] f args
      (Frame.Avoids.single hsc false) hargs,
    Eval.dot_field_state fuel⟩

/-- Method calls on an instance with scope `1` are sealed off from the top-level scope `0`. -/
theorem method_call_encapsulated_top :
  ¬ (1 = 0) ∧
    (∀ callee, Run.Sealed (· = 0) (Eval.expr Eval.depth ⟨[1], false⟩ callee)
      (Value.Avoids (· = 0))) ∧
    (∀ f args, (∀ v ∈ args, v.Avoids (· = 0)) →
      Run.Sealed (· = 0) (Eval.apply Eval.depth [1] f args) (Value.Avoids (· = 0))) ∧
    (∀ fr x name m,
      stateAfter (Eval.dot Eval.depth fr (some (.ident x)) (some (.ident name))) m = m)
  := ⟨by decide, method_call_encapsulated (· = 0) Eval.depth (by decide)⟩

/-- The scope of an instance is shared by the calls of its methods. In
`let C = class { let x = 0; let inc = fn() { x = x + 1; }; let m = fn(me) { me.inc(); x }; };
let c = C(); c.m(c)`, the body of `m` runs in front of the scope of `c`, and the inner call
`me.inc()` rebinds `x` there: the program gives `1`, while with the inner call left out it gives
`0`. -/
theorem inner_method_call_rebinds :
  let tok : Token := ⟨.ident, "x"⟩
  let var (n : String) : Option Expr := some (.ident ⟨tok, n⟩)
  let num (k : Int) : Option Expr := some (.number tok (.int k))
  let inc : Option Expr := some (.function tok (some []) (.mk tok
    [.assign tok ⟨tok, "x"⟩ (some (.infixOp tok (var "x") "+" (num 1)))]))
  let body (calls : Bool) : Block := .mk tok
    ((if calls then [.exprStmt tok (some (.infixOp tok (var "me") "."
      (some (.call tok (var "inc") (some [])))))] else []) ++ [.exprStmt tok (var "x")])
  let prog (calls : Bool) : Program := ⟨[
    .letStmt tok ⟨tok, "C"⟩ (some (.classDef tok (.mk tok [
      .letStmt tok ⟨tok, "x"⟩ (num 0) none,
      .letStmt tok ⟨tok, "inc"⟩ inc none,
      .letStmt tok ⟨tok, "m"⟩ (some (.function tok (some [⟨tok, "me"⟩]) (body calls))) none])))
      none,
    .letStmt tok ⟨tok, "c"⟩ (some (.call tok (var "C") (some []))) none,
    .exprStmt tok (some (.infixOp tok (var "c") "." (some (.call tok (var "m")
      (some [var "c"])))))]⟩
  ((do (prog true).eval (← Run.topFrame)).run ({} : Machine)
      matches .ok (.num (.int 1) _) _) = true ∧
    ((do (prog false).eval (← Run.topFrame)).run ({} : Machine)
      matches .ok (.num (.int 0) _) _) = true
  := by
  decide +kernel

end Monkey
