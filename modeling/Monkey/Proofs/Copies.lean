import Mathlib.Data.List.Forall2
import Monkey.Proofs.Instances

/-!
# What a called class copies

Calling a class, `C()`, gives the instance a deep copy of the class's scope
(`Heap.cloneScope`). The copy keeps data with no identity (numbers, strings, errors) as it is
and gives every object a new identity, taken from the heap's counter of identities. That counter
starts past the canonical objects, so no copy is one of them: a copied `false` or `null` counts as
true, `!` of it is `false`, and a copied `true` or `false` is the same object as neither `true`
nor `false` (`instance_field_copies`). Conditions, `!` and `==` on objects all test identities,
so an instance's field can behave otherwise than the value the class binds it to
(`copied_false_field_truthy`).

The copy's invariant (`CloneState.FreshFrom`) is that the counter stays at or past where the copy
began and that every object remembered so far became one with an identity from there on; each
step of the copy keeps it, so the copy of a whole scope is, binding by binding, a copy of the
class's value (`Heap.cloneScope_copies`).
-/

namespace Monkey

/-! ### Objects past the canonical ones -/

namespace Value

/-- A value with an identity is an object, whose type is neither `INTEGER` nor `STRING`. -/
theorem typeName_of_ident {w : Value} {k : Nat} (hk : w.ident? = some k) :
  ∃ name, w.typeName = pure name ∧ name ≠ "INTEGER" ∧ name ≠ "STRING"
  := by
  cases w <;> simp only [ident?, reduceCtorEq] at hk <;> exact ⟨_, rfl, by decide, by decide⟩

/-- Two objects are the same exactly when their identities are equal. -/
theorem same_of_idents {l r : Value} {i j : Nat} (hl : l.ident? = some i)
    (hr : r.ident? = some j) :
  l.same r = (i == j)
  := by
  cases l <;> simp_all [ident?, same]

/-- An object made after the canonical ones counts as true. -/
theorem isTruthy_of_ident {w : Value} {k : Nat} (hk : w.ident? = some k)
    (hfresh : firstFreshId ≤ k) :
  w.isTruthy = true
  := by
  unfold isTruthy
  split
  · simp only [ident?, firstFreshId, Option.some.injEq] at hk hfresh
    omega
  · simp only [ident?, firstFreshId, Option.some.injEq] at hk hfresh
    omega
  · rfl

/-- Giving an object another identity. -/
theorem ident?_withIdent {v : Value} {i : Nat} (hv : v.ident? = some i) (j : Nat) :
  (v.withIdent j).ident? = some j
  := by
  cases v <;> simp_all [ident?, withIdent]

end Value

namespace Eval

/-- `==` on two objects compares their identities. -/
theorem infixOp_eq_idents {l r : Value} {i j : Nat} (hl : l.ident? = some i)
    (hr : r.ident? = some j) :
  infixOp "==" l r = pure (Value.ofBool (i == j))
  := by
  obtain ⟨name, hname, hint, hstr⟩ := Value.typeName_of_ident hl
  simp [infixOp, hname, hint, hstr, Value.same_of_idents hl hr]

variable {w : Value} {k : Nat} (hk : w.ident? = some k) (hfresh : Value.firstFreshId ≤ k)
include hk hfresh

theorem prefixOp_not_fresh :
  prefixOp "!" w = pure Value.falseVal
  := by
  simp [prefixOp, Value.isTruthy_of_ident hk hfresh, Value.ofBool]

theorem infixOp_eq_fresh_true :
  infixOp "==" w Value.trueVal = pure Value.falseVal
  := by
  rw [infixOp_eq_idents hk rfl]
  simp only [Value.firstFreshId] at hfresh
  simp [Value.ofBool, show k ≠ 0 by omega]

theorem infixOp_eq_fresh_false :
  infixOp "==" w Value.falseVal = pure Value.falseVal
  := by
  rw [infixOp_eq_idents hk rfl]
  simp only [Value.firstFreshId] at hfresh
  simp [Value.ofBool, show k ≠ 1 by omega]

end Eval

/-! ### The invariant of a copy -/

/-- A copy in progress giving identities from `n` on: the next identity is at least `n`, and every
object copied so far became one with an identity from `n` on. -/
def CloneState.FreshFrom (n : Nat) (s : CloneState) : Prop :=
  n ≤ s.heap.nextId ∧ ∀ p ∈ s.objects, ∃ k, p.2.ident? = some k ∧ n ≤ k

/-- What a copy of `v` giving identities from `n` on may be: `v` itself when `v` has no identity,
and otherwise an object with an identity from `n` on. -/
def Value.CopiedFrom (n : Nat) (v w : Value) : Prop :=
  match v.ident? with
  | none => w = v
  | some _ => ∃ k, w.ident? = some k ∧ n ≤ k

/-- Settling a value to hold an object of identity `j` keeps its identity. -/
theorem Value.ident?_settle {j : Nat} {w : Value} (hw : w.ident? = some j) (v : Value) :
  (Value.settle j w v).ident? = v.ident?
  := by
  cases v with
  | hash k _ | returned k _ =>
    rw [Value.settle]
    split
    · rename_i hk
      rw [hw, hk]
      rfl
    · rfl
  | _ => rfl

/-- A weaker property of the results. -/
theorem Cloning.Holds.imp {S : CloneState → Prop} {α : Type} {x : Cloning α} {Q Q' : α → Prop}
    (hx : Cloning.Holds S x Q) (h : ∀ a, Q a → Q' a) :
  Cloning.Holds S x Q'
  := fun s a s' hs hrun => (hx s a s' hs hrun).imp_right (h a)

/-- Copying a list pointwise: each result is related to the element it was made from. -/
theorem Cloning.Holds.list_mapM_forall₂ {S : CloneState → Prop} {γ δ : Type}
    {f : γ → Cloning δ} {R : γ → δ → Prop} (hf : ∀ a, Cloning.Holds S (f a) (R a)) :
  ∀ l : List γ, Cloning.Holds S (l.mapM f) (List.Forall₂ R l)
  | [] => pure .nil
  | a :: rest => by
    rw [List.mapM_cons]
    exact bind (hf a) fun _ hb => bind (list_mapM_forall₂ hf rest) fun _ hbs => pure (.cons hb hbs)

namespace CloneState.FreshFrom

open Cloning.Holds

variable {n : Nat}

/-- A step that changes neither the next identity nor the objects copied so far. -/
theorem of_ids {α : Type} {x : Cloning α}
    (hx : ∀ s a s', x.run s = .ok a s' → s'.heap.nextId = s.heap.nextId ∧ s'.objects = s.objects) :
  Cloning.Holds (FreshFrom n) x fun _ => True
  := by
  intro s a s' hs hrun
  obtain ⟨hnext, hobjects⟩ := hx s a s' hrun
  exact ⟨⟨hnext ▸ hs.1, hobjects ▸ hs.2⟩, trivial⟩

theorem freshId :
  Cloning.Holds (FreshFrom n) Cloning.freshId (n ≤ ·)
  := by
  intro s a s' hs hrun
  cases hrun
  exact ⟨⟨Nat.le_succ_of_le hs.1, hs.2⟩, hs.1⟩

theorem keep (i : Nat) {w : Value} (hw : ∃ k, w.ident? = some k ∧ n ≤ k) :
  Cloning.Holds (FreshFrom n) (Cloning.keep i w) fun _ => True
  := by
  intro s a s' hs hrun
  cases hrun
  refine ⟨⟨hs.1, fun p hp => ?_⟩, trivial⟩
  rcases List.mem_cons.1 hp with rfl | hp
  · exact hw
  · exact hs.2 p hp

theorem listFor (i : Nat) :
  Cloning.Holds (FreshFrom n) (Cloning.listFor i) fun _ => True
  := by
  unfold Cloning.listFor
  refine get_bind fun s a s' hs hrun => ?_
  split at hrun <;> cases hrun <;> exact ⟨hs, trivial⟩

theorem scopeFor (i : Nat) :
  Cloning.Holds (FreshFrom n) (Cloning.scopeFor i) fun _ => True
  := by
  unfold Cloning.scopeFor
  refine get_bind fun s a s' hs hrun => ?_
  split at hrun <;> cases hrun <;> exact ⟨hs, trivial⟩

theorem elements (i : Nat) :
  Cloning.Holds (FreshFrom n) (Cloning.elements i) fun _ => True
  := of_ids fun _ _ _ hrun => by cases hrun; exact ⟨rfl, rfl⟩

theorem bindings (i : Nat) :
  Cloning.Holds (FreshFrom n) (Cloning.bindings i) fun _ => True
  := of_ids fun _ _ _ hrun => by cases hrun; exact ⟨rfl, rfl⟩

theorem fillList (j : Nat) (vs : Array Value) :
  Cloning.Holds (FreshFrom n) (Cloning.fillList j vs) fun _ => True
  := of_ids fun _ _ _ hrun => by cases hrun; exact ⟨rfl, rfl⟩

theorem fillScope (j : Nat) (b : Bindings) :
  Cloning.Holds (FreshFrom n) (Cloning.fillScope j b) fun _ => True
  := of_ids fun _ _ _ hrun => by cases hrun; exact ⟨rfl, rfl⟩

theorem settle (j : Nat) {w : Value} (hw : w.ident? = some j) :
  Cloning.Holds (FreshFrom n) (Cloning.settle j w) fun _ => True
  := by
  intro s a s' hs hrun
  cases hrun
  refine ⟨⟨hs.1, CloneState.settle_objects (Q := fun v => ∃ k, v.ident? = some k ∧ n ≤ k)
    (fun v hv => ?_) hs.2⟩, trivial⟩
  rwa [Value.ident?_settle hw]

/-- The copy of a value keeps data with no identity and makes every object a new one. -/
theorem value (fuel : Nat) :
  ∀ v, Cloning.Holds (FreshFrom n) (Cloning.value fuel v) (Value.CopiedFrom n v)
  := by
  induction fuel with
  | zero => exact fun _ => throw _
  | succ fuel ih =>
    have helems : ∀ vs : Array Value, Cloning.Holds (FreshFrom n) (vs.mapM (Cloning.value fuel))
        fun _ => True := fun vs =>
      imp (array_mapM (Q := fun _ => True) (fun v _ => imp (ih v) fun _ _ => trivial) vs
        fun _ _ => trivial) fun _ _ => trivial
    have hbinds : ∀ b : Bindings, Cloning.Holds (FreshFrom n)
        (b.mapM fun p => do Pure.pure (p.1, ← Cloning.value fuel p.2)) fun _ => True := fun b =>
      imp (list_mapM (P := fun _ => True) (Q := fun _ => True)
        (fun p _ => bind (ih p.2) fun _ _ => pure trivial) b fun _ _ => trivial) fun _ _ => trivial
    intro v
    unfold Cloning.value
    split
    · rename_i hv
      exact pure (by simp [Value.CopiedFrom, hv])
    · rename_i i hv
      unfold Value.CopiedFrom
      simp only [hv]
      refine get_bind fun s a s' hs hrun => ?_
      split at hrun
      · rename_i w hw
        cases hrun
        obtain ⟨l₁, l₂, hl, -⟩ := List.lookup_eq_some_iff.1 hw
        exact ⟨hs, hs.2 _ (hl ▸ List.mem_append_right _ List.mem_cons_self)⟩
      · refine (?_ : Cloning.Holds (FreshFrom n) _ fun w => ∃ k, w.ident? = some k ∧ n ≤ k)
          s a s' hs hrun
        split
        · refine bind freshId fun j hj => bind (listFor _) fun p _ => ?_
          refine bind (keep _ ⟨j, rfl, hj⟩) fun _ _ => ?_
          split
          · refine bind (elements _) fun vs _ => bind (helems vs) fun ws _ => ?_
            exact bind (fillList _ ws) fun _ _ => pure ⟨j, rfl, hj⟩
          · exact pure ⟨j, rfl, hj⟩
        · refine bind freshId fun j hj => bind (scopeFor _) fun p _ => ?_
          refine bind (keep _ ⟨j, rfl, hj⟩) fun _ _ => ?_
          split
          · refine bind (bindings _) fun b _ => bind (hbinds b) fun b' _ => ?_
            exact bind (fillScope _ b') fun _ _ => pure ⟨j, rfl, hj⟩
          · exact pure ⟨j, rfl, hj⟩
        · refine bind freshId fun j hj => bind (scopeFor _) fun p _ => ?_
          refine bind (keep _ ⟨j, rfl, hj⟩) fun _ _ => ?_
          split
          · refine bind (bindings _) fun b _ => bind (hbinds b) fun b' _ => ?_
            exact bind (fillScope _ b') fun _ _ => pure ⟨j, rfl, hj⟩
          · exact pure ⟨j, rfl, hj⟩
        · rename_i _ ps
          refine bind freshId fun j hj => bind (keep _ ⟨j, rfl, hj⟩) fun _ _ => ?_
          refine bind (list_mapM (P := fun _ => True) (Q := fun _ => True) (fun q _ => ?_) ps
            fun _ _ => trivial) fun ps' _ => bind (settle j rfl) fun _ _ => pure ⟨j, rfl, hj⟩
          obtain ⟨k, kv, w⟩ := q
          exact bind (ih kv) fun _ _ => bind (ih w) fun _ _ => pure trivial
        · exact bind freshId fun j hj => bind (keep _ ⟨j, rfl, hj⟩) fun _ _ =>
            bind (ih _) fun _ _ => bind (settle j rfl) fun _ _ => pure ⟨j, rfl, hj⟩
        · have hw := Value.ident?_withIdent hv
          exact bind freshId fun j hj => bind (keep _ ⟨j, hw j, hj⟩) fun _ _ => pure ⟨j, hw j, hj⟩

/-- The copy of a binding binds the same name to a copy of its value. -/
theorem binding (fuel : Nat) (p : String × Value) :
  Cloning.Holds (FreshFrom n) (do Pure.pure (p.1, ← Cloning.value fuel p.2))
    fun q => q.1 = p.1 ∧ p.2.CopiedFrom n q.2
  := bind (value fuel p.2) fun _ hw => pure ⟨rfl, hw⟩

end CloneState.FreshFrom

/-! ### The copy of a scope -/

/-- Two lists of bindings that bind the same names in the same order, with related values, give
related values to every name the first binds. -/
theorem Bindings.get?_of_forall₂ {R : Value → Value → Prop} {b b' : Bindings}
    (h : List.Forall₂ (fun p q => q.1 = p.1 ∧ R p.2 q.2) b b') {name : String} {v : Value}
    (hv : b.get? name = some v) :
  ∃ w, b'.get? name = some w ∧ R v w
  := by
  induction h with
  | nil => simp at hv
  | @cons p q _ _ hpq _ ih =>
    obtain ⟨hname, hR⟩ := hpq
    by_cases hp : p.1 = name
    · have hq : q.1 = name := hname.trans hp
      simp only [Bindings.get?, hp, hq, beq_self_eq_true, if_true, Option.some.injEq] at hv ⊢
      exact ⟨q.2, rfl, hv ▸ hR⟩
    · have hq : q.1 ≠ name := hname ▸ hp
      simp only [Bindings.get?, beq_iff_eq, hp, hq, if_false] at hv ⊢
      exact ih hv

theorem Heap.scope_setScope_self (h : Heap) {i : Nat} (hi : i < h.scopes.size) (b : Bindings) :
  (h.setScope i b).scope i = b
  := by
  simp [Heap.setScope, Heap.scope, Array.getD_eq_getD_getElem?, Array.set!_eq_setIfInBounds, hi]

/-- The deep copy of a scope binds the names of the scope, in their order, each to a copy of its
value giving identities from the heap's next one on: the copy makes the new scope, copies the
bindings, and fills the scope last. -/
theorem Heap.cloneScope_copies {h h' : Heap} {i c : Nat} (hc : h.cloneScope i = .ok (c, h')) :
  List.Forall₂ (fun p q => q.1 = p.1 ∧ p.2.CopiedFrom h.nextId q.2) (h.scope i) (h'.scope c)
  := by
  obtain ⟨-, hlt, -⟩ := Heap.cloneScope_new hc
  unfold Heap.cloneScope at hc
  dsimp only at hc
  split at hc
  · rename_i c' s hrun
    obtain ⟨rfl, rfl⟩ := Prod.mk.inj (Except.ok.inj hc)
    let s₁ : CloneState :=
      { heap := { h with scopes := h.scopes.push [] }, scopes := [(i, h.scopes.size)] }
    have h₁ : (Cloning.scopeFor i).run { heap := h } = .ok (h.scopes.size, true) s₁ := rfl
    rw [EStateM.run_bind, h₁] at hrun
    dsimp only at hrun
    rw [EStateM.run_bind] at hrun
    split at hrun
    · rename_i b s₂ hmap
      have hs₁ : s₁.FreshFrom h.nextId := ⟨Nat.le_refl _, fun _ hp => nomatch hp⟩
      have hb := (Cloning.Holds.list_mapM_forall₂ (CloneState.FreshFrom.binding _) (h.scope i)
        s₁ b s₂ hs₁ hmap).2
      rw [EStateM.run_bind] at hrun
      cases hrun
      simp only [Heap.size_setScope] at hlt
      rwa [Heap.scope_setScope_self _ hlt]
    · cases hrun
  · cases hc

/-! ### The fields of a called class -/

namespace Eval

/-- Calling a class gives an instance whose scope binds the names of the class's scope, each to
a copy of its value giving identities from the heap's next one on. -/
theorem instantiate_copies {sc : Nat} {m m' : Machine} {v : Value}
    (h : (Eval.instantiate sc).run m = .ok v m') :
  ∃ id c, v = .inst id c ∧ List.Forall₂ (fun p q => q.1 = p.1 ∧ p.2.CopiedFrom m.heap.nextId q.2)
    (m.heap.scope sc) (m'.heap.scope c)
  := by
  unfold Eval.instantiate at h
  have hheap : Run.heap.run m = .ok m.heap m := rfl
  rw [EStateM.run_bind, hheap] at h
  dsimp only at h
  cases hc : m.heap.cloneScope sc with
  | error e =>
    rw [hc] at h
    cases h
  | ok p =>
    obtain ⟨c, h'⟩ := p
    have hcopies := Heap.cloneScope_copies hc
    rw [hc] at h
    cases h
    exact ⟨_, c, rfl, hcopies⟩

end Eval

/-- Calling a class gives every field of the instance a copy of the value the class binds it to.
A value with no identity (a number, a string, an error) is kept. An object becomes a new object,
none of the canonical ones: it counts as true, `!` of it is `false`, and `==` finds it equal to
neither `true` nor `false`, whatever the class's value was. -/
theorem instance_field_copies {sc : Nat} {m m' : Machine} {i : Value}
    (hrun : (Eval.instantiate sc).run m = .ok i m') (hnext : Value.firstFreshId ≤ m.heap.nextId)
    {f : String} {v : Value} (hv : (m.heap.scope sc).get? f = some v) :
  ∃ id c w, i = .inst id c ∧ (m'.heap.scope c).get? f = some w ∧
    (v.ident? = none → w = v) ∧
    (v.ident? ≠ none → w.isTruthy = true ∧ Eval.prefixOp "!" w = pure Value.falseVal ∧
      Eval.infixOp "==" w Value.trueVal = pure Value.falseVal ∧
      Eval.infixOp "==" w Value.falseVal = pure Value.falseVal)
  := by
  obtain ⟨id, c, rfl, hcopies⟩ := Eval.instantiate_copies hrun
  obtain ⟨w, hw, hcopy⟩ := Bindings.get?_of_forall₂ hcopies hv
  refine ⟨id, c, w, rfl, hw, fun hnone => ?_, fun hsome => ?_⟩
  · simpa [Value.CopiedFrom, hnone] using hcopy
  · obtain ⟨j, hj⟩ := Option.ne_none_iff_exists'.1 hsome
    obtain ⟨k, hk, hnk⟩ : ∃ k, w.ident? = some k ∧ m.heap.nextId ≤ k := by
      simpa [Value.CopiedFrom, hj] using hcopy
    have hfresh := Nat.le_trans hnext hnk
    exact ⟨Value.isTruthy_of_ident hk hfresh, Eval.prefixOp_not_fresh hk hfresh,
      Eval.infixOp_eq_fresh_true hk hfresh, Eval.infixOp_eq_fresh_false hk hfresh⟩

/-- A class whose field `f` is `false`: the instance's `f` is a new `false`, with identity `32`,
which counts as true. -/
theorem false_field_copied :
  let m : Machine := { heap := ⟨#[[("f", Value.falseVal)]], #[], 32⟩ }
  let m' := stateAfter (Eval.instantiate 0) m
  (Eval.instantiate 0).run m = .ok (.inst 33 1) m' ∧
    ∃ id c w, Value.inst 33 1 = .inst id c ∧ (m'.heap.scope c).get? "f" = some w ∧
      (Value.falseVal.ident? = none → w = Value.falseVal) ∧
      (Value.falseVal.ident? ≠ none → w.isTruthy = true ∧
        Eval.prefixOp "!" w = pure Value.falseVal ∧
        Eval.infixOp "==" w Value.trueVal = pure Value.falseVal ∧
        Eval.infixOp "==" w Value.falseVal = pure Value.falseVal)
  := by
  intro m m'
  have hrun : (Eval.instantiate 0).run m = .ok (.inst 33 1) m' := rfl
  exact ⟨hrun, instance_field_copies hrun (Nat.le_refl _) rfl⟩

/-- After `let C = class { let f = false; }; let i = C();`, the program `!i.f` gives `false`,
while `!false` gives `true`. -/
theorem copied_false_field_truthy :
  let tok : Token := ⟨.ident, "x"⟩
  let var (n : String) : Option Expr := some (.ident ⟨tok, n⟩)
  let classDef : Option Expr :=
    some (.classDef tok (.mk tok [.letStmt tok ⟨tok, "f"⟩ (some (.boolean tok false)) none]))
  let p : Program := ⟨[
    .letStmt tok ⟨tok, "C"⟩ classDef none,
    .letStmt tok ⟨tok, "i"⟩ (some (.call tok (var "C") (some []))) none,
    .exprStmt tok (some (.prefixOp tok "!" (some (.infixOp tok (var "i") "." (var "f")))))]⟩
  let q : Program := ⟨[.exprStmt tok (some (.prefixOp tok "!" (some (.boolean tok false))))]⟩
  ((do p.eval (← Run.topFrame)).run ({} : Machine) matches .ok (.bool false _) _) = true ∧
    ((do q.eval (← Run.topFrame)).run ({} : Machine) matches .ok (.bool true _) _) = true
  := by
  decide +kernel

end Monkey
