import Monkey.Proofs.ScopeDiscipline
import Monkey.Proofs.Signals

/-!
# The fields of instances

An instance keeps its fields in a scope of the heap. Calling a class, `C()`, gives the instance
a deep copy of the class's scope (`Eval.instantiate`): a scope made by the call, numbered after
every scope that was there before, which the call leaves as they were. A field write
`let a.f = v` changes only the scope of the instance `a` names (`Eval.letField_frame`). Since
every evaluation only adds scopes, two instances made by calls have different scopes, and a
write through one changes neither the other nor the class (`call_instances_private`).

Creating an instance method-style, `obj.C()`, does not copy: the instance gets the class's own
scope (`Eval.dot`), so every instance made that way shares its fields with the class and with
the others (`method_instances_share`).
-/

namespace Monkey

/-! ### A copy only adds scopes -/

/-- A copy in progress whose heap has at least `n` scopes. -/
def CloneState.ScopesFrom (n : Nat) (s : CloneState) : Prop := n ≤ s.heap.scopes.size

namespace CloneState.ScopesFrom

open Cloning.Holds

variable {n : Nat}

/-- A step that leaves the scopes of the heap as they are. -/
theorem of_scopes {α : Type} {x : Cloning α}
    (hx : ∀ s a s', x.run s = .ok a s' → s'.heap.scopes = s.heap.scopes) :
  Cloning.Holds (ScopesFrom n) x fun _ => True
  := by
  intro s a s' hs hrun
  refine ⟨?_, trivial⟩
  rw [ScopesFrom, hx s a s' hrun]
  exact hs

theorem freshId :
  Cloning.Holds (ScopesFrom n) Cloning.freshId fun _ => True
  := of_scopes fun _ _ _ hrun => by cases hrun; rfl

theorem keep (i : Nat) (w : Value) :
  Cloning.Holds (ScopesFrom n) (Cloning.keep i w) fun _ => True
  := of_scopes fun _ _ _ hrun => by cases hrun; rfl

theorem elements (i : Nat) :
  Cloning.Holds (ScopesFrom n) (Cloning.elements i) fun _ => True
  := of_scopes fun _ _ _ hrun => by cases hrun; rfl

theorem bindings (i : Nat) :
  Cloning.Holds (ScopesFrom n) (Cloning.bindings i) fun _ => True
  := of_scopes fun _ _ _ hrun => by cases hrun; rfl

theorem listFor (i : Nat) :
  Cloning.Holds (ScopesFrom n) (Cloning.listFor i) fun _ => True
  := by
  unfold Cloning.listFor
  refine get_bind fun s a s' hs hrun => ?_
  split at hrun <;> cases hrun <;> exact ⟨hs, trivial⟩

theorem scopeFor (i : Nat) :
  Cloning.Holds (ScopesFrom n) (Cloning.scopeFor i) fun _ => True
  := by
  unfold Cloning.scopeFor
  refine get_bind fun s a s' hs hrun => ?_
  split at hrun
  · cases hrun
    exact ⟨hs, trivial⟩
  · cases hrun
    refine ⟨?_, trivial⟩
    simp only [ScopesFrom, Array.size_push] at hs ⊢
    omega

theorem fillList (j : Nat) (vs : Array Value) :
  Cloning.Holds (ScopesFrom n) (Cloning.fillList j vs) fun _ => True
  := of_scopes fun _ _ _ hrun => by cases hrun; rfl

theorem fillScope (j : Nat) (b : Bindings) :
  Cloning.Holds (ScopesFrom n) (Cloning.fillScope j b) fun _ => True
  := by
  intro s a s' hs hrun
  cases hrun
  exact ⟨by simpa [ScopesFrom] using hs, trivial⟩

theorem settle (j : Nat) (w : Value) :
  Cloning.Holds (ScopesFrom n) (Cloning.settle j w) fun _ => True
  := by
  intro s a s' hs hrun
  cases hrun
  exact ⟨by simpa [ScopesFrom] using hs, trivial⟩

/-- Copying a value never drops a scope. -/
theorem value (fuel : Nat) :
  ∀ v, Cloning.Holds (ScopesFrom n) (Cloning.value fuel v) fun _ => True
  := by
  induction fuel with
  | zero => exact fun _ => throw _
  | succ fuel ih =>
    have hbind : ∀ p : String × Value, True →
        Cloning.Holds (ScopesFrom n) (do Pure.pure (p.1, ← Cloning.value fuel p.2)) fun _ => True :=
      fun p _ => bind (ih p.2) fun _ _ => pure trivial
    intro v
    unfold Cloning.value
    split
    · exact pure trivial
    · refine get_bind fun s a s' hs hrun => ?_
      split at hrun
      · cases hrun
        exact ⟨hs, trivial⟩
      · refine (?_ : Cloning.Holds (ScopesFrom n) _ fun _ => True) s a s' hs hrun
        split
        · refine bind freshId fun _ _ => bind (listFor _) fun _ _ => bind (keep _ _) fun _ _ => ?_
          dsimp only
          split
          · refine bind (elements _) fun vs _ => ?_
            refine bind (array_mapM (fun w _ => ih w) vs fun _ _ => trivial) fun _ _ => ?_
            exact bind (fillList _ _) fun _ _ => pure trivial
          · exact pure trivial
        · refine bind freshId fun _ _ => bind (scopeFor _) fun _ _ => bind (keep _ _) fun _ _ => ?_
          dsimp only
          split
          · refine bind (bindings _) fun b _ => ?_
            refine bind (list_mapM hbind b fun _ _ => trivial) fun _ _ => ?_
            exact bind (fillScope _ _) fun _ _ => pure trivial
          · exact pure trivial
        · refine bind freshId fun _ _ => bind (scopeFor _) fun _ _ => bind (keep _ _) fun _ _ => ?_
          dsimp only
          split
          · refine bind (bindings _) fun b _ => ?_
            refine bind (list_mapM hbind b fun _ _ => trivial) fun _ _ => ?_
            exact bind (fillScope _ _) fun _ _ => pure trivial
          · exact pure trivial
        · refine bind freshId fun _ _ => bind (keep _ _) fun _ _ => ?_
          refine bind (list_mapM (P := fun _ => True) (Q := fun _ => True) (fun q _ => ?_) _
            fun _ _ => trivial) fun _ _ => bind (settle _ _) fun _ _ => pure trivial
          obtain ⟨k, kv, w⟩ := q
          exact bind (ih kv) fun _ _ => bind (ih w) fun _ _ => pure trivial
        · exact bind freshId fun _ _ => bind (keep _ _) fun _ _ =>
            bind (ih _) fun _ _ => bind (settle _ _) fun _ _ => pure trivial
        · exact bind freshId fun _ _ => bind (keep _ _) fun _ _ => pure trivial

end CloneState.ScopesFrom

/-! ### Calling a class -/

/-- The deep copy of a scope goes to a new scope, numbered after every scope of the heap, and
leaves every scope that was there as it was. -/
theorem Heap.cloneScope_new {h h' : Heap} {i c : Nat} (hc : h.cloneScope i = .ok (c, h')) :
  c = h.scopes.size ∧ h.scopes.size < h'.scopes.size ∧
    ∀ j < h.scopes.size, h'.scope j = h.scope j
  := by
  unfold Heap.cloneScope at hc
  dsimp only at hc
  split at hc
  · rename_i c' s hrun
    obtain ⟨rfl, rfl⟩ := Prod.mk.inj (Except.ok.inj hc)
    let s₁ : CloneState :=
      { heap := { h with scopes := h.scopes.push [] }, scopes := [(i, h.scopes.size)] }
    have h₁ : (Cloning.scopeFor i).run { heap := h } = .ok (h.scopes.size, true) s₁ := rfl
    rw [EStateM.run_bind, h₁] at hrun
    dsimp only at hrun
    rw [EStateM.run_bind] at hrun
    split at hrun
    · rename_i b s₂ hmap
      have hkeep : s₁.Keeps h := by
        refine ⟨by simp [s₁], fun k hk => ?_, ?_⟩
        · exact Heap.scope_push h [] hk
        · rintro p (_ | ⟨_, hp⟩)
          · exact Nat.le_refl _
          · nomatch hp
      have hv : ∀ q : String × Value,
          Cloning.Keeps h (do Pure.pure (q.1, ← Cloning.value Heap.cloneDepth q.2)) fun _ => True :=
        fun q => Cloning.Keeps.bind (Cloning.Keeps.value _ q.2) fun _ _ =>
          Cloning.Keeps.pure trivial
      have hs₂ := (Cloning.Keeps.list_mapM hv (h.scope i) s₁ b s₂ hkeep hmap).1
      have hsize : h.scopes.size + 1 ≤ s₂.heap.scopes.size :=
        (Cloning.Holds.list_mapM (P := fun _ => True) (Q := fun _ => True)
          (fun q _ => Cloning.Holds.bind (CloneState.ScopesFrom.value _ q.2) fun _ _ =>
            Cloning.Holds.pure trivial) (h.scope i) (fun _ _ => trivial)
          s₁ b s₂ (by simp [CloneState.ScopesFrom, s₁]) hmap).1
      rw [EStateM.run_bind] at hrun
      cases hrun
      refine ⟨rfl, by simpa using Nat.lt_of_succ_le hsize, fun j hj => ?_⟩
      rw [Heap.scope_setScope _ _ _ (Nat.ne_of_lt hj)]
      exact hs₂.scope_eq j hj
    · cases hrun
  · cases hc

namespace Eval

/-- Calling a class gives an instance whose scope is new, after every scope that was there,
and leaves those scopes as they were. -/
theorem instantiate_new {sc : Nat} {m m' : Machine} {v : Value}
    (h : (Eval.instantiate sc).run m = .ok v m') :
  ∃ id, v = .inst id m.heap.scopes.size ∧ m.heap.scopes.size < m'.heap.scopes.size ∧
    ∀ j < m.heap.scopes.size, m'.heap.scope j = m.heap.scope j
  := by
  unfold Eval.instantiate at h
  have hheap : Run.heap.run m = .ok m.heap m := rfl
  rw [EStateM.run_bind, hheap] at h
  dsimp only at h
  cases hc : m.heap.cloneScope sc with
  | error e =>
    rw [hc] at h
    cases h
  | ok p =>
    obtain ⟨c, h'⟩ := p
    obtain ⟨rfl, hlt, hold⟩ := Heap.cloneScope_new hc
    rw [hc] at h
    cases h
    exact ⟨_, rfl, hlt, hold⟩

/-- A field write `let x.f = e`, once its value is computed, changes no scope but the one of the
instance `x` names. -/
theorem letField_frame {fuel : Nat} {fr : Frame} {t : Token} {x f : Ident} {e : Option Expr}
    {m m₁ : Machine} {v : Value} (he : (Eval.expr fuel fr e).run m = .ok v m₁) {j : Nat}
    (hj : ∀ id, m₁.heap.lookup x.name fr.chain ≠ some (.inst id j)) :
  (stateAfter (Eval.stmt (fuel + 1) fr (.letStmt t x e (some f))) m).heap.scope j
    = m₁.heap.scope j
  := by
  rw [Eval.stmt, stateAfter_bind_ok he]
  split
  · rfl
  · have hheap : Run.heap.run m₁ = .ok m₁.heap m₁ := rfl
    rw [stateAfter_bind_ok hheap]
    split
    · rename_i id sc hl
      split
      · have hsc : j ≠ sc := fun h => hj id (h ▸ hl)
        show (m₁.heap.bind sc f.name v).scope j = _
        rw [Heap.scope_bind, if_neg fun h => hsc h.1]
      · rfl
    · rfl

/-- A field write through an instance changes no other scope. -/
theorem letField_other {fuel : Nat} {fr : Frame} {t : Token} {x f : Ident}
    {e : Option Expr} {m m₁ : Machine} {v : Value} (he : (Eval.expr fuel fr e).run m = .ok v m₁)
    {i s j : Nat} (hx : m₁.heap.lookup x.name fr.chain = some (.inst i s)) (hj : s ≠ j) :
  (stateAfter (Eval.stmt (fuel + 1) fr (.letStmt t x e (some f))) m).heap.scope j
    = m₁.heap.scope j
  := by
  refine letField_frame he fun id h => hj ?_
  rw [hx] at h
  exact (Value.inst.inj (Option.some.inj h)).2

/-- An assignment `x = e`, once its value is computed, changes no scope off the chain of its
frame. -/
theorem assign_other {fuel : Nat} {fr : Frame} {t : Token} {x : Ident} {e : Option Expr}
    {m m₁ : Machine} {v : Value} (he : (Eval.expr fuel fr e).run m = .ok v m₁) {j : Nat}
    (hj : j ∉ fr.chain) :
  (stateAfter (Eval.stmt (fuel + 1) fr (.assign t x e)) m).heap.scope j = m₁.heap.scope j
  := by
  rw [Eval.stmt, stateAfter_bind_ok he]
  split
  · rfl
  · have hheap : Run.heap.run m₁ = .ok m₁.heap m₁ := rfl
    rw [stateAfter_bind_ok hheap]
    split
    · rfl
    · show (m₁.heap.assign x.name v fr.chain).scope j = _
      exact Heap.scope_assign_other _ hj

end Eval

/-! ### Instances made by calls -/

/-- Instances made by calls keep their fields apart. Take an instance `a` of a class with
scope `sc`, made by a call, then a run that drops no scope (every evaluation is one, by
`Eval.scopesDisciplined`), then an instance `b` made by a call. The call that makes `a` leaves
the class's scope as it was. A field write through `a` changes neither the scope of `b` nor the
class's, from which later instances start, and a field write through `b` does not change the
scope of `a`. The same holds of an assignment made by a method of `a` or of `b`: a method of an
instance runs in front of the instance's scope, in scopes it makes itself, numbered after both
instances (`Eval.dot`, `Eval.apply`). -/
theorem call_instances_private {sc sc' : Nat} {m₀ m₁ m₂ m₃ : Machine} {a b : Value}
    (hsc : sc < m₀.heap.scopes.size) (ha : (Eval.instantiate sc).run m₀ = .ok a m₁)
    (hgrow : m₁.heap.scopes.size ≤ m₂.heap.scopes.size)
    (hb : (Eval.instantiate sc').run m₂ = .ok b m₃) :
  ∃ ida idb sa sb, a = .inst ida sa ∧ b = .inst idb sb ∧ m₁.heap.scope sc = m₀.heap.scope sc ∧
    (∀ fuel fr t x e f (m m₄ : Machine) v, (Eval.expr fuel fr e).run m = .ok v m₄ →
      let m₅ := stateAfter (Eval.stmt (fuel + 1) fr (.letStmt t x e (some f))) m
      (m₄.heap.lookup x.name fr.chain = some a →
        m₅.heap.scope sb = m₄.heap.scope sb ∧ m₅.heap.scope sc = m₄.heap.scope sc) ∧
      (m₄.heap.lookup x.name fr.chain = some b → m₅.heap.scope sa = m₄.heap.scope sa)) ∧
    (∀ fuel (ks : List Nat) inLoop t x e (m m₄ : Machine) v,
      (∀ k ∈ ks, m₃.heap.scopes.size ≤ k) →
      (Eval.expr fuel ⟨ks ++ [sa], inLoop⟩ e).run m = .ok v m₄ →
      let m₅ := stateAfter (Eval.stmt (fuel + 1) ⟨ks ++ [sa], inLoop⟩ (.assign t x e)) m
      m₅.heap.scope sb = m₄.heap.scope sb ∧ m₅.heap.scope sc = m₄.heap.scope sc) ∧
    ∀ fuel (ks : List Nat) inLoop t x e (m m₄ : Machine) v,
      (∀ k ∈ ks, m₃.heap.scopes.size ≤ k) →
      (Eval.expr fuel ⟨ks ++ [sb], inLoop⟩ e).run m = .ok v m₄ →
      (stateAfter (Eval.stmt (fuel + 1) ⟨ks ++ [sb], inLoop⟩ (.assign t x e)) m).heap.scope sa
        = m₄.heap.scope sa
  := by
  obtain ⟨ida, rfl, hlt, hold⟩ := Eval.instantiate_new ha
  obtain ⟨idb, rfl, hlt', -⟩ := Eval.instantiate_new hb
  have hab : m₀.heap.scopes.size ≠ m₂.heap.scopes.size := by omega
  have hca : m₀.heap.scopes.size ≠ sc := by omega
  have hoff : ∀ {ks : List Nat} {s j : Nat}, (∀ k ∈ ks, m₃.heap.scopes.size ≤ k) →
      j < m₃.heap.scopes.size → j ≠ s → j ∉ ks ++ [s] := by
    intro ks s j hks hj hjs hmem
    rcases List.mem_append.1 hmem with hk | hk
    · exact absurd (hks j hk) (Nat.not_le_of_lt hj)
    · exact hjs (List.mem_singleton.1 hk)
  refine ⟨ida, idb, _, _, rfl, rfl, hold sc hsc, fun fuel fr t x e f m m₄ v he => ?_,
    fun fuel ks inLoop t x e m m₄ v hks he => ?_, fun fuel ks inLoop t x e m m₄ v hks he => ?_⟩
  · exact ⟨fun hx => ⟨Eval.letField_other he hx hab, Eval.letField_other he hx hca⟩,
      fun hx => Eval.letField_other he hx (Ne.symm hab)⟩
  · exact ⟨Eval.assign_other he (hoff hks hlt' (Ne.symm hab)),
      Eval.assign_other he (hoff hks (by omega) (Ne.symm hca))⟩
  · exact Eval.assign_other he (hoff hks (by omega) hab)

/-- Two calls of the class whose scope binds `v` give instances with scopes `1` and `2`, and a
field write through the first leaves the scope of the second as it was. -/
theorem two_calls_apart :
  let m₀ : Machine := { heap := ⟨#[[("v", .ofInt 0)]], #[], 32⟩ }
  let m₁ := stateAfter (Eval.instantiate 0) m₀
  let m₃ := stateAfter (Eval.instantiate 0) m₁
  (Eval.instantiate 0).run m₀ = .ok (.inst 32 1) m₁ ∧
    (Eval.instantiate 0).run m₁ = .ok (.inst 33 2) m₃ ∧
    ∀ fuel fr t x e f (m m₄ : Machine) v, (Eval.expr fuel fr e).run m = .ok v m₄ →
      m₄.heap.lookup x.name fr.chain = some (.inst 32 1) →
      (stateAfter (Eval.stmt (fuel + 1) fr (.letStmt t x e (some f))) m).heap.scope 2
        = m₄.heap.scope 2
  := by
  intro m₀ m₁ m₃
  have h₁ : (Eval.instantiate 0).run m₀ = .ok (.inst 32 1) m₁ := rfl
  have h₂ : (Eval.instantiate 0).run m₁ = .ok (.inst 33 2) m₃ := rfl
  obtain ⟨_, _, _, _, ha, hb, -, hw, -⟩ :=
    call_instances_private Nat.zero_lt_one h₁ (Nat.le_refl _) h₂
  cases ha
  cases hb
  exact ⟨h₁, h₂, fun fuel fr t x e f m m₄ v he hx => ((hw fuel fr t x e f m m₄ v he).1 hx).1⟩

/-- Instances made method-style share the class's scope: after
`let C = class { let D = class { let v = 0; }; }; let a = C(); let i = a.D(); let j = a.D();`,
the write `let i.v = 5;` is read back through `j`. -/
theorem method_instances_share :
  let tok : Token := ⟨.ident, "x"⟩
  let var (n : String) : Option Expr := some (.ident ⟨tok, n⟩)
  let num (k : Int) : Option Expr := some (.number tok (.int k))
  let classOf (field : String) (k : Int) : Option Expr :=
    some (.classDef tok (.mk tok [.letStmt tok ⟨tok, field⟩ (num k) none]))
  let dotCall (obj cls : String) : Option Expr :=
    some (.infixOp tok (var obj) "." (some (.call tok (var cls) (some []))))
  let p : Program := ⟨[
    .letStmt tok ⟨tok, "C"⟩
      (some (.classDef tok (.mk tok [.letStmt tok ⟨tok, "D"⟩ (classOf "v" 0) none]))) none,
    .letStmt tok ⟨tok, "a"⟩ (some (.call tok (var "C") (some []))) none,
    .letStmt tok ⟨tok, "i"⟩ (dotCall "a" "D") none,
    .letStmt tok ⟨tok, "j"⟩ (dotCall "a" "D") none,
    .letStmt tok ⟨tok, "i"⟩ (num 5) (some ⟨tok, "v"⟩),
    .exprStmt tok (some (.infixOp tok (var "j") "." (var "v")))]⟩
  ((do p.eval (← Run.topFrame)).run ({} : Machine) matches .ok (.num (.int 5) 0) _) = true
  := by
  decide +kernel

end Monkey
