import Monkey.Session

/-!
# How runs change the scopes

A run may make new scopes, but what it does to the scopes that exist when it starts is
restricted: `Heap.Grows add h h'` says that no scope of `h` loses a name in `h'`, and that a
scope `i` of `h` gains a name `n` only where `add i n` allows it. `Run.Grows add x` says this
of every run of `x`, whether it gives a result or stops with a fault (`stateAfter`).

The relation is a preorder for each `add`, so runs put together keep it (`Run.Grows.bind`).
This module proves it of the parts that evaluation is made of: the heap operations, the deep
copy of a scope (`Heap.cloneScope`, through an invariant of the copy in progress), the
builtins, and the loops and sequences of `Run`. A computation in front of a new scope may add
names to that scope and still keeps the older ones as they were (`Run.Grows.newScope_bind`).
-/

namespace Monkey

/-! ### The state a computation ends in -/

/-- The state a computation ends in, whether it gives a result or stops with an error. -/
def stateAfter {ε σ α : Type} (x : EStateM ε σ α) (s : σ) : σ :=
  match x.run s with
  | .ok _ s' => s'
  | .error _ s' => s'

section StateAfter

variable {ε σ α β : Type} {x : EStateM ε σ α} {f : α → EStateM ε σ β} {s s' : σ}

theorem stateAfter_of_ok {a : α} (h : x.run s = .ok a s') :
  stateAfter x s = s'
  := by
  simp [stateAfter, h]

theorem stateAfter_of_error {e : ε} (h : x.run s = .error e s') :
  stateAfter x s = s'
  := by
  simp [stateAfter, h]

theorem stateAfter_bind_ok {a : α} (h : x.run s = .ok a s') :
  stateAfter (x >>= f) s = stateAfter (f a) s'
  := by
  simp [stateAfter, h]

theorem stateAfter_bind_error {e : ε} (h : x.run s = .error e s') :
  stateAfter (x >>= f) s = s'
  := by
  simp [stateAfter, h]

theorem stateAfter_map (g : α → β) (x : EStateM ε σ α) (s : σ) :
  stateAfter (g <$> x) s = stateAfter x s
  := by
  simp only [stateAfter, EStateM.run, Functor.map, EStateM.map]
  cases x s <;> rfl

end StateAfter

/-! ### The names of a scope -/

namespace Bindings

theorem binds_put_iff (b : Bindings) (name other : String) (v : Value) :
  (b.put name v).binds other = true ↔ other = name ∨ b.binds other = true
  := by
  by_cases h : other = name
  · subst h
    simp [binds, get?_put_self]
  · simp [binds, get?_put_other name other v b h, h]

/-- Binding a name that is bound already changes no name. -/
theorem binds_put_of_binds {b : Bindings} {name : String} (hb : b.binds name = true)
    (other : String) (v : Value) :
  (b.put name v).binds other = b.binds other
  := by
  apply Bool.eq_iff_iff.2
  rw [binds_put_iff]
  constructor
  · rintro (rfl | h)
    · exact hb
    · exact h
  · exact Or.inr

end Bindings

/-! ### The scopes of a heap under its operations -/

namespace Heap

theorem scope_bind (h : Heap) (i : Nat) (name : String) (v : Value) (j : Nat) :
  (h.bind i name v).scope j
    = if j = i ∧ j < h.scopes.size then (h.scope j).put name v else h.scope j
  := by
  simp only [bind, scope]
  split
  · rename_i hj
    obtain ⟨rfl, hlt⟩ := hj
    simp [Array.getD_eq_getD_getElem?, hlt, Array.getElem_modify]
  · rename_i hj
    by_cases hji : j = i
    · subst hji
      have hge : h.scopes.size ≤ j := Nat.le_of_not_lt fun hlt => hj ⟨rfl, hlt⟩
      simp [Array.getD_eq_getD_getElem?, hge]
    · simp [Array.getD_eq_getD_getElem?, Array.getElem?_modify, Ne.symm hji]

theorem scope_bind_other (h : Heap) (i : Nat) (name : String) (v : Value) {j : Nat}
    (hj : j ≠ i) :
  (h.bind i name v).scope j = h.scope j
  := by
  rw [scope_bind, if_neg fun h => hj h.1]

/-- Assignment changes only scopes of the chain. -/
theorem scope_assign_other (h : Heap) {name : String} {v : Value} {chain : List Nat} {j : Nat}
    (hj : j ∉ chain) :
  (h.assign name v chain).scope j = h.scope j
  := by
  unfold assign
  split
  · rename_i i hi
    exact scope_bind_other h i name v fun h => hj (h ▸ List.mem_of_find?_eq_some hi)
  · split
    · rfl
    · exact scope_bind_other h _ name v fun h => hj (h ▸ List.mem_cons_self)

@[simp] theorem size_bind (h : Heap) (i : Nat) (name : String) (v : Value) :
  (h.bind i name v).scopes.size = h.scopes.size
  := by
  simp [bind]

theorem scope_push (h : Heap) (b : Bindings) {j : Nat} (hj : j < h.scopes.size) :
  (h.scopes.push b).getD j [] = h.scope j
  := by
  simp [scope, Array.getD_eq_getD_getElem?, Array.getElem?_push, Nat.ne_of_lt hj, hj]

theorem scope_setScope (h : Heap) (i : Nat) (b : Bindings) {j : Nat} (hj : j ≠ i) :
  (h.setScope i b).scope j = h.scope j
  := by
  simp [setScope, scope, Array.getD_eq_getD_getElem?, Array.set!_eq_setIfInBounds, Ne.symm hj]

@[simp] theorem size_setScope (h : Heap) (i : Nat) (b : Bindings) :
  (h.setScope i b).scopes.size = h.scopes.size
  := by
  simp [setScope]

/-- Where a scope of the chain binds the name, assignment rebinds it there: no scope gains or
loses a name. -/
theorem binds_assign {h : Heap} {name : String} {chain : List Nat}
    (hf : (chain.find? fun i => (h.scope i).binds name).isSome) (v : Value) (j : Nat)
    (other : String) :
  ((h.assign name v chain).scope j).binds other = (h.scope j).binds other
  := by
  obtain ⟨i, hi⟩ := Option.isSome_iff_exists.1 hf
  have hb : (h.scope i).binds name = true := by simpa using List.find?_some hi
  unfold assign
  rw [hi, scope_bind]
  split
  · rename_i hj
    obtain ⟨rfl, -⟩ := hj
    exact Bindings.binds_put_of_binds hb other v
  · rfl

/-- Lookup finds a name exactly where some scope of the chain binds it. -/
theorem lookup_isSome (h : Heap) (name : String) (chain : List Nat) :
  (h.lookup name chain).isSome = (chain.find? fun i => (h.scope i).binds name).isSome
  := by
  induction chain with
  | nil => rfl
  | cons i rest ih =>
    simp only [lookup, List.find?_cons, Bindings.binds]
    cases (h.scope i).get? name with
    | some v => rfl
    | none => exact ih

/-! ### Heaps that only grow -/

/-- `h'` keeps every scope of `h` with its names, except that a scope `i` may gain a name
`n` where `add i n`; new scopes may follow. -/
def Grows (add : Nat → String → Prop) (h h' : Heap) : Prop :=
  h.scopes.size ≤ h'.scopes.size ∧
    ∀ i < h.scopes.size, ∀ n,
      ((h.scope i).binds n = true → (h'.scope i).binds n = true) ∧
      ((h'.scope i).binds n = true → (h.scope i).binds n = true ∨ add i n)

namespace Grows

variable {add add' : Nat → String → Prop} {h h₁ h₂ : Heap}

theorem refl (h : Heap) :
  h.Grows add h
  := ⟨Nat.le_refl _, fun _ _ _ => ⟨id, Or.inl⟩⟩

theorem trans (h₀₁ : h.Grows add h₁) (h₁₂ : h₁.Grows add h₂) :
  h.Grows add h₂
  := by
  refine ⟨Nat.le_trans h₀₁.1 h₁₂.1, fun i hi n => ⟨fun hb => ?_, fun hb => ?_⟩⟩
  · exact (h₁₂.2 i (Nat.lt_of_lt_of_le hi h₀₁.1) n).1 ((h₀₁.2 i hi n).1 hb)
  · rcases (h₁₂.2 i (Nat.lt_of_lt_of_le hi h₀₁.1) n).2 hb with hb₁ | hadd
    · exact (h₀₁.2 i hi n).2 hb₁
    · exact Or.inr hadd

/-- Only the gains allowed at the scopes of `h` matter. -/
theorem mono (hg : h.Grows add h₁) (hadd : ∀ i < h.scopes.size, ∀ n, add i n → add' i n) :
  h.Grows add' h₁
  := by
  refine ⟨hg.1, fun i hi n => ⟨(hg.2 i hi n).1, fun hb => ?_⟩⟩
  rcases (hg.2 i hi n).2 hb with hb' | ha
  · exact Or.inl hb'
  · exact Or.inr (hadd i hi n ha)

/-- A heap with the same scopes. -/
theorem of_scopes_eq (hs : h₁.scopes = h.scopes) :
  h.Grows add h₁
  := by
  refine ⟨Nat.le_of_eq (congrArg Array.size hs.symm), fun i _ n => ?_⟩
  simp only [scope, hs]
  exact ⟨id, Or.inl⟩

/-- A heap with one more scope. -/
theorem push (b : Bindings) :
  h.Grows add { h with scopes := h.scopes.push b }
  := by
  refine ⟨by simp, fun i hi n => ?_⟩
  simp only [scope] at *
  rw [scope_push h b hi]
  exact ⟨id, Or.inl⟩

/-- Binding a name in a scope that binds it already. -/
theorem bind_of_binds {i : Nat} {name : String} (hb : (h.scope i).binds name = true)
    (v : Value) :
  h.Grows add (h.bind i name v)
  := by
  refine ⟨Nat.le_of_eq (size_bind h i name v).symm, fun j _ n => ?_⟩
  rw [scope_bind]
  split
  · rename_i hj
    obtain ⟨rfl, -⟩ := hj
    rw [Bindings.binds_put_of_binds hb]
    exact ⟨id, Or.inl⟩
  · exact ⟨id, Or.inl⟩

/-- Binding a name in a scope where it may be gained. -/
theorem bind {i : Nat} {name : String} (hadd : add i name) (v : Value) :
  h.Grows add (h.bind i name v)
  := by
  refine ⟨Nat.le_of_eq (size_bind h i name v).symm, fun j _ n => ?_⟩
  rw [scope_bind]
  split
  · rename_i hj
    obtain ⟨rfl, -⟩ := hj
    rw [Bindings.binds_put_iff]
    refine ⟨Or.inr, ?_⟩
    rintro (rfl | hb)
    · exact Or.inr hadd
    · exact Or.inl hb
  · exact ⟨id, Or.inl⟩

/-- Assigning to a name that lookup finds. -/
theorem assign {name : String} {chain : List Nat} (hl : (h.lookup name chain).isSome) (v : Value) :
  h.Grows add (h.assign name v chain)
  := by
  have hf : (chain.find? fun i => (h.scope i).binds name).isSome := by
    rwa [← lookup_isSome]
  have hsize : (h.assign name v chain).scopes.size = h.scopes.size := by
    obtain ⟨i, hi⟩ := Option.isSome_iff_exists.1 hf
    simp only [Heap.assign, hi, size_bind]
  refine ⟨Nat.le_of_eq hsize.symm, fun j _ n => ?_⟩
  rw [binds_assign hf v j n]
  exact ⟨id, Or.inl⟩

/-- A name that no scope of a chain binds stays unbound there when no scope gains a name, as
long as the chain holds only scopes that exist. -/
theorem lookup_eq_none (hg : h.Grows (fun _ _ => False) h₁) {name : String} {chain : List Nat}
    (hchain : ∀ i ∈ chain, i < h.scopes.size) (hl : h.lookup name chain = none) :
  h₁.lookup name chain = none
  := by
  have hnone : ∀ h₀ : Heap,
      h₀.lookup name chain = none ↔ ∀ i ∈ chain, (h₀.scope i).binds name = false := by
    intro h₀
    rw [← Option.not_isSome_iff_eq_none, lookup_isSome, Option.not_isSome_iff_eq_none,
      List.find?_eq_none]
    simp
  rw [hnone] at hl ⊢
  intro i hi
  cases hb : (h₁.scope i).binds name with
  | false => rfl
  | true =>
    rcases (hg.2 i (hchain i hi) name).2 hb with hb₀ | hfalse
    · rw [hl i hi] at hb₀
      cases hb₀
    · exact hfalse.elim

end Grows

end Heap

/-- The top-level frame is a new empty scope, numbered after the scopes of the heap. -/
theorem Run.topFrame_run (m : Machine) :
  Run.topFrame.run m =
    .ok ⟨[m.heap.scopes.size], false⟩ { m with heap := (m.heap.newScope []).2 }
  := rfl

/-! ### Runs that only grow the heap -/

/-- Every run of `x`, from any machine, ends with a heap that grows the one it started with
as `add` allows. -/
def Run.Grows (add : Nat → String → Prop) {α : Type} (x : Run α) : Prop :=
  ∀ m : Machine, m.heap.Grows add (stateAfter x m).heap

namespace Run.Grows

variable {add add' : Nat → String → Prop} {α β : Type}

theorem pure (a : α) :
  Run.Grows add (Pure.pure a : Run α)
  := fun m => Heap.Grows.refl m.heap

theorem throw (f : Fault) :
  Run.Grows add (MonadExcept.throw f : Run α)
  := fun m => Heap.Grows.refl m.heap

theorem bind {x : Run α} {f : α → Run β} (hx : Run.Grows add x)
    (hf : ∀ a, Run.Grows add (f a)) :
  Run.Grows add (x >>= f)
  := by
  intro m
  cases h : x.run m with
  | ok a m₁ =>
    rw [stateAfter_bind_ok h]
    have h₁ := hx m
    rw [stateAfter_of_ok h] at h₁
    exact h₁.trans (hf a m₁)
  | error e m₁ =>
    rw [stateAfter_bind_error h]
    have h₁ := hx m
    rwa [stateAfter_of_error h] at h₁

theorem mono {x : Run α} (hx : Run.Grows add x) (hadd : ∀ i n, add i n → add' i n) :
  Run.Grows add' x
  := fun m => (hx m).mono fun i _ n => hadd i n

/-- A run that keeps every name of every scope grows the heap as any `add` allows. -/
theorem weaken {x : Run α} (hx : Run.Grows (fun _ _ => False) x) :
  Run.Grows add x
  := hx.mono fun _ _ h => h.elim

/-- A run that leaves the scopes as they are. -/
theorem of_scopes {x : Run α} (hx : ∀ m, (stateAfter x m).heap.scopes = m.heap.scopes) :
  Run.Grows add x
  := fun m => Heap.Grows.of_scopes_eq (hx m)

theorem heap :
  Run.Grows add Run.heap
  := of_scopes fun _ => rfl

theorem get :
  Run.Grows add (MonadState.get : Run Machine)
  := of_scopes fun _ => rfl

theorem onHeap {f : Heap → Heap} (hf : ∀ h : Heap, h.Grows add (f h)) :
  Run.Grows add (Run.onHeap f)
  := fun m => hf m.heap

/-- A change of the heap that leaves its scopes as they are. -/
theorem onHeap_of_scopes {f : Heap → Heap} (hf : ∀ h : Heap, (f h).scopes = h.scopes) :
  Run.Grows add (Run.onHeap f)
  := onHeap fun h => Heap.Grows.of_scopes_eq (hf h)

theorem fresh :
  Run.Grows add Run.fresh
  := of_scopes fun _ => rfl

theorem newList (vs : Array Value) :
  Run.Grows add (Run.newList vs)
  := of_scopes fun _ => rfl

theorem newArray (vs : Array Value) :
  Run.Grows add (Run.newArray vs)
  := (newList vs).bind fun _ => fresh.bind fun _ => pure _

theorem newScope (b : Bindings) :
  Run.Grows add (Run.newScope b)
  := fun _ => Heap.Grows.push b

theorem lift (r : Except Fault α) :
  Run.Grows add (Run.lift r)
  := by
  cases r with
  | ok a => exact pure a
  | error e => exact throw e

theorem write (s : String) :
  Run.Grows add (Run.write s)
  := of_scopes fun _ => rfl

theorem map {x : Run α} (hx : Run.Grows add x) (g : α → β) :
  Run.Grows add (g <$> x)
  := by
  intro m
  rw [stateAfter_map]
  exact hx m

/-- A change of the machine that leaves the scopes as they are. -/
theorem modifyMachine {f : Machine → Machine} (hf : ∀ m, (f m).heap.scopes = m.heap.scopes) :
  Run.Grows add (modify f : Run PUnit)
  := of_scopes hf

theorem readLine :
  Run.Grows add Run.readLine
  := by
  unfold Run.readLine
  refine get.bind fun _ => ?_
  split
  · exact throw _
  · refine bind (modifyMachine fun _ => ?_) fun _ => pure _
    rfl

/-- A computation in front of a new scope may add names to it: the older scopes gain only
what `add` allows, since the new scope is none of them. -/
theorem newScope_bind {b : Bindings} {f : Nat → Run α}
    (hf : ∀ i, Run.Grows (fun j n => add j n ∨ j = i) (f i)) :
  Run.Grows add (Run.newScope b >>= f)
  := by
  intro m
  let m₁ : Machine := { m with heap := { m.heap with scopes := m.heap.scopes.push b } }
  have hrun : (Run.newScope b).run m = .ok m.heap.scopes.size m₁ := rfl
  rw [stateAfter_bind_ok hrun]
  have h₁ : m.heap.Grows (fun j n => add j n ∨ j = m.heap.scopes.size) m₁.heap :=
    Heap.Grows.push b
  refine (h₁.trans (hf _ m₁)).mono fun i hi n hadd => ?_
  rcases hadd with hadd | rfl
  · exact hadd
  · exact absurd hi (Nat.lt_irrefl _)

/-- A computation that starts by reading the heap, judged on each machine with the heap it
reads there. -/
theorem heap_bind {f : Heap → Run α}
    (hf : ∀ m : Machine, m.heap.Grows add (stateAfter (f m.heap) m).heap) :
  Run.Grows add (Run.heap >>= f)
  := by
  intro m
  rw [stateAfter_bind_ok (rfl : Run.heap.run m = .ok m.heap m)]
  exact hf m

/-! ### Sequences and loops -/

theorem seq {γ : Type} {act : γ → Run Value} {ends : Value → Bool} :
  ∀ {l : List γ}, (∀ a ∈ l, Run.Grows add (act a)) → ∀ last,
    Run.Grows add (Run.seq act ends l last)
  | [], _, last => pure last
  | a :: rest, hact, _ => by
    refine (hact a List.mem_cons_self).bind fun v => ?_
    split
    · exact pure v
    · exact seq (fun b hb => hact b (List.mem_cons_of_mem a hb)) v

theorem values {γ : Type} {act : γ → Run Value} (hact : ∀ a, Run.Grows add (act a)) :
  ∀ l : List γ, Run.Grows add (Run.values act l)
  | [] => pure _
  | a :: rest => by
    refine (hact a).bind fun v => ?_
    split
    · exact pure _
    · refine (values hact rest).bind fun r => ?_
      split
      · exact pure _
      · exact pure _

/-- A loop grows the heap as its rounds do, however many rounds it runs. -/
theorem loopFor {σ γ : Type} {round : σ → Run (Round σ γ)}
    (hround : ∀ s, Run.Grows add (round s)) :
  ∀ bound s, Run.Grows add (Run.loopFor bound round s)
  | 0, _ => throw _
  | bound + 1, s => by
    refine (hround s).bind fun r => ?_
    cases r with
    | next s' => exact loopFor hround bound s'
    | done a => exact pure a

theorem loop {σ γ : Type} {round : σ → Run (Round σ γ)}
    (hround : ∀ s, Run.Grows add (round s)) (s : σ) :
  Run.Grows add (Run.loop round s)
  := loopFor hround _ s

theorem forIn_list {γ δ : Type} {f : γ → δ → Run (ForInStep δ)}
    (hf : ∀ a b, Run.Grows add (f a b)) :
  ∀ (l : List γ) (b : δ), Run.Grows add (forIn l b f)
  | [], b => pure b
  | a :: rest, b => by
    rw [List.forIn_cons]
    refine (hf a b).bind fun r => ?_
    cases r with
    | done b' => exact pure b'
    | yield b' => exact forIn_list hf rest b'

end Run.Grows

/-! ### Settling a copy -/

namespace CloneState

variable {s : CloneState} {j : Nat} {w : Value}

@[simp] theorem settle_scopes_size :
  (s.settle j w).heap.scopes.size = s.heap.scopes.size
  := by
  simp [settle]

@[simp] theorem settle_made :
  (s.settle j w).scopes = s.scopes
  := rfl

@[simp] theorem settle_nextId :
  (s.settle j w).heap.nextId = s.heap.nextId
  := rfl

/-- Settling leaves the scopes the copy did not make as they are. -/
theorem scope_settle_of_not_made {k : Nat} (hk : madeIn s.scopes k = false) :
  (s.settle j w).heap.scope k = s.heap.scope k
  := by
  simp only [settle, Heap.scope, Array.getD_eq_getD_getElem?, Array.getElem?_mapIdx, hk]
  cases s.heap.scopes[k]? <;> rfl

/-- A number that no entry of `made` points to was not made. -/
theorem madeIn_eq_false {made : List (Nat × Nat)} {k : Nat} (hk : ∀ p ∈ made, p.2 ≠ k) :
  madeIn made k = false
  := by
  simp only [madeIn, List.any_eq_false, beq_iff_eq]
  exact hk

variable {Q : Value → Prop} (hQ : ∀ v, Q v → Q (Value.settle j w v))
include hQ

/-- A property of values that settling keeps holds of the scopes after settling. -/
theorem settle_scopes (hb : ∀ b ∈ s.heap.scopes, ∀ p ∈ b, Q p.2) :
  ∀ b ∈ (s.settle j w).heap.scopes, ∀ p ∈ b, Q p.2
  := by
  intro b hb' p hp
  obtain ⟨k, hk, rfl⟩ := Array.mem_mapIdx.1 hb'
  split at hp
  · obtain ⟨⟨n, v⟩, hq, rfl⟩ := List.mem_map.1 hp
    exact hQ v (hb _ (Array.getElem_mem hk) (n, v) hq)
  · exact hb _ (Array.getElem_mem hk) p hp

/-- A property of values that settling keeps holds of the lists after settling. -/
theorem settle_lists (hl : ∀ l ∈ s.heap.lists, ∀ v ∈ l, Q v) :
  ∀ l ∈ (s.settle j w).heap.lists, ∀ v ∈ l, Q v
  := by
  intro l hl' v hv
  obtain ⟨k, hk, rfl⟩ := Array.mem_mapIdx.1 hl'
  split at hv
  · obtain ⟨u, hu, rfl⟩ := Array.mem_map.1 hv
    exact hQ _ (hl _ (Array.getElem_mem hk) u hu)
  · exact hl _ (Array.getElem_mem hk) v hv

/-- A property of values that settling keeps holds of what the objects became. -/
theorem settle_objects (ho : ∀ p ∈ s.objects, Q p.2) :
  ∀ p ∈ (s.settle j w).objects, Q p.2
  := by
  intro p hp
  obtain ⟨⟨i, v⟩, hq, rfl⟩ := List.mem_map.1 hp
  exact hQ v (ho (i, v) hq)

end CloneState

/-! ### Copying a scope -/

/-- A copy in progress has touched no scope of the heap `h` it started from: those scopes are
there as they were, and every scope the copy has made comes after them. -/
structure CloneState.Keeps (h : Heap) (s : CloneState) : Prop where
  size_le : h.scopes.size ≤ s.heap.scopes.size
  scope_eq : ∀ i < h.scopes.size, s.heap.scope i = h.scope i
  made_after : ∀ p ∈ s.scopes, h.scopes.size ≤ p.2

theorem CloneState.Keeps.start (h : Heap) :
  CloneState.Keeps h { heap := h }
  := ⟨Nat.le_refl _, fun _ _ => rfl, fun _ hp => nomatch hp⟩

theorem CloneState.Keeps.grows {add : Nat → String → Prop} {h : Heap} {s : CloneState}
    (hs : s.Keeps h) :
  h.Grows add s.heap
  := by
  refine ⟨hs.size_le, fun i hi n => ?_⟩
  rw [hs.scope_eq i hi]
  exact ⟨id, Or.inl⟩

/-- Every successful run of `x` from a state that keeps `h` ends in one that keeps `h`, with a
result satisfying `Q`. A failed copy leaves no heap behind, so failures need no care. -/
def Cloning.Keeps (h : Heap) {α : Type} (x : Cloning α) (Q : α → Prop) : Prop :=
  ∀ s a s', s.Keeps h → x.run s = .ok a s' → s'.Keeps h ∧ Q a

namespace Cloning.Keeps

variable {h : Heap} {α β : Type} {Q : α → Prop} {R : β → Prop}

theorem pure {a : α} (ha : Q a) :
  Cloning.Keeps h (Pure.pure a) Q
  := by
  intro s b s' hs hrun
  cases hrun
  exact ⟨hs, ha⟩

theorem throw (e : Fault) :
  Cloning.Keeps h (MonadExcept.throw e : Cloning α) Q
  := by
  intro _ _ _ _ hrun
  cases hrun

theorem bind {x : Cloning α} {f : α → Cloning β} (hx : Cloning.Keeps h x Q)
    (hf : ∀ a, Q a → Cloning.Keeps h (f a) R) :
  Cloning.Keeps h (x >>= f) R
  := by
  intro s b s' hs hrun
  rw [EStateM.run_bind] at hrun
  split at hrun
  · rename_i a s₁ hx₁
    obtain ⟨hs₁, ha⟩ := hx s a s₁ hs hx₁
    exact hf a ha s₁ b s' hs₁ hrun
  · cases hrun

/-- A step that changes neither the scopes of the heap nor the scopes the copy has made. -/
theorem of_scopes {x : Cloning α}
    (hx : ∀ s a s', x.run s = .ok a s' → s'.heap.scopes = s.heap.scopes ∧ s'.scopes = s.scopes) :
  Cloning.Keeps h x fun _ => True
  := by
  intro s a s' hs hrun
  obtain ⟨hheap, hscopes⟩ := hx s a s' hrun
  refine ⟨⟨?_, fun i hi => ?_, ?_⟩, trivial⟩
  · rw [hheap]
    exact hs.size_le
  · simp only [Heap.scope, hheap]
    exact hs.scope_eq i hi
  · rw [hscopes]
    exact hs.made_after

theorem get :
  Cloning.Keeps h (MonadState.get : Cloning CloneState) fun _ => True
  := of_scopes fun _ _ _ hrun => by cases hrun; exact ⟨rfl, rfl⟩

theorem freshId :
  Cloning.Keeps h Cloning.freshId fun _ => True
  := of_scopes fun _ _ _ hrun => by cases hrun; exact ⟨rfl, rfl⟩

theorem keep (i : Nat) (w : Value) :
  Cloning.Keeps h (Cloning.keep i w) fun _ => True
  := of_scopes fun _ _ _ hrun => by cases hrun; exact ⟨rfl, rfl⟩

theorem elements (i : Nat) :
  Cloning.Keeps h (Cloning.elements i) fun _ => True
  := of_scopes fun _ _ _ hrun => by cases hrun; exact ⟨rfl, rfl⟩

theorem bindings (i : Nat) :
  Cloning.Keeps h (Cloning.bindings i) fun _ => True
  := of_scopes fun _ _ _ hrun => by cases hrun; exact ⟨rfl, rfl⟩

theorem fillList (j : Nat) (vs : Array Value) :
  Cloning.Keeps h (Cloning.fillList j vs) fun _ => True
  := of_scopes fun _ _ _ hrun => by cases hrun; exact ⟨rfl, rfl⟩

/-- Settling changes only scopes the copy made. -/
theorem settle (j : Nat) (w : Value) :
  Cloning.Keeps h (Cloning.settle j w) fun _ => True
  := by
  intro s a s' hs hrun
  cases hrun
  refine ⟨⟨?_, fun i hi => ?_, hs.made_after⟩, trivial⟩
  · simpa using hs.size_le
  · have hfresh : ∀ p ∈ s.scopes, p.2 ≠ i := fun p hp => by
      have := hs.made_after p hp
      omega
    rw [CloneState.scope_settle_of_not_made (CloneState.madeIn_eq_false hfresh)]
    exact hs.scope_eq i hi

/-- A step that first reads the state, judged on each state with the state it reads there. -/
theorem get_bind {f : CloneState → Cloning α}
    (hf : ∀ s a s', s.Keeps h → (f s).run s = .ok a s' → s'.Keeps h ∧ Q a) :
  Cloning.Keeps h (MonadState.get >>= f) Q
  := fun s a s' hs hrun => hf s a s' hs hrun

theorem listFor (i : Nat) :
  Cloning.Keeps h (Cloning.listFor i) fun _ => True
  := by
  unfold Cloning.listFor
  refine bind get fun s _ => ?_
  split
  · exact pure trivial
  · exact of_scopes fun _ _ _ hrun => by cases hrun; exact ⟨rfl, rfl⟩

/-- The scope standing for a scope in the copy is one the copy made. -/
theorem scopeFor (i : Nat) :
  Cloning.Keeps h (Cloning.scopeFor i) fun p => h.scopes.size ≤ p.1
  := by
  unfold Cloning.scopeFor
  refine get_bind fun s a s' hs hrun => ?_
  split at hrun
  · rename_i j hj
    cases hrun
    obtain ⟨l₁, l₂, hl, -⟩ := List.lookup_eq_some_iff.1 hj
    exact ⟨hs, hs.made_after (i, j) (by simp [hl])⟩
  · cases hrun
    refine ⟨⟨?_, fun k hk => ?_, ?_⟩, hs.size_le⟩
    · simp only [Array.size_push]
      exact Nat.le_succ_of_le hs.size_le
    · simp only [Heap.scope]
      rw [Heap.scope_push s.heap [] (Nat.lt_of_lt_of_le hk hs.size_le)]
      exact hs.scope_eq k hk
    · rintro p (_ | ⟨_, hp⟩)
      · exact hs.size_le
      · exact hs.made_after p hp

/-- Filling a scope the copy made. -/
theorem fillScope {j : Nat} (hj : h.scopes.size ≤ j) (b : Bindings) :
  Cloning.Keeps h (Cloning.fillScope j b) fun _ => True
  := by
  intro s a s' hs hrun
  cases hrun
  refine ⟨⟨by simpa using hs.size_le, fun k hk => ?_, hs.made_after⟩, trivial⟩
  rw [Heap.scope_setScope _ _ _ (Nat.ne_of_lt (Nat.lt_of_lt_of_le hk hj))]
  exact hs.scope_eq k hk

theorem list_mapM {γ δ : Type} {f : γ → Cloning δ} (hf : ∀ a, Cloning.Keeps h (f a) fun _ => True) :
  ∀ l : List γ, Cloning.Keeps h (l.mapM f) fun _ => True
  | [] => pure trivial
  | a :: rest => by
    rw [List.mapM_cons]
    exact bind (hf a) fun _ _ => bind (list_mapM hf rest) fun _ _ => pure trivial

theorem array_mapM {γ δ : Type} {f : γ → Cloning δ} (hf : ∀ a, Cloning.Keeps h (f a) fun _ => True)
    (as : Array γ) :
  Cloning.Keeps h (as.mapM f) fun _ => True
  := by
  rw [Array.mapM_eq_mapM_toList, map_eq_pure_bind]
  exact bind (list_mapM hf _) fun _ _ => pure trivial

/-- Copying a value touches no scope of the heap the copy started from. -/
theorem value (fuel : Nat) :
  ∀ v, Cloning.Keeps h (Cloning.value fuel v) fun _ => True
  := by
  induction fuel with
  | zero => exact fun _ => throw _
  | succ fuel ih =>
    have hbind : ∀ p : String × Value,
        Cloning.Keeps h (do Pure.pure (p.1, ← Cloning.value fuel p.2)) fun _ => True :=
      fun p => bind (ih p.2) fun _ _ => pure trivial
    intro v
    unfold Cloning.value
    split
    · exact pure trivial
    · refine bind get fun _ _ => ?_
      split
      · exact pure trivial
      · split
        · refine bind freshId fun j _ => bind (listFor _) fun p _ => ?_
          refine bind (keep _ _) fun _ _ => ?_
          dsimp only
          split
          · refine bind (elements _) fun vs _ => bind (array_mapM ih vs) fun _ _ => ?_
            exact bind (fillList _ _) fun _ _ => pure trivial
          · exact pure trivial
        · refine bind freshId fun j _ => bind (scopeFor _) fun p hp => ?_
          refine bind (keep _ _) fun _ _ => ?_
          dsimp only
          split
          · refine bind (bindings _) fun b _ => bind (list_mapM hbind b) fun _ _ => ?_
            exact bind (fillScope hp _) fun _ _ => pure trivial
          · exact pure trivial
        · refine bind freshId fun j _ => bind (scopeFor _) fun p hp => ?_
          refine bind (keep _ _) fun _ _ => ?_
          dsimp only
          split
          · refine bind (bindings _) fun b _ => bind (list_mapM hbind b) fun _ _ => ?_
            exact bind (fillScope hp _) fun _ _ => pure trivial
          · exact pure trivial
        · refine bind freshId fun _ _ => bind (keep _ _) fun _ _ => ?_
          refine bind (list_mapM (fun q => ?_) _) fun _ _ =>
            bind (settle _ _) fun _ _ => pure trivial
          obtain ⟨k, kv, w⟩ := q
          exact bind (ih kv) fun _ _ => bind (ih w) fun _ _ => pure trivial
        · exact bind freshId fun _ _ => bind (keep _ _) fun _ _ =>
            bind (ih _) fun _ _ => bind (settle _ _) fun _ _ => pure trivial
        · exact bind freshId fun _ _ => bind (keep _ _) fun _ _ => pure trivial

/-- A successful copy started on `h` leaves a heap that grows `h` without a name added to
any of its scopes. -/
theorem grows {add : Nat → String → Prop} {x : Cloning α} {a : α} {s : CloneState}
    (hx : Cloning.Keeps h x Q) (hrun : x.run { heap := h } = .ok a s) :
  h.Grows add s.heap
  := (hx _ a s (CloneState.Keeps.start h) hrun).1.grows

end Cloning.Keeps

/-- The deep copy of a scope makes new scopes and fills only those. -/
theorem Heap.Grows.cloneScope {add : Nat → String → Prop} {h h' : Heap} {i c : Nat}
    (hc : h.cloneScope i = .ok (c, h')) :
  h.Grows add h'
  := by
  unfold Heap.cloneScope at hc
  dsimp only at hc
  split at hc
  · rename_i c' s hrun
    obtain ⟨-, rfl⟩ := Prod.mk.inj (Except.ok.inj hc)
    refine Cloning.Keeps.grows (Q := fun _ => True) ?_ hrun
    refine Cloning.Keeps.bind (Cloning.Keeps.scopeFor i) fun p hp => ?_
    refine Cloning.Keeps.bind (Cloning.Keeps.list_mapM (fun q => ?_) _) fun b _ => ?_
    · exact Cloning.Keeps.bind (Cloning.Keeps.value _ q.2) fun _ _ => Cloning.Keeps.pure trivial
    · exact Cloning.Keeps.bind (Cloning.Keeps.fillScope hp b) fun _ _ => Cloning.Keeps.pure trivial
  · cases hc

namespace Run.Grows

variable {add : Nat → String → Prop}

/-- A new instance owns a copy of the class's scope; no older scope changes. -/
theorem instantiate (sc : Nat) :
  Run.Grows add (Eval.instantiate sc)
  := by
  unfold Eval.instantiate
  refine heap_bind fun m => ?_
  cases hc : m.heap.cloneScope sc with
  | error e => exact Heap.Grows.refl _
  | ok p =>
    obtain ⟨c, h'⟩ := p
    exact (Heap.Grows.cloneScope hc).trans (Heap.Grows.of_scopes_eq rfl)

/-- A value an operation has made, with a fresh identity where it needs one. -/
theorem made (v : Value) :
  Run.Grows add (Eval.made v)
  := by
  unfold Eval.made
  split
  · split
    · exact fresh.bind fun _ => pure _
    · exact pure _
  · exact pure _

theorem hashPairs {ev : Option Expr → Run Value} (hev : ∀ e, Run.Grows add (ev e)) :
  ∀ (pairs : List (Option Expr × Option Expr)) acc, Run.Grows add (Eval.hashPairs ev pairs acc)
  | [], _ => fresh.bind fun _ => pure _
  | (kn, vn) :: rest, acc => by
    unfold Eval.hashPairs
    refine (hev kn).bind fun k => ?_
    split
    · exact pure _
    · split
      · exact (lift _).bind fun _ => pure _
      · refine (hev vn).bind fun v => ?_
        split
        · exact pure _
        · exact (lift _).bind fun key => hashPairs hev rest _

theorem fields {run : Stmt → Run Value} (hrun : ∀ s, Run.Grows add (run s)) :
  ∀ ss : List Stmt, Run.Grows add (Eval.fields run ss)
  | [] => pure _
  | s :: rest => by
    unfold Eval.fields
    split
    · exact (hrun _).bind fun _ => fields hrun rest
    · exact pure _

theorem statements {run : Stmt → Run Value} :
  ∀ {ss : List Stmt}, (∀ s ∈ ss, Run.Grows add (run s)) → ∀ last,
    Run.Grows add (Eval.statements run ss last)
  | [], _, last => pure last
  | s :: rest, hrun, _ => by
    unfold Eval.statements
    refine (hrun s List.mem_cons_self).bind fun r => ?_
    split
    · exact pure _
    · exact pure _
    · exact pure _
    · exact statements (fun t ht => hrun t (List.mem_cons_of_mem s ht)) r

theorem optionally {run : Stmt → Run Value} (hrun : ∀ s, Run.Grows add (run s))
    (s : Option Stmt) (dflt : Value) :
  Run.Grows add (Eval.optionally run s dflt)
  := by
  cases s with
  | none => exact pure dflt
  | some s => exact hrun s

theorem forM_list {γ : Type} {f : γ → Run PUnit} (hf : ∀ a, Run.Grows add (f a)) :
  ∀ l : List γ, Run.Grows add (l.forM f)
  | [] => pure _
  | a :: rest => (hf a).bind fun _ => forM_list hf rest

/-! ### Builtins -/

theorem oneArray (name : String) (args : List Value) :
  Run.Grows add (Builtin.oneArray name args)
  := by
  unfold Builtin.oneArray
  split
  · split
    · exact heap.bind fun _ => pure _
    · exact (lift _).bind fun _ => pure _
  · exact pure _

/-- The builtins change no scope: they work on lists, output and input only. -/
theorem builtin (b : Builtin) (args : List Value) :
  Run.Grows add (b.call args)
  := by
  cases b with
  | len =>
    simp only [Builtin.call]
    split
    · exact pure _
    · exact heap.bind fun _ => pure _
    · exact (lift _).bind fun _ => pure _
    · exact pure _
  | first | last =>
    simp only [Builtin.call]
    refine (oneArray _ args).bind fun r => ?_
    split <;> exact pure _
  | rest =>
    simp only [Builtin.call]
    refine (oneArray _ args).bind fun r => ?_
    split
    · exact pure _
    · split
      · exact pure _
      · exact newArray _
  | push =>
    simp only [Builtin.call]
    split
    · split
      · refine bind (onHeap_of_scopes fun _ => ?_) fun _ => fresh.bind fun _ => pure _
        rfl
      · exact (lift _).bind fun _ => pure _
    · exact pure _
  | update =>
    simp only [Builtin.call]
    split
    · split
      · split
        · refine heap.bind fun _ => ?_
          split
          all_goals
            split
            · exact pure _
            · split
              · refine bind (onHeap_of_scopes fun _ => ?_) fun _ => pure _
                rfl
              · exact throw _
        · exact (lift _).bind fun _ => pure _
      · exact (lift _).bind fun _ => pure _
    · exact pure _
  | exit => exact pure _
  | print | printl =>
    simp only [Builtin.call]
    refine (forIn_list (fun a _ => ?_) args _).bind fun _ => pure _
    exact heap.bind fun _ => (lift _).bind fun _ => (write _).bind fun _ => pure _
  | str =>
    simp only [Builtin.call]
    split
    · exact heap.bind fun _ => (lift _).bind fun _ => pure _
    · exact pure _
  | int =>
    simp only [Builtin.call]
    split <;> exact pure _
  | input =>
    simp only [Builtin.call]
    exact readLine.bind fun _ => pure _

end Run.Grows

end Monkey
