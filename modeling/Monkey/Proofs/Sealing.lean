import Monkey.Proofs.Signals

/-!
# Runs sealed off from a set of scopes

A method call runs its body in front of the instance's scope, never in front of the caller's
chain. The scopes it can reach are those of its own frames and those that classes and
instances have. This module sets up the terms in which that is stated.

A value *avoids* a set `P` of scopes (`Value.Avoids`) when it is no class or instance whose
scope is in `P`, nor holds one; a heap avoids `P` (`Heap.Avoids`) when all its values do and `P`
holds only scopes that exist. The scopes of `P` are then reachable only through frames whose
chains hold them.

A run is *sealed* off from `P` (`Run.Sealed`) when, from every heap avoiding `P`, it changes
no scope of `P`, keeps the heap avoiding `P`, and runs the same whatever the scopes of `P`
hold: run on the machine with the scopes of `P` emptied (`Machine.erase`), it gives the same
result and the same machine, with those scopes emptied. Two machines that differ only in the
scopes of `P` therefore give the same result and machines that differ only there
(`Run.Sealed.agree`).

The operations of the heap, the deep copy of a scope and the builtins are sealed off from `P`
here; `Monkey.Proofs.Encapsulation` carries it through evaluation.
-/

namespace Monkey

/-! ### Values and heaps that avoid a set of scopes -/

mutual

/-- A value that is no class or instance whose scope is in `P`, nor holds one. -/
def Value.Avoids (P : Nat → Prop) : Value → Prop
  | .cls _ sc _ => ¬ P sc
  | .inst _ sc => ¬ P sc
  | .hash _ pairs => Value.AvoidsPairs P pairs
  | .returned _ w => Value.Avoids P w
  | _ => True

/-- The pairs of a hash, keys and values alike, avoid `P`. -/
def Value.AvoidsPairs (P : Nat → Prop) : List (HashKey × Value × Value) → Prop
  | [] => True
  | (_, kv, w) :: rest => Value.Avoids P kv ∧ Value.Avoids P w ∧ Value.AvoidsPairs P rest

end

/-- A value with no parts: a number, a string, a Boolean, `null` or an error. -/
def Value.Scalar : Value → Prop
  | .num .. | .str _ | .bool .. | .null _ | .error _ => True
  | _ => False

namespace Value

variable {P : Nat → Prop}

theorem avoidsPairs_iff {ps : List (HashKey × Value × Value)} :
  AvoidsPairs P ps ↔ ∀ p ∈ ps, p.2.1.Avoids P ∧ p.2.2.Avoids P
  := by
  induction ps with
  | nil => simp [AvoidsPairs]
  | cons p rest ih =>
    obtain ⟨k, kv, w⟩ := p
    simp [AvoidsPairs, ih, and_assoc]

mutual

/-- Settling a value that avoids `P` to hold one that does keeps it avoiding `P`. -/
theorem avoids_settle {j : Nat} {w : Value} (hw : w.Avoids P) :
  ∀ v : Value, v.Avoids P → (settle j w v).Avoids P
  | .hash k ps, hv => by
    rw [settle]
    split
    · exact hw
    · exact avoidsPairs_settle hw ps hv
  | .returned k u, hv => by
    rw [settle]
    split
    · exact hw
    · exact avoids_settle hw u hv
  | .num .., hv | .str _, hv | .bool .., hv | .null _, hv | .error _, hv | .array .., hv
  | .function .., hv | .builtin .., hv | .cls .., hv | .inst .., hv | .exitSig _, hv
  | .breakSig _, hv | .continueSig _, hv | .void, hv => hv

theorem avoidsPairs_settle {j : Nat} {w : Value} (hw : w.Avoids P) :
  ∀ ps : List (HashKey × Value × Value), AvoidsPairs P ps → AvoidsPairs P (settlePairs j w ps)
  | [], _ => trivial
  | (_, kv, v) :: rest, h =>
    ⟨avoids_settle hw kv h.1, avoids_settle hw v h.2.1, avoidsPairs_settle hw rest h.2.2⟩

end

theorem avoids_of_scalar {v : Value} (hv : v.Scalar) :
  v.Avoids P
  := by
  cases v <;> simp_all [Scalar, Avoids]

@[simp] theorem scalar_ofBool (b : Bool) :
  (ofBool b).Scalar
  := by
  cases b <;> trivial

@[simp] theorem scalar_err (msg : String) :
  (err msg).Scalar
  := trivial

@[simp] theorem avoids_ofBool (b : Bool) :
  (ofBool b).Avoids P
  := avoids_of_scalar (scalar_ofBool b)

@[simp] theorem avoids_err (msg : String) :
  (err msg).Avoids P
  := trivial

@[simp] theorem avoids_nullVal :
  nullVal.Avoids P
  := trivial

theorem avoids_of_isError {v : Value} (h : v.isError = true) :
  v.Avoids P
  := by
  cases v <;> simp_all [isError, Avoids]

theorem avoidsPairs_storePair {key : HashKey} {kv v : Value} (hkv : kv.Avoids P)
    (hv : v.Avoids P) :
  ∀ {ps : List (HashKey × Value × Value)}, AvoidsPairs P ps →
    AvoidsPairs P (storePair key kv v ps)
  | [], _ => ⟨hkv, hv, trivial⟩
  | (k, kv', v') :: rest, hps => by
    obtain ⟨hkv', hv', hrest⟩ := hps
    simp only [storePair]
    split
    · exact ⟨hkv, hv, hrest⟩
    · exact ⟨hkv', hv', avoidsPairs_storePair hkv hv hrest⟩

theorem pairValue?_avoids {key : HashKey} {ps : List (HashKey × Value × Value)}
    (hps : AvoidsPairs P ps) {v : Value} (h : pairValue? key ps = some v) :
  v.Avoids P
  := by
  induction ps with
  | nil => simp [pairValue?] at h
  | cons p rest ih =>
    obtain ⟨k, kv, w⟩ := p
    obtain ⟨-, hw, hrest⟩ := hps
    simp only [pairValue?] at h
    split at h
    · cases h; exact hw
    · exact ih hrest h

end Value

/-- No value of the heap is a class or an instance whose scope is in `P`, nor holds one, and
every scope of `P` exists. -/
structure Heap.Avoids (P : Nat → Prop) (h : Heap) : Prop where
  scopes : ∀ b ∈ h.scopes, ∀ p ∈ b, p.2.Avoids P
  lists : ∀ l ∈ h.lists, ∀ v ∈ l, v.Avoids P
  bounded : ∀ j, P j → j < h.scopes.size

namespace Heap.Avoids

variable {P : Nat → Prop} {h : Heap}

theorem scope (hh : h.Avoids P) (i : Nat) :
  ∀ p ∈ h.scope i, p.2.Avoids P
  := by
  intro p hp
  unfold Heap.scope at hp
  rw [Array.getD_eq_getD_getElem?] at hp
  cases hi : h.scopes[i]? with
  | none => simp [hi] at hp
  | some b =>
    rw [hi, Option.getD_some] at hp
    exact hh.scopes b (Array.mem_of_getElem? hi) p hp

theorem list (hh : h.Avoids P) (j : Nat) :
  ∀ v ∈ h.list j, v.Avoids P
  := by
  intro v hv
  unfold Heap.list at hv
  rw [Array.getD_eq_getD_getElem?] at hv
  cases hj : h.lists[j]? with
  | none => simp [hj] at hv
  | some l =>
    rw [hj, Option.getD_some] at hv
    exact hh.lists l (Array.mem_of_getElem? hj) v hv

theorem get? (hh : h.Avoids P) {i : Nat} {name : String} {v : Value}
    (hv : (h.scope i).get? name = some v) :
  v.Avoids P
  := by
  obtain ⟨p, hp, rfl⟩ := Bindings.get?_mem hv
  exact hh.scope i p hp

theorem lookup (hh : h.Avoids P) {name : String} {chain : List Nat} {v : Value}
    (hl : h.lookup name chain = some v) :
  v.Avoids P
  := by
  induction chain with
  | nil => simp [Heap.lookup] at hl
  | cons i rest ih =>
    simp only [Heap.lookup] at hl
    split at hl
    · cases hl
      exact hh.get? ‹_›
    · exact ih hl

theorem field (hh : h.Avoids P) (i : Nat) (name : String) :
  (((h.scope i).get? name).getD .void).Avoids P
  := by
  cases hv : (h.scope i).get? name with
  | none => trivial
  | some v => exact hh.get? hv

theorem bind (hh : h.Avoids P) (i : Nat) (name : String) {v : Value} (hv : v.Avoids P) :
  (h.bind i name v).Avoids P
  := by
  refine ⟨fun b hb p hp => ?_, hh.lists, fun j hj => ?_⟩
  · rcases Array.mem_modify_cases hb with hb | ⟨b₀, hb₀, rfl⟩
    · exact hh.scopes b hb p hp
    · rcases Bindings.mem_put hp with hp | hp
      · exact hh.scopes b₀ hb₀ p hp
      · rw [hp]; exact hv
  · simpa [Heap.bind] using hh.bounded j hj

theorem assign (hh : h.Avoids P) (name : String) {v : Value} (hv : v.Avoids P)
    (chain : List Nat) :
  (h.assign name v chain).Avoids P
  := by
  unfold Heap.assign
  split
  · exact hh.bind _ _ hv
  · split
    · exact hh
    · exact hh.bind _ _ hv

theorem newScope (hh : h.Avoids P) {b : Bindings} (hb : ∀ p ∈ b, p.2.Avoids P) :
  (h.newScope b).2.Avoids P
  := by
  refine ⟨fun b' hb' => ?_, hh.lists, fun j hj => ?_⟩
  · rcases Array.mem_push.1 hb' with hb' | rfl
    · exact hh.scopes b' hb'
    · exact hb
  · simpa [Heap.newScope] using Nat.lt_succ_of_lt (hh.bounded j hj)

/-- A new scope is none of `P`. -/
theorem newScope_fst (hh : h.Avoids P) (b : Bindings) :
  ¬ P (h.newScope b).1
  := fun hj => Nat.lt_irrefl _ (hh.bounded _ hj)

theorem newList (hh : h.Avoids P) {vs : Array Value} (hvs : ∀ v ∈ vs, v.Avoids P) :
  (h.newList vs).2.Avoids P
  := by
  refine ⟨hh.scopes, fun l hl => ?_, hh.bounded⟩
  rcases Array.mem_push.1 hl with hl | rfl
  · exact hh.lists l hl
  · exact hvs

theorem append (hh : h.Avoids P) (i : Nat) {v : Value} (hv : v.Avoids P) :
  (h.append i v).Avoids P
  := by
  refine ⟨hh.scopes, fun l hl w hw => ?_, hh.bounded⟩
  rcases Array.mem_modify_cases (show l ∈ h.lists.modify i (·.push v) from hl) with
    hl | ⟨l₀, hl₀, rfl⟩
  · exact hh.lists l hl w hw
  · rcases Array.mem_push.1 hw with hw | rfl
    · exact hh.lists l₀ hl₀ w hw
    · exact hv

theorem setAt (hh : h.Avoids P) (i pos : Nat) {v : Value} (hv : v.Avoids P) :
  (h.setAt i pos v).Avoids P
  := by
  refine ⟨hh.scopes, fun l hl w hw => ?_, hh.bounded⟩
  rcases Array.mem_modify_cases (show l ∈ h.lists.modify i (·.set! pos v) from hl) with
    hl | ⟨l₀, hl₀, rfl⟩
  · exact hh.lists l hl w hw
  · rw [Array.set!_eq_setIfInBounds] at hw
    rcases Array.mem_or_eq_of_mem_setIfInBounds hw with hw | rfl
    · exact hh.lists l₀ hl₀ w hw
    · exact hv

theorem fresh (hh : h.Avoids P) :
  h.fresh.2.Avoids P
  := ⟨hh.scopes, hh.lists, hh.bounded⟩

end Heap.Avoids

/-! ### Emptying the scopes of a set -/

section Erase

variable (P : Nat → Prop) [DecidablePred P]

/-- The heap with the scopes of `P` emptied. -/
def Heap.erase (h : Heap) : Heap :=
  { h with scopes := h.scopes.mapIdx fun j b => if P j then [] else b }

/-- The machine with the scopes of `P` emptied. -/
def Machine.erase (m : Machine) : Machine := { m with heap := m.heap.erase P }

end Erase

/-- A result of a computation on a state, with its state changed by `g`. -/
def resultMap {ε σ α : Type} (g : σ → σ) : EStateM.Result ε σ α → EStateM.Result ε σ α
  | .ok a s => .ok a (g s)
  | .error e s => .error e (g s)

namespace Heap

variable {P : Nat → Prop} [DecidablePred P] {h : Heap}

theorem scope_erase (h : Heap) (j : Nat) :
  (h.erase P).scope j = if P j then [] else h.scope j
  := by
  by_cases hj : j < h.scopes.size
  · simp [erase, scope, Array.getD_eq_getD_getElem?, hj]
  · have hj' : h.scopes.size ≤ j := Nat.le_of_not_lt hj
    simp [erase, scope, Array.getD_eq_getD_getElem?, Array.getElem?_mapIdx,
      Array.getElem?_eq_none hj']

theorem scope_erase_of_not {j : Nat} (hj : ¬ P j) :
  (h.erase P).scope j = h.scope j
  := by
  rw [scope_erase, if_neg hj]

@[simp] theorem size_erase (h : Heap) :
  (h.erase P).scopes.size = h.scopes.size
  := by
  simp [erase]

/-- Lookup along a chain outside `P` does not see the scopes of `P`. -/
theorem lookup_erase {name : String} {chain : List Nat} (hc : ∀ j ∈ chain, ¬ P j) :
  (h.erase P).lookup name chain = h.lookup name chain
  := by
  induction chain with
  | nil => rfl
  | cons i rest ih =>
    simp only [lookup, scope_erase_of_not (hc i List.mem_cons_self),
      ih fun j hj => hc j (List.mem_cons_of_mem i hj)]

/-- Binding a name in a scope outside `P` commutes with emptying the scopes of `P`. -/
theorem bind_erase {i : Nat} (hi : ¬ P i) (name : String) (v : Value) :
  (h.erase P).bind i name v = (h.bind i name v).erase P
  := by
  simp only [bind, erase, Heap.mk.injEq, and_true]
  refine Array.ext (by simp) fun j hj₁ hj₂ => ?_
  simp only [Array.getElem_modify, Array.getElem_mapIdx]
  by_cases hij : i = j
  · subst hij
    simp [hi]
  · simp [hij]

theorem assign_erase {name : String} {v : Value} {chain : List Nat} (hc : ∀ j ∈ chain, ¬ P j) :
  (h.erase P).assign name v chain = (h.assign name v chain).erase P
  := by
  have hfind : chain.find? (fun i => ((h.erase P).scope i).binds name)
      = chain.find? (fun i => (h.scope i).binds name) := by
    induction chain with
    | nil => rfl
    | cons i rest ih =>
      simp only [List.find?_cons, scope_erase_of_not (hc i List.mem_cons_self),
        ih fun j hj => hc j (List.mem_cons_of_mem i hj)]
  unfold assign
  rw [hfind]
  split
  · rename_i i hi
    exact bind_erase (hc i (List.mem_of_find?_eq_some hi)) name v
  · split
    · rfl
    · exact bind_erase (hc _ List.mem_cons_self) name v

theorem newScope_erase (hh : h.Avoids P) (b : Bindings) :
  (h.erase P).newScope b = ((h.newScope b).1, (h.newScope b).2.erase P)
  := by
  have hn : ¬ P h.scopes.size := hh.newScope_fst b
  simp only [newScope, erase, Prod.mk.injEq, Heap.mk.injEq, and_true]
  refine ⟨by simp, Array.ext (by simp) fun j hj₁ hj₂ => ?_⟩
  rw [Array.getElem_mapIdx, Array.getElem_push, Array.getElem_push]
  split
  · rename_i hj
    rw [Array.getElem_mapIdx, dif_pos (by simpa using hj)]
  · rename_i hj
    have : j = h.scopes.size := by simp at hj₂ hj; omega
    subst this
    simp [hn]

theorem setScope_erase {j : Nat} (hj : ¬ P j) (b : Bindings) :
  (h.erase P).setScope j b = (h.setScope j b).erase P
  := by
  simp only [setScope, erase, Heap.mk.injEq, and_true, Array.set!_eq_setIfInBounds]
  refine Array.ext (by simp) fun k hk₁ hk₂ => ?_
  rw [Array.getElem_mapIdx, Array.getElem_setIfInBounds (by simpa using hk₁),
    Array.getElem_setIfInBounds (by simpa using hk₂)]
  split
  · subst_vars
    simp [hj]
  · rw [Array.getElem_mapIdx]

end Heap

/-! ### Sealed runs -/

section Sealed

variable (P : Nat → Prop) [DecidablePred P]

/-- A run sealed off from the scopes of `P`. From every machine whose heap avoids `P`: run on
the machine with the scopes of `P` emptied, it gives the same result and the same machine with
those scopes emptied; it ends with a heap that avoids `P` and has the scopes of `P` as they
were; and a result it gives satisfies `Q`. -/
def Run.Sealed {α : Type} (x : Run α) (Q : α → Prop) : Prop :=
  ∀ m : Machine, m.heap.Avoids P →
    x.run (m.erase P) = resultMap (Machine.erase P) (x.run m) ∧
    (stateAfter x m).heap.Avoids P ∧
    (∀ j, P j → (stateAfter x m).heap.scope j = m.heap.scope j) ∧
    ∀ a m', x.run m = .ok a m' → Q a

end Sealed

namespace Run.Sealed

variable {P : Nat → Prop} [DecidablePred P] {α β : Type} {Q Q' : α → Prop} {R : β → Prop}

/-- A sealed run changes no scope of `P`. -/
theorem frame {x : Run α} (hx : Run.Sealed P x Q) {m : Machine} (hm : m.heap.Avoids P) {j : Nat}
    (hj : P j) :
  (stateAfter x m).heap.scope j = m.heap.scope j
  := (hx m hm).2.2.1 j hj

/-- Two machines that differ only in the scopes of `P` give the same result, and machines that
differ only there. -/
theorem agree {x : Run α} (hx : Run.Sealed P x Q) {m₁ m₂ : Machine} (hm₁ : m₁.heap.Avoids P)
    (hm₂ : m₂.heap.Avoids P) (h : m₁.erase P = m₂.erase P) :
  resultMap (Machine.erase P) (x.run m₁) = resultMap (Machine.erase P) (x.run m₂)
  := by
  rw [← (hx m₁ hm₁).1, ← (hx m₂ hm₂).1, h]

theorem pure {a : α} (ha : Q a) :
  Run.Sealed P (Pure.pure a : Run α) Q
  := fun _ hm => ⟨rfl, hm, fun _ _ => rfl, fun _ _ h => by cases h; exact ha⟩

theorem throw (f : Fault) :
  Run.Sealed P (MonadExcept.throw f : Run α) Q
  := fun _ hm => ⟨rfl, hm, fun _ _ => rfl, fun _ _ h => nomatch h⟩

theorem bind {x : Run α} {f : α → Run β} (hx : Run.Sealed P x Q)
    (hf : ∀ a, Q a → Run.Sealed P (f a) R) :
  Run.Sealed P (x >>= f) R
  := by
  intro m hm
  obtain ⟨hrun, hav, hkeep, hQ⟩ := hx m hm
  cases h : x.run m with
  | ok a m₁ =>
    rw [stateAfter_of_ok h] at hav hkeep
    obtain ⟨hrun', hav', hkeep', hR⟩ := hf a (hQ a m₁ h) m₁ hav
    refine ⟨?_, by rwa [stateAfter_bind_ok h], fun j hj => ?_, fun b m' hb => ?_⟩
    · rw [EStateM.run_bind, EStateM.run_bind, hrun, h]
      exact hrun'
    · rw [stateAfter_bind_ok h, hkeep' j hj, hkeep j hj]
    · rw [EStateM.run_bind, h] at hb
      exact hR b m' hb
  | error e m₁ =>
    rw [stateAfter_of_error h] at hav hkeep
    refine ⟨?_, by rwa [stateAfter_bind_error h], fun j hj => ?_, fun b m' hb => ?_⟩
    · rw [EStateM.run_bind, EStateM.run_bind, hrun, h]
      rfl
    · rw [stateAfter_bind_error h, hkeep j hj]
    · rw [EStateM.run_bind, h] at hb
      cases hb

theorem mono {x : Run α} (hx : Run.Sealed P x Q) (hq : ∀ a, Q a → Q' a) :
  Run.Sealed P x Q'
  := fun m hm => ⟨(hx m hm).1, (hx m hm).2.1, (hx m hm).2.2.1,
    fun a m' h => hq a ((hx m hm).2.2.2 a m' h)⟩

theorem lift (r : Except Fault α) (hr : ∀ a, r = .ok a → Q a) :
  Run.Sealed P (Run.lift r) Q
  := by
  cases r with
  | ok a => exact pure (hr a rfl)
  | error e => exact throw e

theorem lift_gives {x : Except Fault α} (hx : Except.Gives Q x) :
  Run.Sealed P (Run.lift x) Q
  := lift x hx

/-- A computation that starts by reading the machine and reads nothing of the scopes of `P`. -/
theorem get_bind {f : Machine → Run α}
    (hf : ∀ m, m.heap.Avoids P → f (m.erase P) = f m ∧ Run.Sealed P (f m) Q) :
  Run.Sealed P (MonadState.get >>= f) Q
  := by
  intro m hm
  obtain ⟨heq, hs⟩ := hf m hm
  obtain ⟨hrun, hav, hkeep, hQ⟩ := hs m hm
  have h₀ : (MonadState.get : Run Machine).run m = .ok m m := rfl
  have h₀' : (MonadState.get : Run Machine).run (m.erase P) = .ok (m.erase P) (m.erase P) := rfl
  refine ⟨?_, by rwa [stateAfter_bind_ok h₀], fun j hj => ?_, fun a m' h => ?_⟩
  · rw [EStateM.run_bind, EStateM.run_bind, h₀, h₀']
    dsimp only
    rw [heq]
    exact hrun
  · rw [stateAfter_bind_ok h₀]
    exact hkeep j hj
  · rw [EStateM.run_bind, h₀] at h
    exact hQ a m' h

/-- A computation that starts by reading the heap and reads nothing of the scopes of `P`: it
is the same computation on the heap with those scopes emptied. -/
theorem read {f : Heap → Run α}
    (hf : ∀ h, h.Avoids P → f (h.erase P) = f h ∧ Run.Sealed P (f h) Q) :
  Run.Sealed P (Run.heap >>= f) Q
  := by
  have h : Run.heap >>= f = MonadState.get >>= fun m => f m.heap := by
    simp only [Run.heap, bind_assoc, pure_bind]
  rw [h]
  exact get_bind fun m hm => hf m.heap hm

/-- A change of the heap that commutes with emptying the scopes of `P`, keeps the heap avoiding
`P` and leaves the scopes of `P` as they are. -/
theorem onHeap {g : Heap → Heap}
    (hg : ∀ h, h.Avoids P →
      g (h.erase P) = (g h).erase P ∧ (g h).Avoids P ∧ ∀ j, P j → (g h).scope j = h.scope j) :
  Run.Sealed P (Run.onHeap g) fun _ => True
  := by
  intro m hm
  obtain ⟨heq, hav, hkeep⟩ := hg m.heap hm
  refine ⟨?_, hav, hkeep, fun _ _ _ => trivial⟩
  show EStateM.Result.ok () { m with heap := g (m.heap.erase P) }
    = .ok () { m with heap := (g m.heap).erase P }
  rw [heq]

theorem fresh :
  Run.Sealed P Run.fresh fun _ => True
  := fun _ hm => ⟨rfl, hm.fresh, fun _ _ => rfl, fun _ _ _ => trivial⟩

/-- A new scope is none of `P`. -/
theorem newScope {b : Bindings} (hb : ∀ p ∈ b, p.2.Avoids P) :
  Run.Sealed P (Run.newScope b) fun i => ¬ P i
  := by
  intro m hm
  refine ⟨?_, hm.newScope hb, fun j hj => ?_, fun a m' h => ?_⟩
  · show EStateM.Result.ok ((m.heap.erase P).newScope b).1
        { m with heap := ((m.heap.erase P).newScope b).2 } = _
    rw [Heap.newScope_erase hm]
    rfl
  · exact Heap.scope_push m.heap b (hm.bounded j hj)
  · cases h
    exact hm.newScope_fst b

theorem newList {vs : Array Value} (hvs : ∀ v ∈ vs, v.Avoids P) :
  Run.Sealed P (Run.newList vs) fun _ => True
  := fun _ hm => ⟨rfl, hm.newList hvs, fun _ _ => rfl, fun _ _ _ => trivial⟩

theorem newArray {vs : Array Value} (hvs : ∀ v ∈ vs, v.Avoids P) :
  Run.Sealed P (Run.newArray vs) (Value.Avoids P)
  := bind (newList hvs) fun _ _ => bind fresh fun _ _ => pure trivial

theorem write (s : String) :
  Run.Sealed P (Run.write s) fun _ => True
  := fun _ hm => ⟨rfl, hm, fun _ _ => rfl, fun _ _ _ => trivial⟩

theorem readLine :
  Run.Sealed P Run.readLine fun _ => True
  := by
  unfold Run.readLine
  refine get_bind fun m hm => ⟨rfl, ?_⟩
  split
  · exact throw _
  · refine bind (fun m hm => ⟨rfl, hm, fun _ _ => rfl, fun _ _ _ => trivial⟩) fun _ _ => ?_
    exact pure trivial

/-- A loop is sealed when each of its rounds is, the loop's state satisfying `S` and its result
`Q`, however many rounds it runs. -/
theorem loopFor {σ γ : Type} {round : σ → Run (Round σ γ)} {S : σ → Prop} {Q : γ → Prop}
    (hround : ∀ s, S s → Run.Sealed P (round s) fun r =>
      match r with
      | .next s' => S s'
      | .done a => Q a) :
  ∀ bound s, S s → Run.Sealed P (Run.loopFor bound round s) Q
  | 0, _, _ => throw _
  | bound + 1, s, hs => by
    refine bind (hround s hs) fun r hr => ?_
    cases r with
    | next s' => exact loopFor hround bound s' hr
    | done a => exact pure hr

theorem seq {γ : Type} {act : γ → Run Value} {ends : Value → Bool} {Q : Value → Prop} :
  ∀ {l : List γ}, (∀ a ∈ l, Run.Sealed P (act a) Q) → ∀ last, Q last →
    Run.Sealed P (Run.seq act ends l last) Q
  | [], _, _, hlast => pure hlast
  | a :: rest, hact, _, _ => by
    refine bind (hact a List.mem_cons_self) fun v hv => ?_
    split
    · exact pure hv
    · exact seq (fun b hb => hact b (List.mem_cons_of_mem a hb)) v hv

/-- The values of a list of actions: each is one that an action gave. -/
theorem values {γ : Type} {act : γ → Run Value} {Q : Value → Prop} :
  ∀ {l : List γ}, (∀ a ∈ l, Run.Sealed P (act a) Q) →
    Run.Sealed P (Run.values act l) fun r =>
      match r with
        | .ok vs => ∀ v ∈ vs, Q v
        | .error e => Q e
  | [], _ => pure (fun _ h => nomatch h)
  | a :: rest, hact => by
    refine bind (hact a List.mem_cons_self) fun v hv => ?_
    split
    · exact pure hv
    · refine bind (values fun b hb => hact b (List.mem_cons_of_mem a hb)) fun r hr => ?_
      split
      · refine pure fun w hw => ?_
        rcases List.mem_cons.1 hw with rfl | hw
        · exact hv
        · exact hr w hw
      · exact pure hr

theorem forIn_list {γ δ : Type} {f : γ → δ → Run (ForInStep δ)}
    (hf : ∀ a b, Run.Sealed P (f a b) fun _ => True) :
  ∀ (l : List γ) (b : δ), Run.Sealed P (forIn l b f) fun _ => True
  | [], _ => pure trivial
  | a :: rest, b => by
    rw [List.forIn_cons]
    refine bind (hf a b) fun r _ => ?_
    cases r with
    | done b' => exact pure trivial
    | yield b' => exact forIn_list hf rest b'

/-- A value that an operation made, with its identity. -/
theorem made {v : Value} (hv : v.Avoids P) :
  Run.Sealed P (Eval.made v) (Value.Avoids P)
  := by
  unfold Eval.made
  split
  · split
    · exact bind fresh fun _ _ => pure trivial
    · exact pure hv
  · exact pure hv

end Run.Sealed

/-! ### What the operators give -/

namespace Eval

open Except.Gives

theorem arith_scalar (r : Except ArithError Number) :
  Except.Gives Value.Scalar (arith r)
  := by
  unfold arith
  split
  · exact pure trivial
  · exact fun _ h => nomatch h

theorem numeric_scalar (op : String) (a b : Number) :
  Except.Gives Value.Scalar (numeric op a b)
  := by
  simp only [numeric]
  repeat' (first
    | exact arith_scalar _
    | refine ite (fun _ => ?_) (fun _ => ?_)
    | exact pure (Value.scalar_ofBool _)
    | exact pure trivial)

theorem strings_scalar (op a b : String) :
  (strings op a b).Scalar
  := by
  unfold strings
  repeat' split
  all_goals first | exact Value.scalar_ofBool _ | exact Value.scalar_err _ | trivial

/-- A prefix operator gives a Boolean, a number or an error. -/
theorem prefixOp_scalar (op : String) (r : Value) :
  Except.Gives Value.Scalar (prefixOp op r)
  := by
  unfold prefixOp
  repeat' (first
    | refine ite (fun _ => ?_) (fun _ => ?_)
    | refine bind fun _ _ => ?_
    | exact pure (Value.scalar_ofBool _)
    | exact pure trivial
    | split)

/-- An infix operator gives a Boolean, a number, a string or an error, whatever its operands. -/
theorem infixOp_scalar (op : String) (l r : Value) :
  Except.Gives Value.Scalar (infixOp op l r)
  := by
  unfold infixOp
  refine bind fun lt _ => ?_
  extract_lets onAny onStrings
  have hany : ∀ u, Except.Gives Value.Scalar (onAny u) := fun _ => by
    refine ite (fun _ => pure (Value.scalar_ofBool _)) fun _ => ?_
    refine ite (fun _ => pure (Value.scalar_ofBool _)) fun _ => ?_
    refine ite (fun _ => bind fun _ _ => ite (fun _ => pure trivial) fun _ =>
      bind fun _ _ => pure (Value.scalar_ofBool _)) fun _ => ?_
    refine ite (fun _ => bind fun _ _ => ite (fun _ => pure trivial) fun _ =>
      bind fun _ _ => pure (Value.scalar_ofBool _)) fun _ => ?_
    exact bind fun _ _ => ite (fun _ => pure trivial) fun _ => pure trivial
  have hstrings : ∀ u, Except.Gives Value.Scalar (onStrings u) := fun _ => by
    refine ite (fun _ => bind fun _ _ => ite (fun _ => ?_) fun _ => hany ()) fun _ => hany ()
    split
    · exact pure (strings_scalar _ _ _)
    · exact hany ()
  refine ite (fun _ => bind fun _ _ => ite (fun _ => ?_) fun _ => hstrings ()) fun _ => hstrings ()
  split
  · exact numeric_scalar _ _ _
  · exact hstrings ()

end Eval


/-! ### The copy of a scope -/

section CloneSealed

variable (P : Nat → Prop) [DecidablePred P]

/-- The copy in progress with the scopes of `P` emptied from its heap. -/
def CloneState.erase (s : CloneState) : CloneState := { s with heap := s.heap.erase P }

/-- A copy in progress that avoids `P`: its heap does, so do the copies made so far, and no
scope made by it is in `P`. -/
structure CloneState.Avoids (s : CloneState) : Prop where
  heap : s.heap.Avoids P
  objects : ∀ p ∈ s.objects, p.2.Avoids P
  scopes : ∀ p ∈ s.scopes, ¬ P p.2

/-- Settling a copy commutes with emptying the scopes of `P`. -/
theorem CloneState.settle_erase (s : CloneState) (j : Nat) (w : Value) :
  (s.erase P).settle j w = (s.settle j w).erase P
  := by
  simp only [CloneState.settle, CloneState.erase, Heap.erase, CloneState.mk.injEq, Heap.mk.injEq,
    and_true]
  refine ⟨Array.ext (by simp only [Array.size_mapIdx]) fun k hk₁ hk₂ => ?_, rfl⟩
  simp only [Array.getElem_mapIdx]
  by_cases hp : P k <;> simp [hp]

/-- A step of a copy sealed off from the scopes of `P`, as `Run.Sealed` says of runs. A failed
copy leaves no heap behind, so only its fault has to agree. -/
def Cloning.Sealed {α : Type} (x : Cloning α) (Q : α → Prop) : Prop :=
  ∀ s, s.Avoids P →
    x.run (s.erase P) = resultMap (CloneState.erase P) (x.run s) ∧
    ∀ a s', x.run s = .ok a s' →
      s'.Avoids P ∧ (∀ j, P j → s'.heap.scope j = s.heap.scope j) ∧ Q a

end CloneSealed

namespace Cloning.Sealed

variable {P : Nat → Prop} [DecidablePred P] {α β : Type} {Q : α → Prop} {R : β → Prop}

theorem pure {a : α} (ha : Q a) :
  Cloning.Sealed P (Pure.pure a) Q
  := fun _ hs => ⟨rfl, fun _ _ h => by cases h; exact ⟨hs, fun _ _ => rfl, ha⟩⟩

theorem throw (e : Fault) :
  Cloning.Sealed P (MonadExcept.throw e : Cloning α) Q
  := fun _ _ => ⟨rfl, fun _ _ h => nomatch h⟩

theorem bind {x : Cloning α} {f : α → Cloning β} (hx : Cloning.Sealed P x Q)
    (hf : ∀ a, Q a → Cloning.Sealed P (f a) R) :
  Cloning.Sealed P (x >>= f) R
  := by
  intro s hs
  obtain ⟨hrun, hok⟩ := hx s hs
  cases h : x.run s with
  | ok a s₁ =>
    obtain ⟨hs₁, hkeep, hQ⟩ := hok a s₁ h
    obtain ⟨hrun', hok'⟩ := hf a hQ s₁ hs₁
    refine ⟨?_, fun b s' hb => ?_⟩
    · rw [EStateM.run_bind, EStateM.run_bind, hrun, h]
      exact hrun'
    · rw [EStateM.run_bind, h] at hb
      obtain ⟨hs', hkeep', hR⟩ := hok' b s' hb
      exact ⟨hs', fun j hj => (hkeep' j hj).trans (hkeep j hj), hR⟩
  | error e s₁ =>
    refine ⟨?_, fun b s' hb => ?_⟩
    · rw [EStateM.run_bind, EStateM.run_bind, hrun, h]
      rfl
    · rw [EStateM.run_bind, h] at hb
      cases hb

/-- A step that reads the copy's state and nothing of the scopes of `P`. -/
theorem get_bind {f : CloneState → Cloning α}
    (hf : ∀ s, s.Avoids P → f (s.erase P) = f s ∧ Cloning.Sealed P (f s) Q) :
  Cloning.Sealed P (MonadState.get >>= f) Q
  := by
  intro s hs
  obtain ⟨heq, hfs⟩ := hf s hs
  obtain ⟨hrun, hok⟩ := hfs s hs
  refine ⟨?_, fun a s' h => hok a s' h⟩
  show (f (s.erase P)).run (s.erase P) = _
  rw [heq]
  exact hrun

theorem list_mapM {γ δ : Type} {f : γ → Cloning δ} {A : γ → Prop} {Q : δ → Prop}
    (hf : ∀ a, A a → Cloning.Sealed P (f a) Q) :
  ∀ l : List γ, (∀ a ∈ l, A a) → Cloning.Sealed P (l.mapM f) fun bs => ∀ b ∈ bs, Q b
  | [], _ => pure (fun _ h => nomatch h)
  | a :: rest, hl => by
    rw [List.mapM_cons]
    refine bind (hf a (hl a List.mem_cons_self)) fun b hb => ?_
    refine bind (list_mapM hf rest fun c hc => hl c (List.mem_cons_of_mem a hc)) fun bs hbs => ?_
    refine pure fun c hc => ?_
    rcases List.mem_cons.1 hc with rfl | hc
    · exact hb
    · exact hbs c hc

theorem array_mapM {γ δ : Type} {f : γ → Cloning δ} {A : γ → Prop} {Q : δ → Prop}
    (hf : ∀ a, A a → Cloning.Sealed P (f a) Q) (as : Array γ) (has : ∀ a ∈ as, A a) :
  Cloning.Sealed P (as.mapM f) fun bs => ∀ b ∈ bs, Q b
  := by
  rw [Array.mapM_eq_mapM_toList, map_eq_pure_bind]
  refine bind (list_mapM hf _ fun a ha => has a (Array.mem_toList_iff.1 ha)) fun bs hbs => ?_
  exact pure fun b hb => hbs b (List.mem_toArray.1 hb)

theorem freshId :
  Cloning.Sealed P Cloning.freshId fun _ => True
  := fun _ hs => ⟨rfl, fun _ _ h => by
    cases h; exact ⟨⟨hs.heap.fresh, hs.objects, hs.scopes⟩, fun _ _ => rfl, trivial⟩⟩

theorem keep (i : Nat) {w : Value} (hw : w.Avoids P) :
  Cloning.Sealed P (Cloning.keep i w) fun _ => True
  := by
  refine fun s hs => ⟨rfl, fun _ _ h => ?_⟩
  cases h
  refine ⟨⟨hs.heap, fun p hp => ?_, hs.scopes⟩, fun _ _ => rfl, trivial⟩
  rcases List.mem_cons.1 hp with rfl | hp
  · exact hw
  · exact hs.objects p hp

theorem listFor (i : Nat) :
  Cloning.Sealed P (Cloning.listFor i) fun _ => True
  := by
  unfold Cloning.listFor
  refine get_bind fun s hs => ⟨rfl, ?_⟩
  split
  · exact pure trivial
  · refine fun s' hs' => ⟨rfl, fun _ _ h => ?_⟩
    cases h
    exact ⟨⟨hs'.heap.newList (fun _ h => nomatch h), hs'.objects, hs'.scopes⟩, fun _ _ => rfl,
      trivial⟩

/-- The scope standing for a scope in the copy is none of `P`. -/
theorem scopeFor (i : Nat) :
  Cloning.Sealed P (Cloning.scopeFor i) fun p => ¬ P p.1
  := by
  unfold Cloning.scopeFor
  refine get_bind fun s hs => ⟨rfl, ?_⟩
  split
  · rename_i j hj
    obtain ⟨l₁, l₂, hl, -⟩ := List.lookup_eq_some_iff.1 hj
    exact pure (hs.scopes (i, j) (by simp [hl]))
  · refine fun s' hs' => ⟨?_, fun _ _ h => ?_⟩
    · show EStateM.Result.ok (((s'.heap.erase P).newScope []).1, true)
          (CloneState.mk ((s'.heap.erase P).newScope []).2 s'.objects s'.lists
            ((i, ((s'.heap.erase P).newScope []).1) :: s'.scopes)) = _
      rw [Heap.newScope_erase hs'.heap]
      rfl
    · cases h
      refine ⟨⟨hs'.heap.newScope (fun _ h => nomatch h), hs'.objects, ?_⟩,
        fun j hj => Heap.scope_push s'.heap [] (hs'.heap.bounded j hj),
        hs'.heap.newScope_fst []⟩
      rintro p (_ | ⟨_, hp⟩)
      · exact hs'.heap.newScope_fst []
      · exact hs'.scopes p hp

theorem elements (i : Nat) :
  Cloning.Sealed P (Cloning.elements i) fun vs => ∀ v ∈ vs, v.Avoids P
  := fun _ hs => ⟨rfl, fun _ _ h => by cases h; exact ⟨hs, fun _ _ => rfl, hs.heap.list i⟩⟩

/-- The bindings of a scope outside `P` read the same in both heaps. -/
theorem bindings {i : Nat} (hi : ¬ P i) :
  Cloning.Sealed P (Cloning.bindings i) fun b => ∀ p ∈ b, p.2.Avoids P
  := by
  refine fun s hs => ⟨?_, fun _ _ h => by cases h; exact ⟨hs, fun _ _ => rfl, hs.heap.scope i⟩⟩
  show EStateM.Result.ok ((s.heap.erase P).scope i) (s.erase P) = .ok (s.heap.scope i) (s.erase P)
  rw [Heap.scope_erase_of_not hi]

theorem fillList (j : Nat) {vs : Array Value} (hvs : ∀ v ∈ vs, v.Avoids P) :
  Cloning.Sealed P (Cloning.fillList j vs) fun _ => True
  := by
  refine fun s hs => ⟨rfl, fun _ _ h => ?_⟩
  cases h
  refine ⟨⟨⟨hs.heap.scopes, fun l hl => ?_, hs.heap.bounded⟩, hs.objects, hs.scopes⟩,
    fun _ _ => rfl, trivial⟩
  have hl' : l ∈ s.heap.lists.setIfInBounds j vs := by
    simpa [Array.set!_eq_setIfInBounds] using hl
  rcases Array.mem_or_eq_of_mem_setIfInBounds hl' with hl | rfl
  · exact hs.heap.lists l hl
  · exact hvs

theorem fillScope {j : Nat} (hj : ¬ P j) {b : Bindings} (hb : ∀ p ∈ b, p.2.Avoids P) :
  Cloning.Sealed P (Cloning.fillScope j b) fun _ => True
  := by
  refine fun s hs => ⟨?_, fun _ _ h => ?_⟩
  · show EStateM.Result.ok () { (s.erase P) with heap := (s.heap.erase P).setScope j b } = _
    rw [Heap.setScope_erase hj]
    rfl
  · cases h
    refine ⟨⟨⟨fun b' hb' => ?_, hs.heap.lists, fun k hk => ?_⟩, hs.objects, hs.scopes⟩,
      fun k hk => Heap.scope_setScope _ _ _ fun h => hj (h ▸ hk), trivial⟩
    · have hb'' : b' ∈ s.heap.scopes.setIfInBounds j b := by
        simpa [Heap.setScope, Array.set!_eq_setIfInBounds] using hb'
      rcases Array.mem_or_eq_of_mem_setIfInBounds hb'' with hb' | rfl
      · exact hs.heap.scopes b' hb'
      · exact hb
    · simpa using hs.heap.bounded k hk

/-- Settling touches only scopes the copy made, which are outside `P`. -/
theorem settle (j : Nat) {w : Value} (hw : w.Avoids P) :
  Cloning.Sealed P (Cloning.settle j w) fun _ => True
  := by
  refine fun s hs => ⟨?_, fun _ _ h => ?_⟩
  · show EStateM.Result.ok () ((s.erase P).settle j w) = .ok () ((s.settle j w).erase P)
    rw [CloneState.settle_erase]
  · cases h
    have hQ : ∀ v : Value, v.Avoids P → (Value.settle j w v).Avoids P := Value.avoids_settle hw
    refine ⟨⟨⟨CloneState.settle_scopes hQ hs.heap.scopes, CloneState.settle_lists hQ hs.heap.lists,
      fun k hk => by simpa using hs.heap.bounded k hk⟩, CloneState.settle_objects hQ hs.objects,
      hs.scopes⟩, fun k hk => CloneState.scope_settle_of_not_made ?_, trivial⟩
    exact CloneState.madeIn_eq_false fun p hp hpk => hs.scopes p hp (hpk ▸ hk)

/-- The copy of a value that avoids `P` reads only scopes outside `P`, and avoids `P`. -/
theorem value (fuel : Nat) :
  ∀ v, v.Avoids P → Cloning.Sealed P (Cloning.value fuel v) (Value.Avoids P)
  := by
  induction fuel with
  | zero => exact fun _ _ => throw _
  | succ fuel ih =>
    have hbind : ∀ p : String × Value, p.2.Avoids P →
        Cloning.Sealed P (do Pure.pure (p.1, ← Cloning.value fuel p.2)) fun q => q.2.Avoids P :=
      fun p hp => bind (ih p.2 hp) fun _ hw => pure hw
    intro v hv
    unfold Cloning.value
    split
    · exact pure hv
    · refine get_bind fun s hs => ⟨rfl, ?_⟩
      split
      · rename_i w hw
        obtain ⟨l₁, l₂, hl, -⟩ := List.lookup_eq_some_iff.1 hw
        exact pure (hs.objects _ (hl ▸ List.mem_append_right _ List.mem_cons_self))
      · split
        · refine bind freshId fun j _ => bind (listFor _) fun p _ => ?_
          refine bind (keep _ trivial) fun _ _ => ?_
          split
          · refine bind (elements _) fun vs hvs => ?_
            refine bind (array_mapM ih vs hvs) fun ws hws => ?_
            exact bind (fillList _ hws) fun _ _ => pure trivial
          · exact pure trivial
        · refine bind freshId fun j _ => bind (scopeFor _) fun p hp => ?_
          refine bind (keep _ hp) fun _ _ => ?_
          split
          · refine bind (bindings hv) fun b hb => ?_
            refine bind (list_mapM hbind b hb) fun b' hb' => ?_
            exact bind (fillScope hp hb') fun _ _ => pure hp
          · exact pure hp
        · refine bind freshId fun j _ => bind (scopeFor _) fun p hp => ?_
          refine bind (keep _ hp) fun _ _ => ?_
          split
          · refine bind (bindings hv) fun b hb => ?_
            refine bind (list_mapM hbind b hb) fun b' hb' => ?_
            exact bind (fillScope hp hb') fun _ _ => pure hp
          · exact pure hp
        · rename_i ps _
          have hps := Value.avoidsPairs_iff.1 hv
          refine bind freshId fun j _ => bind (keep _ trivial) fun _ _ => ?_
          refine bind (list_mapM (A := fun q : HashKey × Value × Value => q.2.1.Avoids P ∧
              q.2.2.Avoids P) (Q := fun q : HashKey × Value × Value => q.2.1.Avoids P ∧
              q.2.2.Avoids P) (fun q hq => ?_) ps hps)
            fun ps' hps' => ?_
          · obtain ⟨k, kv, w⟩ := q
            exact bind (ih kv hq.1) fun _ hkv => bind (ih w hq.2) fun _ hw => pure ⟨hkv, hw⟩
          · have hcopy : (Value.hash j ps').Avoids P := Value.avoidsPairs_iff.2 hps'
            exact bind (settle j hcopy) fun _ _ => pure hcopy
        · exact bind freshId fun j _ => bind (keep _ trivial) fun _ _ =>
            bind (ih _ hv) fun w hw => bind (settle j hw) fun _ _ => pure hw
        · have hw : ∀ j, (v.withIdent j).Avoids P := fun j => by
            cases v <;> simp_all [Value.withIdent, Value.Avoids]
          exact bind freshId fun j _ => bind (keep _ (hw j)) fun _ _ => pure (hw j)

end Cloning.Sealed

/-- The deep copy of a scope outside `P`, from a heap that avoids `P`, is the same on the heap
with the scopes of `P` emptied, and leaves a heap that avoids `P`, with the scopes of `P` as
they were. The copy reads the scope it copies, which is outside `P`, and then runs alike on
both heaps. -/
theorem Heap.cloneScope_erase {P : Nat → Prop} [DecidablePred P] {h : Heap} (hh : h.Avoids P)
    {i : Nat} (hi : ¬ P i) :
  (h.erase P).cloneScope i = (h.cloneScope i).map (fun p => (p.1, p.2.erase P)) ∧
    ∀ c h', h.cloneScope i = .ok (c, h') →
      h'.Avoids P ∧ (∀ j, P j → h'.scope j = h.scope j) ∧ ¬ P c
  := by
  have hscope : (h.erase P).scope i = h.scope i := Heap.scope_erase_of_not hi
  have h₁ := Heap.cloneScope.eq_def (h.erase P) i
  have h₂ := Heap.cloneScope.eq_def h i
  rw [hscope] at h₁
  extract_lets run at h₂
  extract_lets at h₁
  have hs : CloneState.Avoids P { heap := h } :=
    ⟨hh, fun _ h => absurd h List.not_mem_nil, fun _ h => absurd h List.not_mem_nil⟩
  have hrun : Cloning.Sealed P run fun c => ¬ P c := by
    refine Cloning.Sealed.bind (Cloning.Sealed.scopeFor i) fun p hp => ?_
    refine Cloning.Sealed.bind (Cloning.Sealed.list_mapM
      (fun q hq => Cloning.Sealed.bind (Cloning.Sealed.value _ q.2 hq) fun _ hw =>
        Cloning.Sealed.pure (Q := fun q : String × Value => q.2.Avoids P) hw)
      _ (hh.scope i)) fun b hb => ?_
    exact Cloning.Sealed.bind (Cloning.Sealed.fillScope hp hb) fun _ _ => Cloning.Sealed.pure hp
  obtain ⟨herase, hok⟩ := hrun _ hs
  refine ⟨?_, fun c h' hc => ?_⟩
  · rw [h₁, h₂, show ({ heap := h.erase P } : CloneState) = CloneState.erase P { heap := h }
      from rfl, herase]
    cases run.run { heap := h } <;> rfl
  · rw [h₂] at hc
    cases hr : run.run { heap := h } with
    | ok c' s =>
      rw [hr] at hc
      obtain ⟨rfl, rfl⟩ := Prod.mk.inj (Except.ok.inj hc)
      obtain ⟨hav, hkeep, hc'⟩ := hok c' s hr
      exact ⟨hav.heap, hkeep, hc'⟩
    | error e s =>
      rw [hr] at hc
      cases hc

/-- Calling a class, as one step on the machine. -/
theorem Eval.instantiate_run (sc : Nat) (m : Machine) :
  (Eval.instantiate sc).run m = match m.heap.cloneScope sc with
      | .ok (c, h) => .ok (.inst h.nextId c) { m with heap := h.fresh.2 }
      | .error e => .error e m
  := by
  unfold Eval.instantiate
  have hheap : Run.heap.run m = .ok m.heap m := rfl
  rw [EStateM.run_bind, hheap]
  dsimp only
  cases m.heap.cloneScope sc with
  | error e => rfl
  | ok p => rfl

/-- Calling a class whose scope is outside `P` is sealed off from `P`. -/
theorem Run.Sealed.instantiate {P : Nat → Prop} [DecidablePred P] {sc : Nat} (hsc : ¬ P sc) :
  Run.Sealed P (Eval.instantiate sc) (Value.Avoids P)
  := by
  intro m hm
  obtain ⟨herase, hok⟩ := Heap.cloneScope_erase hm hsc
  have hrun' := Eval.instantiate_run sc (m.erase P)
  have hrun := Eval.instantiate_run sc m
  change (m.heap.erase P).cloneScope sc = _ at herase
  rw [show (m.erase P).heap = m.heap.erase P from rfl, herase] at hrun'
  cases hc : m.heap.cloneScope sc with
  | error e =>
    rw [hc] at hrun hrun'
    refine ⟨by rw [hrun, hrun']; rfl, ?_, fun j _ => ?_, fun _ _ h => ?_⟩
    · rw [stateAfter_of_error hrun]; exact hm
    · rw [stateAfter_of_error hrun]
    · rw [hrun] at h; cases h
  | ok p =>
    obtain ⟨c, h'⟩ := p
    obtain ⟨hav, hkeep, hc'⟩ := hok c h' hc
    rw [hc] at hrun hrun'
    refine ⟨by rw [hrun, hrun']; rfl, ?_, fun j hj => ?_, fun _ _ h => ?_⟩
    · rw [stateAfter_of_ok hrun]; exact hav.fresh
    · rw [stateAfter_of_ok hrun]; exact hkeep j hj
    · rw [hrun] at h; cases h; exact hc'

/-! ### Builtins -/

namespace Value

variable {P : Nat → Prop} [DecidablePred P]

/-- What a value shows reads the lists of the heap only. -/
theorem shownAt_erase (h : Heap) (fuel : Nat) :
  shownAt (h.erase P) fuel = shownAt h fuel
  := by
  induction fuel with
  | zero => rfl
  | succ fuel ih =>
    funext v
    rw [shownAt.eq_def, shownAt.eq_def]
    dsimp only
    rw [ih]
    rfl

theorem inspect_erase (h : Heap) (v : Value) :
  v.inspect (h.erase P) = v.inspect h
  := by
  rw [inspect, inspect, shownAt_erase]

end Value

namespace Run.Sealed

variable {P : Nat → Prop} [DecidablePred P]

theorem oneArray (name : String) (args : List Value) :
  Run.Sealed P (Builtin.oneArray name args) fun r =>
    match r with
      | .ok (_, vs) => ∀ v ∈ vs, v.Avoids P
      | .error e => e.Avoids P
  := by
  unfold Builtin.oneArray
  split
  · split
    · exact read fun h hh => ⟨rfl, pure (hh.list _)⟩
    · exact bind (lift_gives fun _ _ => trivial) fun _ _ => pure trivial
  · exact pure trivial

/-- The builtins read and write lists and the output only, never a scope: given arguments that
avoid `P`, they are sealed off from `P` and give values that avoid it. -/
theorem builtin (b : Builtin) {args : List Value} (hargs : ∀ v ∈ args, v.Avoids P) :
  Run.Sealed P (b.call args) (Value.Avoids P)
  := by
  cases b with
  | len =>
    simp only [Builtin.call]
    split
    · exact pure trivial
    · exact read fun _ _ => ⟨rfl, pure trivial⟩
    · exact bind (lift_gives fun _ _ => trivial) fun _ _ => pure trivial
    · exact pure trivial
  | first =>
    simp only [Builtin.call]
    refine bind (oneArray _ args) fun r hr => ?_
    split
    · exact pure hr
    · refine pure ?_
      cases hv : (‹Array Value›)[0]? with
      | none => trivial
      | some v => exact hr v (Array.mem_of_getElem? hv)
  | last =>
    simp only [Builtin.call]
    refine bind (oneArray _ args) fun r hr => ?_
    split
    · exact pure hr
    · refine pure ?_
      rw [Array.back?_eq_getElem?]
      cases hv : (‹Array Value›)[(‹Array Value›).size - 1]? with
      | none => trivial
      | some v => exact hr v (Array.mem_of_getElem? hv)
  | rest =>
    simp only [Builtin.call]
    refine bind (oneArray _ args) fun r hr => ?_
    split
    · exact pure hr
    · split
      · exact pure trivial
      · refine newArray fun v hv => ?_
        rename_i vs _ _
        obtain ⟨k, _, rfl⟩ := Array.mem_extract_iff_getElem.1 hv
        exact hr _ (Array.getElem_mem _)
  | push =>
    simp only [Builtin.call]
    split
    · split
      · refine bind (onHeap fun h hh => ⟨rfl, hh.append _ (hargs _ ?_), fun _ _ => rfl⟩)
          fun _ _ => bind fresh fun _ _ => pure trivial
        simp
      · exact bind (lift_gives fun _ _ => trivial) fun _ _ => pure trivial
    · exact pure trivial
  | update =>
    simp only [Builtin.call]
    split
    · split
      · split
        · refine read fun _ _ => ⟨rfl, ?_⟩
          split
          all_goals
            split
            · exact pure trivial
            · split
              · refine bind (onHeap fun h hh =>
                  ⟨rfl, hh.setAt _ _ (hargs _ ?_), fun _ _ => rfl⟩) fun _ _ => pure trivial
                simp
              · exact throw _
        · exact bind (lift_gives fun _ _ => trivial) fun _ _ => pure trivial
      · exact bind (lift_gives fun _ _ => trivial) fun _ _ => pure trivial
    · exact pure trivial
  | exit => exact pure trivial
  | print | printl =>
    simp only [Builtin.call]
    refine bind (forIn_list (fun a _ => ?_) args _) fun _ _ => pure trivial
    refine read fun h _ => ⟨by simp only [Value.inspect_erase], ?_⟩
    exact bind (lift_gives fun _ _ => trivial) fun _ _ => bind (write _) fun _ _ => pure trivial
  | str =>
    simp only [Builtin.call]
    split
    · refine read fun h _ => ⟨by simp only [Value.inspect_erase], ?_⟩
      exact bind (lift_gives fun _ _ => trivial) fun _ _ => pure trivial
    · exact pure trivial
  | int =>
    simp only [Builtin.call]
    split
    · refine pure ?_
      unfold readNumber
      repeat' split
      all_goals trivial
    · exact pure trivial
    · exact pure trivial
  | input =>
    simp only [Builtin.call]
    exact bind readLine fun _ _ => pure trivial

end Run.Sealed

end Monkey
