import Monkey.Proofs.ScopeGrowth

/-!
# A chain of scopes is a stack of maps

A frame looks names up along its chain of scopes, innermost first, and changes them in two
ways. `let`, and the parameters of a call, bind a name in the innermost scope (`Heap.bind`):
that scope maps the name to the new value and no other scope changes. Assignment
(`Heap.assign`) changes the binding that lookup finds: the innermost scope that binds the name
(`Heap.Innermost`) takes the new value and no scope gains or loses a name; where no scope of the
chain binds the name, the innermost scope gains it. Either way the chain then finds the name
with its new value and every other name as before (`Heap.stack_laws`).

Each change is described by `Heap.SetsIn`, a write of one name into one scope, and the laws of
lookup are proved once of such a write.
-/

namespace Monkey

namespace Heap

/-- `h'` is `h` with the name `n` set to `v` in the scope `j`; the other names of that scope and
every other scope are as they were. -/
structure SetsIn (h h' : Heap) (j : Nat) (n : String) (v : Value) : Prop where
  self : (h'.scope j).get? n = some v
  other : ∀ m, m ≠ n → (h'.scope j).get? m = (h.scope j).get? m
  frame : ∀ k, k ≠ j → h'.scope k = h.scope k

/-- The scope `j` is the first scope of the chain that binds the name `n`. -/
def Innermost (h : Heap) (n : String) (chain : List Nat) (j : Nat) : Prop :=
  ∃ pre post, chain = pre ++ j :: post ∧ (h.scope j).binds n = true ∧
    ∀ k ∈ pre, (h.scope k).binds n = false

variable {h h' : Heap} {n : String} {v : Value}

/-- A scope that binds a name is a scope of the heap: the ones past its end are empty. -/
theorem lt_size_of_binds {j : Nat} (hj : (h.scope j).binds n = true) :
  j < h.scopes.size
  := by
  apply Nat.lt_of_not_le
  intro hge
  simp [scope, Array.getD_eq_getD_getElem?, hge, Bindings.binds] at hj

/-- Binding a name in a scope of the heap sets it there alone. -/
theorem setsIn_bind {i : Nat} (hi : i < h.scopes.size) (n : String) (v : Value) :
    h.SetsIn (h.bind i n v) i n v where
  self := by rw [scope_bind, if_pos ⟨rfl, hi⟩, Bindings.get?_put_self]
  other m hm := by rw [scope_bind, if_pos ⟨rfl, hi⟩, Bindings.get?_put_other n m v _ hm]
  frame k hk := by rw [scope_bind, if_neg fun h => hk h.1]

/-- The innermost scope binding a name is the one the search of the chain stops at. -/
theorem innermost_iff {chain : List Nat} {j : Nat} :
  h.Innermost n chain j ↔ chain.find? (fun k => (h.scope k).binds n) = some j
  := by
  rw [List.find?_eq_some_iff_append]
  constructor
  · rintro ⟨pre, post, rfl, hj, hpre⟩
    exact ⟨hj, pre, post, rfl, fun k hk => by simp [hpre k hk]⟩
  · rintro ⟨hj, pre, post, rfl, hpre⟩
    exact ⟨pre, post, rfl, hj, fun k hk => by simpa using hpre k hk⟩

/-- The innermost scope binding a name binds it. -/
theorem Innermost.binds {chain : List Nat} {j : Nat} (hj : h.Innermost n chain j) :
  (h.scope j).binds n = true
  := by
  obtain ⟨-, -, -, hjn, -⟩ := hj
  exact hjn

/-- Assignment writes into the innermost scope binding the name. -/
theorem assign_of_innermost {chain : List Nat} {j : Nat} (hj : h.Innermost n chain j) :
  h.assign n v chain = h.bind j n v
  := by
  unfold assign
  rw [innermost_iff.1 hj]

theorem setsIn_assign_of_innermost {chain : List Nat} {j : Nat} (hj : h.Innermost n chain j) :
  h.SetsIn (h.assign n v chain) j n v
  := by
  rw [assign_of_innermost hj]
  exact setsIn_bind (lt_size_of_binds hj.binds) n v

/-- Where no scope of the chain binds the name, assignment writes into the innermost scope. -/
theorem assign_of_unbound {i : Nat} {rest : List Nat}
    (hnone : ∀ k ∈ i :: rest, (h.scope k).binds n = false) :
  h.assign n v (i :: rest) = h.bind i n v
  := by
  have hfind : (i :: rest).find? (fun k => (h.scope k).binds n) = none :=
    List.find?_eq_none.2 fun k hk => by simp [hnone k hk]
  unfold assign
  rw [hfind]

/-- Scopes that do not bind a name are passed over by its lookup. -/
theorem lookup_append_of_unbound {pre : List Nat} (hpre : ∀ k ∈ pre, (h.scope k).binds n = false)
    (rest : List Nat) :
  h.lookup n (pre ++ rest) = h.lookup n rest
  := by
  induction pre with
  | nil => rfl
  | cons k pre ih =>
    have hk : (h.scope k).get? n = none := by
      simpa [Bindings.binds] using hpre k List.mem_cons_self
    rw [List.cons_append, lookup, hk]
    exact ih fun k' hk' => hpre k' (List.mem_cons_of_mem k hk')

namespace SetsIn

variable {j : Nat} (hs : h.SetsIn h' j n v)
include hs

/-- A write of one name leaves every other name of every scope as it was. -/
theorem get?_other (k : Nat) {m : String} (hm : m ≠ n) :
  (h'.scope k).get? m = (h.scope k).get? m
  := by
  by_cases hk : k = j
  · subst hk
    exact hs.other m hm
  · rw [hs.frame k hk]

/-- A write of a name into a scope that binds it already changes no scope's names. -/
theorem binds_eq (hj : (h.scope j).binds n = true) (k : Nat) (m : String) :
  (h'.scope k).binds m = (h.scope k).binds m
  := by
  by_cases hm : m = n
  · subst hm
    by_cases hk : k = j
    · subst hk
      rw [hj]
      simp [Bindings.binds, hs.self]
    · rw [hs.frame k hk]
  · simp only [Bindings.binds, hs.get?_other k hm]

/-- Every other name is found along any chain as before the write. -/
theorem lookup_other (chain : List Nat) {m : String} (hm : m ≠ n) :
  h'.lookup m chain = h.lookup m chain
  := by
  induction chain with
  | nil => rfl
  | cons k rest ih => simp only [lookup, hs.get?_other k hm, ih]

/-- The written name is found with its new value along a chain whose scopes before the written
one do not bind it. -/
theorem lookup_self {pre : List Nat} (hpre : ∀ k ∈ pre, k ≠ j ∧ (h.scope k).binds n = false)
    (post : List Nat) :
  h'.lookup n (pre ++ j :: post) = some v
  := by
  have hpre' : ∀ k ∈ pre, (h'.scope k).binds n = false := fun k hk => by
    rw [hs.frame k (hpre k hk).1]
    exact (hpre k hk).2
  rw [lookup_append_of_unbound hpre', lookup, hs.self]

/-- A chain that starts with the written scope finds the written name there. -/
theorem lookup_head (post : List Nat) :
  h'.lookup n (j :: post) = some v
  := by
  rw [lookup, hs.self]

/-- A write into the innermost scope binding the name is found by the chain. -/
theorem lookup_innermost {chain : List Nat} (hj : h.Innermost n chain j) :
  h'.lookup n chain = some v
  := by
  obtain ⟨pre, post, rfl, hjn, hpre⟩ := hj
  refine hs.lookup_self (fun k hk => ⟨?_, hpre k hk⟩) post
  rintro rfl
  simp [hpre k hk] at hjn

end SetsIn

/-- The laws of a chain of scopes as a stack of maps, for the name `n` set to `v` from a frame
whose chain is `i :: rest`. -/
structure StackLaws (h : Heap) (i : Nat) (rest : List Nat) (n : String) (v : Value) : Prop where
  /-- `let` sets the name in the innermost scope, and no other scope changes -/
  bind : h.SetsIn (h.bind i n v) i n v
  /-- assignment sets it in the innermost scope that binds it, and no scope gains or loses a
  name -/
  assign_bound : ∀ j, h.Innermost n (i :: rest) j →
    h.SetsIn (h.assign n v (i :: rest)) j n v ∧
      ∀ k m, ((h.assign n v (i :: rest)).scope k).binds m = (h.scope k).binds m
  /-- where no scope binds it, assignment sets it in the innermost scope -/
  assign_unbound : (∀ k ∈ i :: rest, (h.scope k).binds n = false) →
    h.SetsIn (h.assign n v (i :: rest)) i n v
  /-- after either, the chain finds the name with its new value and every other name as
  before -/
  lookup : ∀ h' ∈ [h.bind i n v, h.assign n v (i :: rest)],
    h'.lookup n (i :: rest) = some v ∧
      ∀ m, m ≠ n → h'.lookup m (i :: rest) = h.lookup m (i :: rest)

/-- A chain whose innermost scope is a scope of the heap is a stack of maps: `let` writes into
the innermost scope, assignment into the innermost scope binding the name (or the innermost
scope when none does), and lookup then finds the new value of that name and the old values of
all others. -/
theorem stack_laws (h : Heap) {i : Nat} (rest : List Nat) (hi : i < h.scopes.size) (n : String)
    (v : Value) :
  h.StackLaws i rest n v
  := by
  have hbind : h.SetsIn (h.bind i n v) i n v := setsIn_bind hi n v
  have hhead : (h.bind i n v).lookup n (i :: rest) = some v := hbind.lookup_head rest
  refine ⟨hbind, fun j hj => ?_, fun hnone => ?_, ?_⟩
  · have hs := setsIn_assign_of_innermost (v := v) hj
    exact ⟨hs, hs.binds_eq hj.binds⟩
  · rw [assign_of_unbound hnone]
    exact hbind
  · simp only [List.mem_cons, List.not_mem_nil, or_false]
    rintro h' (rfl | rfl)
    · exact ⟨hhead, fun m hm => hbind.lookup_other _ hm⟩
    cases hfind : (i :: rest).find? (fun k => (h.scope k).binds n) with
    | some j =>
      have hj := innermost_iff.2 hfind
      have hs := setsIn_assign_of_innermost (v := v) hj
      exact ⟨hs.lookup_innermost hj, fun m hm => hs.lookup_other _ hm⟩
    | none =>
      have hnone : ∀ k ∈ i :: rest, (h.scope k).binds n = false := fun k hk => by
        simpa using List.find?_eq_none.1 hfind k hk
      rw [assign_of_unbound hnone]
      exact ⟨hhead, fun m hm => hbind.lookup_other _ hm⟩

/-- Three scopes, of which the outer two bind `x`: assignment from the innermost scope rebinds
`x` in the middle one. -/
theorem stack_laws_shadowed :
  2 < (⟨#[[("x", .ofInt 1)], [("x", .ofInt 2)], []], #[], 32⟩ : Heap).scopes.size ∧
    (⟨#[[("x", .ofInt 1)], [("x", .ofInt 2)], []], #[], 32⟩ : Heap).StackLaws 2 [1, 0] "x"
      (.ofInt 7)
  := ⟨by decide, stack_laws _ [1, 0] (by decide) "x" (.ofInt 7)⟩

end Heap

end Monkey
