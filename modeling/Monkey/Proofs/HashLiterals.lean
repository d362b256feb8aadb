import Monkey.Proofs.Errors

/-!
# Hash literals

A hash literal evaluates its pairs in order, each key before its value, and stores each pair
under the key's number: a write to a key already stored replaces the key value and value of its
pair in place, and a write to a new key goes last. So when every key is an integer, a Boolean or
an ASCII string, whose keys are integers (`Value.intKey?_isSome_iff`), the hash holds the last
write to each key, in the order the keys are first written (`HoldsLastWrites`), and indexing it
with a key gives the last value written under that key, or `null`
(`hash_literal_last_write_wins`). The key of `true` is `1` and that of `false` is `0`, so
Booleans and integers share keys, and a string's key is the number its SHA-256 digest starts
with, which may be any integer's.
-/

/-- Core proves which elements `eraseDups` keeps, not that it keeps each once. -/
private theorem List.eraseDups_nodup {α : Type} [BEq α] [LawfulBEq α] :
  (l : List α) → l.eraseDups.Nodup
  | [] => by simp
  | a :: as => by
    rw [List.eraseDups_cons, List.nodup_cons]
    refine ⟨?_, List.eraseDups_nodup _⟩
    rw [List.mem_eraseDups]
    simp
termination_by l => l.length
decreasing_by exact Nat.lt_succ_of_le (List.length_filter_le _ _)

namespace Monkey

/-! ## Integer keys -/

namespace Value

/-- The integer a value keys a hash by, when its key is an integer. -/
def intKey? (v : Value) : Option Int :=
  match v.hashKey with
  | .ok ⟨.int z, _⟩ => some z
  | _ => none

variable {v : Value} {z : Int}

theorem hashKey_of_intKey? (h : v.intKey? = some z) :
  ∃ o, v.hashKey = .ok ⟨.int z, o⟩
  := by
  unfold intKey? at h
  split at h
  · rename_i o heq
    cases h
    exact ⟨o, heq⟩
  · cases h

theorem intKey?_of_hashKey {key : HashKey} (hk : v.hashKey = .ok key)
    (hz : key.number = .int z) :
  v.intKey? = some z
  := by
  obtain ⟨n, o⟩ := key
  cases hz
  rw [intKey?, hk]

theorem isHashable_of_intKey? (h : v.intKey? = some z) :
  v.isHashable = true
  := by
  obtain ⟨o, ho⟩ := hashKey_of_intKey? h
  cases v <;> simp_all [hashKey, isHashable]

theorem isError_of_intKey? (h : v.intKey? = some z) :
  v.isError = false
  := by
  have := isHashable_of_intKey? h
  cases v <;> simp_all [isHashable, isError]

/-- A string keys a hash exactly when it is ASCII, and then by an integer. -/
theorem stringKey_int_iff {s : String} :
  (∃ k : Int, stringKey s = .ok (.int k)) ↔ ∀ c ∈ s.toList, c.toNat < 128
  := by
  unfold stringKey
  cases hf : s.toList.findIdx? (fun c => decide (c.toNat ≥ 128)) with
  | none =>
    simp only [hf]
    rw [List.findIdx?_eq_none_iff] at hf
    simp only [ge_iff_le, decide_eq_false_iff_not, Nat.not_le] at hf
    exact ⟨fun _ => hf, fun _ => ⟨_, rfl⟩⟩
  | some i =>
    have hany : s.toList.any (fun c => decide (c.toNat ≥ 128)) = true := by
      rw [← List.findIdx?_isSome, hf]
      rfl
    obtain ⟨c, hc, hbig⟩ := List.any_eq_true.1 hany
    simp only [hf]
    constructor
    · rintro ⟨n, hn⟩
      cases hn
    · intro hall
      have := hall c hc
      simp only [ge_iff_le, decide_eq_true_eq] at hbig
      omega

theorem stringKey_int {s : String} {n : Number} (h : stringKey s = .ok n) :
  ∃ k : Int, n = .int k
  := by
  unfold stringKey at h
  cases hf : s.toList.findIdx? (fun c => decide (c.toNat ≥ 128)) with
  | none =>
    simp only [hf] at h
    cases h
    exact ⟨_, rfl⟩
  | some i =>
    simp only [hf] at h
    cases h

/-- The values whose hash key is an integer: integers, Booleans and ASCII strings. -/
theorem intKey?_isSome_iff :
  v.intKey?.isSome ↔ (∃ z o, v = .num (.int z) o) ∨ (∃ b i, v = .bool b i) ∨
    ∃ s, v = .str s ∧ ∀ c ∈ s.toList, c.toNat < 128
  := by
  cases v with
  | num n o => cases n <;> simp [intKey?, hashKey, pure, Except.pure]
  | bool b i => simp [intKey?, hashKey, pure, Except.pure]
  | str s =>
    simp only [reduceCtorEq, exists_false, false_or, str.injEq, exists_eq_left']
    rw [← stringKey_int_iff]
    cases h : stringKey s with
    | error e => simp [intKey?, hashKey, h, bind, Except.bind]
    | ok n =>
      obtain ⟨k, rfl⟩ := stringKey_int h
      simp [intKey?, hashKey, h, bind, Except.bind, pure, Except.pure]
  | _ => simp [intKey?, hashKey, throw, throwThe, MonadExcept.throw, MonadExceptOf.throw]

end Value

/-- Integer keys match when they are equal. -/
theorem HashKey.matches_of_int {a b : HashKey} {x y : Int} (ha : a.number = .int x)
    (hb : b.number = .int y) :
  a.matches b = decide (x = y)
  := by
  obtain ⟨_, _⟩ := a
  obtain ⟨_, _⟩ := b
  cases ha
  cases hb
  simp only [HashKey.matches, Number.isNaN, Number.eq, Number.compare?, Bool.or_self,
    Bool.false_eq_true, if_false]
  rw [Bool.eq_iff_iff, beq_iff_eq, decide_eq_true_iff, Option.some.injEq, Int.compare_eq_eq]

/-! ## Storing pairs -/

/-- Storing a pair under a key that no stored key matches adds it last. -/
theorem storePair_of_none {key : HashKey} {kv v : Value} {ps : List (HashKey × Value × Value)}
    (h : ∀ p ∈ ps, p.1.matches key = false) :
  storePair key kv v ps = ps ++ [(key, kv, v)]
  := by
  induction ps with
  | nil => rfl
  | cons p ps ih =>
    obtain ⟨k, kv', v'⟩ := p
    have hk : k.matches key = false := h _ List.mem_cons_self
    rw [storePair, hk, if_neg Bool.false_ne_true, ih fun q hq => h q (List.mem_cons_of_mem _ hq)]
    rfl

/-- Storing a pair under a key gives the first stored key that matches it the new key value and
value. -/
theorem storePair_of_first {key : HashKey} {kv v : Value}
    {pre post : List (HashKey × Value × Value)} {q : HashKey × Value × Value}
    (hpre : ∀ p ∈ pre, p.1.matches key = false) (hq : q.1.matches key = true) :
  storePair key kv v (pre ++ q :: post) = pre ++ (q.1, kv, v) :: post
  := by
  induction pre with
  | nil =>
    obtain ⟨k, kv', v'⟩ := q
    rw [List.nil_append, storePair, if_pos hq]
    rfl
  | cons p pre ih =>
    obtain ⟨k, kv', v'⟩ := p
    have hk : k.matches key = false := hpre _ List.mem_cons_self
    rw [List.cons_append, storePair, hk, if_neg Bool.false_ne_true,
      ih fun p hp => hpre p (List.mem_cons_of_mem _ hp)]
    rfl

/-- The value stored under a key is that of the first pair whose key matches it. -/
theorem pairValue?_eq_find (key : HashKey) (ps : List (HashKey × Value × Value)) :
  pairValue? key ps = (ps.find? (·.1.matches key)).map (·.2.2)
  := by
  induction ps with
  | nil => rfl
  | cons p ps ih =>
    obtain ⟨k, kv, v⟩ := p
    by_cases hk : k.matches key <;> simp [pairValue?, hk, ih]

/-! ## The last writes -/

/-- The last write of `kvs` whose key is the integer `z`. -/
def lastWrite (kvs : List (Value × Value)) (z : Int) : Option (Value × Value) :=
  kvs.reverse.find? (·.1.intKey? == some z)

section LastWrite

variable {kvs : List (Value × Value)} {k v : Value} {y z : Int}

theorem lastWrite_append_self (hz : k.intKey? = some z) :
  lastWrite (kvs ++ [(k, v)]) z = some (k, v)
  := by
  simp [lastWrite, hz]

theorem lastWrite_append_of_ne (hz : k.intKey? = some z) (hne : y ≠ z) :
  lastWrite (kvs ++ [(k, v)]) y = lastWrite kvs y
  := by
  simp [lastWrite, hz, Ne.symm hne]

/-- A key has a last write exactly when it is written. -/
theorem lastWrite_isSome_iff :
  (lastWrite kvs z).isSome ↔ z ∈ kvs.filterMap (·.1.intKey?)
  := by
  simp [lastWrite, List.find?_isSome, List.mem_filterMap]

end LastWrite

/-- Hash pairs that hold the writes `kvs` with the last write winning: one pair for each integer
key written, in the order the keys are first written, each holding the last key value and value
written under its key. -/
structure HoldsLastWrites (kvs : List (Value × Value)) (ps : List (HashKey × Value × Value)) :
    Prop where
  keys : ps.map (·.1.number) = (kvs.filterMap (·.1.intKey?)).eraseDups.map .int
  last : ∀ p ∈ ps, ∃ z, p.1.number = .int z ∧ lastWrite kvs z = some p.2

namespace HoldsLastWrites

variable {kvs : List (Value × Value)} {ps : List (HashKey × Value × Value)}

theorem nil :
  HoldsLastWrites [] []
  := ⟨rfl, fun _ h => nomatch h⟩

/-- A stored key is an integer that is written. -/
theorem number_mem (H : HoldsLastWrites kvs ps) {p : HashKey × Value × Value} (hp : p ∈ ps) :
  ∃ y, p.1.number = .int y ∧ y ∈ kvs.filterMap (·.1.intKey?)
  := by
  obtain ⟨y, hy, hw⟩ := H.last p hp
  exact ⟨y, hy, lastWrite_isSome_iff.1 (by rw [hw]; rfl)⟩

/-- A written key is stored. -/
theorem mem_number (H : HoldsLastWrites kvs ps) {z : Int}
    (hz : z ∈ kvs.filterMap (·.1.intKey?)) :
  ∃ p ∈ ps, p.1.number = .int z
  := by
  have : Number.int z ∈ ps.map (·.1.number) := by
    rw [H.keys]
    exact List.mem_map_of_mem (List.mem_eraseDups.2 hz)
  simpa using this

/-- The numbers of the stored keys are distinct. -/
theorem numbers_nodup (H : HoldsLastWrites kvs ps) :
  (ps.map (·.1.number)).Nodup
  := by
  rw [H.keys]
  exact List.Pairwise.map Number.int (fun _ _ hne h => hne (Number.int.inj h))
    (List.eraseDups_nodup _)

/-- A stored key matches an integer key exactly when its number is that integer. -/
theorem matches_iff (H : HoldsLastWrites kvs ps) {p : HashKey × Value × Value} (hp : p ∈ ps)
    {key : HashKey} {z : Int} (hz : key.number = .int z) :
  p.1.matches key = true ↔ p.1.number = .int z
  := by
  obtain ⟨y, hy, -⟩ := H.last p hp
  rw [HashKey.matches_of_int hy hz, decide_eq_true_iff, hy, Number.int.injEq]

/-- A written key is stored in one pair, and in no other. -/
theorem split_of_mem (H : HoldsLastWrites kvs ps) {z : Int}
    (hz : z ∈ kvs.filterMap (·.1.intKey?)) :
  ∃ pre q post, ps = pre ++ q :: post ∧ q.1.number = .int z ∧
    ∀ p ∈ pre ++ post, p.1.number ≠ .int z
  := by
  obtain ⟨q, hq, hqz⟩ := H.mem_number hz
  obtain ⟨pre, post, hps⟩ := List.append_of_mem hq
  refine ⟨pre, q, post, hps, hqz, fun p hp hpz => ?_⟩
  have hnd := H.numbers_nodup
  rw [hps, List.map_append, List.map_cons, List.nodup_append, List.nodup_cons] at hnd
  rcases List.mem_append.1 hp with hp | hp
  · exact hnd.2.2 _ (List.mem_map_of_mem hp) _ List.mem_cons_self (hpz.trans hqz.symm)
  · exact hnd.2.1.1 (List.mem_map.2 ⟨p, hp, hpz.trans hqz.symm⟩)

/-- Storing a write under an integer key keeps the last writes held. -/
theorem store (H : HoldsLastWrites kvs ps) {k v : Value} {key : HashKey} {z : Int}
    (hk : k.hashKey = .ok key) (hz : key.number = .int z) :
  HoldsLastWrites (kvs ++ [(k, v)]) (storePair key k v ps)
  := by
  have hkz : k.intKey? = some z := Value.intKey?_of_hashKey hk hz
  have hkeys : (kvs ++ [(k, v)]).filterMap (·.1.intKey?) =
      kvs.filterMap (·.1.intKey?) ++ [z] := by
    simp [List.filterMap_append, hkz]
  have hother : ∀ p ∈ ps, p.1.number ≠ .int z →
      ∃ y, p.1.number = .int y ∧ lastWrite (kvs ++ [(k, v)]) y = some p.2 := by
    intro p hp hne
    obtain ⟨y, hy, hw⟩ := H.last p hp
    have hyz : y ≠ z := by
      rintro rfl
      exact hne hy
    exact ⟨y, hy, by rw [lastWrite_append_of_ne hkz hyz, hw]⟩
  by_cases hmem : z ∈ kvs.filterMap (·.1.intKey?)
  · obtain ⟨pre, q, post, rfl, hqz, hrest⟩ := H.split_of_mem hmem
    have hpre : ∀ p ∈ pre, p.1.matches key = false := fun p hp =>
      Bool.eq_false_iff.2 fun hm =>
        hrest p (List.mem_append_left _ hp) ((H.matches_iff (by simp [hp]) hz).1 hm)
    rw [storePair_of_first hpre ((H.matches_iff (by simp) hz).2 hqz)]
    refine ⟨?_, fun p hp => ?_⟩
    · have hkeep : (pre ++ (q.1, k, v) :: post).map (·.1.number) =
          (pre ++ q :: post).map (·.1.number) := by
        simp
      rw [hkeep, H.keys, hkeys, List.eraseDups_append]
      simp [List.removeAll, hmem]
    · simp only [List.mem_append, List.mem_cons] at hp
      rcases hp with hp | rfl | hp
      · exact hother p (by simp [hp]) (hrest p (List.mem_append_left _ hp))
      · exact ⟨z, hqz, lastWrite_append_self hkz⟩
      · exact hother p (by simp [hp]) (hrest p (List.mem_append_right _ hp))
  · have hnone : ∀ p ∈ ps, p.1.number ≠ .int z := by
      intro p hp hpz
      obtain ⟨y, hy, hyK⟩ := H.number_mem hp
      obtain rfl : y = z := Number.int.inj (hy.symm.trans hpz)
      exact hmem hyK
    rw [storePair_of_none fun p hp =>
      Bool.eq_false_iff.2 fun hm => hnone p hp ((H.matches_iff hp hz).1 hm)]
    refine ⟨?_, fun p hp => ?_⟩
    · rw [List.map_append, H.keys, hkeys, List.eraseDups_append]
      simp [List.removeAll, hmem, hz, List.eraseDups_cons]
    · rcases List.mem_append.1 hp with hp | hp
      · exact hother p hp (hnone p hp)
      · rw [List.mem_singleton] at hp
        subst hp
        exact ⟨z, hz, lastWrite_append_self hkz⟩

/-- The first stored key that matches an integer key holds the key's last write. -/
theorem find (H : HoldsLastWrites kvs ps) {key : HashKey} {z : Int} (hz : key.number = .int z) :
  (ps.find? (·.1.matches key)).map (·.2) = lastWrite kvs z
  := by
  cases hf : ps.find? (·.1.matches key) with
  | some q =>
    have hq := List.mem_of_find?_eq_some hf
    have hm := List.find?_some hf
    obtain ⟨y, hy, hw⟩ := H.last q hq
    obtain rfl : y = z := Number.int.inj (hy.symm.trans ((H.matches_iff hq hz).1 hm))
    exact hw.symm
  | none =>
    cases hw : lastWrite kvs z with
    | none => rfl
    | some w =>
      obtain ⟨q, hq, hqz⟩ := H.mem_number (lastWrite_isSome_iff.1 (by rw [hw]; rfl))
      exact absurd ((H.matches_iff hq hz).2 hqz) (List.find?_eq_none.1 hf q hq)

/-- Indexing a hash that holds the last writes with an integer key gives the last value written
under the key, or `null`. -/
theorem index (H : HoldsLastWrites kvs ps) (h : Heap) (i : Nat) {K : Value} {z : Int}
    (hz : K.intKey? = some z) :
  Eval.index h (.hash i ps) K = .ok (((lastWrite kvs z).map (·.2)).getD Value.nullVal)
  := by
  obtain ⟨o, hko⟩ := Value.hashKey_of_intKey? hz
  have hfind := H.find (show (⟨.int z, o⟩ : HashKey).number = .int z from rfl)
  rw [← hfind, Option.map_map]
  simp [Eval.index, Value.typeName, Value.isHashable_of_intKey? hz, hko, pairValue?_eq_find,
    bind, Except.bind, pure, Except.pure]
  rfl

end HoldsLastWrites

/-! ## Evaluating a hash literal -/

/-- The pairs of a hash literal run in order from `m` to `m'`, each key before its value,
giving the key values and values `kvs`. -/
inductive PairsEval (ev : Option Expr → Run Value) :
    List (Option Expr × Option Expr) → Machine → List (Value × Value) → Machine → Prop
  | nil (m : Machine) : PairsEval ev [] m [] m
  | cons {kn vn : Option Expr} {rest : List (Option Expr × Option Expr)} {m m₁ m₂ m' : Machine}
      {k v : Value} {kvs : List (Value × Value)} :
      (ev kn).run m = .ok k m₁ → (ev vn).run m₁ = .ok v m₂ → PairsEval ev rest m₂ kvs m' →
      PairsEval ev ((kn, vn) :: rest) m ((k, v) :: kvs) m'

/-- Pairs whose keys have integer keys and whose values are not errors are stored one after
another, each write winning over those before it. -/
theorem hashPairs_holds {ev : Option Expr → Run Value} {pairs : List (Option Expr × Option Expr)}
    {m m' : Machine} {kvs : List (Value × Value)} (hrun : PairsEval ev pairs m kvs m')
    (hkeys : ∀ kv ∈ kvs, kv.1.intKey?.isSome) (hvals : ∀ kv ∈ kvs, kv.2.isError = false)
    {pre : List (Value × Value)} {acc : List (HashKey × Value × Value)}
    (H : HoldsLastWrites pre acc) :
  ∃ acc', HoldsLastWrites (pre ++ kvs) acc' ∧
    (Eval.hashPairs ev pairs acc).run m = (Eval.hashPairs ev [] acc').run m'
  := by
  induction hrun generalizing pre acc with
  | nil m => exact ⟨acc, by simpa using H, rfl⟩
  | @cons kn vn rest m m₁ m₂ m' k v kvs hk hv _ ih =>
    obtain ⟨z, hz⟩ := Option.isSome_iff_exists.1 (hkeys (k, v) List.mem_cons_self)
    obtain ⟨o, hko⟩ := Value.hashKey_of_intKey? hz
    obtain ⟨acc', hacc', hrest⟩ := ih (fun kv h => hkeys kv (List.mem_cons_of_mem _ h))
      (fun kv h => hvals kv (List.mem_cons_of_mem _ h)) (H.store (v := v) hko rfl)
    refine ⟨acc', by simpa using hacc', ?_⟩
    rw [Eval.hashPairs.eq_2, Eval.guard_ok hk (Value.isError_of_intKey? hz)]
    simp only [Value.isHashable_of_intKey? hz, Bool.not_true, Bool.false_eq_true, if_false]
    rw [Eval.guard_ok hv (hvals (k, v) List.mem_cons_self), EStateM.run_bind]
    simp only [hko]
    exact hrest

/-- A hash literal whose keys evaluate to integers, Booleans and ASCII strings and whose values
evaluate to values that are not errors holds the last write to each key, in the order the keys
are first written; indexing it with a key gives the last value written under the key, or
`null`. -/
theorem hash_literal_last_write_wins {fuel : Nat} {fr : Frame} {t : Token}
    {pairs : List (Option Expr × Option Expr)} {m m' : Machine} {kvs : List (Value × Value)}
    (hrun : PairsEval (Eval.expr fuel fr) pairs m kvs m')
    (hkeys : ∀ kv ∈ kvs, kv.1.intKey?.isSome) (hvals : ∀ kv ∈ kvs, kv.2.isError = false) :
  ∃ i m'' ps, Run.fresh.run m' = .ok i m'' ∧
    (Eval.expr (fuel + 1) fr (some (.hash t pairs))).run m = .ok (.hash i ps) m'' ∧
    HoldsLastWrites kvs ps ∧
    ∀ (h : Heap) (K : Value) (z : Int), K.intKey? = some z →
      Eval.index h (.hash i ps) K = .ok (((lastWrite kvs z).map (·.2)).getD Value.nullVal)
  := by
  obtain ⟨ps, hps, hrest⟩ := hashPairs_holds hrun hkeys hvals HoldsLastWrites.nil
  rw [List.nil_append] at hps
  refine ⟨m'.heap.fresh.1, { m' with heap := m'.heap.fresh.2 }, ps, rfl, ?_, hps,
    fun h K z hz => hps.index h _ hz⟩
  rw [Eval.expr, hrest]
  rfl

/-- The literal `{1: "a", true: "b", 2: false}`, whose keys `1` and `true` share a key. -/
theorem one_and_true_share_a_key :
  let pairs : List (Option Expr × Option Expr) :=
    [(some (.number ⟨.int, "1"⟩ (.int 1)), some (.string ⟨.string, "a"⟩ "a")),
      (some (.boolean ⟨.trueKw, "true"⟩ true), some (.string ⟨.string, "b"⟩ "b")),
      (some (.number ⟨.int, "2"⟩ (.int 2)), some (.boolean ⟨.falseKw, "false"⟩ false))]
  let kvs : List (Value × Value) :=
    [(.num (.int 1) 0, .str "a"), (Value.trueVal, .str "b"), (.num (.int 2) 0, Value.falseVal)]
  PairsEval (Eval.expr 1 ⟨[], false⟩) pairs {} kvs {} ∧
    (∀ kv ∈ kvs, kv.1.intKey?.isSome) ∧ (∀ kv ∈ kvs, kv.2.isError = false) ∧
    ∃ i m'' ps, Run.fresh.run {} = .ok i m'' ∧
      (Eval.expr 2 ⟨[], false⟩ (some (.hash ⟨.lbrace, "\x7b"⟩ pairs))).run {} =
        .ok (.hash i ps) m'' ∧
      HoldsLastWrites kvs ps ∧
      ∀ (h : Heap) (K : Value) (z : Int), K.intKey? = some z →
        Eval.index h (.hash i ps) K = .ok (((lastWrite kvs z).map (·.2)).getD Value.nullVal)
  := by
  intro pairs kvs
  have hrun : PairsEval (Eval.expr 1 ⟨[], false⟩) pairs {} kvs {} :=
    .cons rfl rfl (.cons rfl rfl (.cons rfl rfl (.nil _)))
  have hkeys : ∀ kv ∈ kvs, kv.1.intKey?.isSome := by decide
  have hvals : ∀ kv ∈ kvs, kv.2.isError = false := by decide
  exact ⟨hrun, hkeys, hvals, hash_literal_last_write_wins hrun hkeys hvals⟩

end Monkey
