import Monkey.Session

/-!
# Errors stop evaluation

An error value is what a construct gives as soon as one of its parts gives it, and in the state
that part left: the parts after it do not run. The parts run in a fixed order (the right operand
of an infix operator before the left one, the callee of a call before its arguments, the key of
a pair before its value), and the statements that the error states hold after the parts before
have run and given values that are not errors. Sequences of parts (the elements of an array,
the arguments of a call, the pairs of a hash, the statements of a block or of a program) and the
rounds of a loop are described by relations that say how each earlier part ran
(`Run.Each`, `Eval.PairsGo`, `Run.Rounds`); `Eval.ErrorsStop` collects the statement for every
construct.

The class literal is the exception: it runs the `let` statements of its body for the fields
they bind and keeps none of their values, so it gives a class whatever they give, errors
included (`Eval.classDef_ignores_values`).
-/

namespace Monkey

/-! ### Runs of sequences and loops -/

namespace Run

/-- `act` run on the items of a list in order, from machine `m`, gives the values `vs` and
ends in `m'`. -/
inductive Each {α : Type} (act : α → Run Value) : List α → Machine → List Value → Machine → Prop
  | nil (m : Machine) : Each act [] m [] m
  | cons {a : α} {l : List α} {m m₁ m' : Machine} {v : Value} {vs : List Value} :
      (act a).run m = .ok v m₁ → Each act l m₁ vs m' → Each act (a :: l) m (v :: vs) m'

/-- `k` rounds of a loop, each of which goes on, lead from the loop state `s` in machine `m` to
the loop state `s'` in `m'`. -/
inductive Rounds {σ α : Type} (round : σ → Run (Round σ α)) : Nat → σ → Machine → σ → Machine → Prop
  | zero (s : σ) (m : Machine) : Rounds round 0 s m s m
  | next {k : Nat} {s s₁ s' : σ} {m m₁ m' : Machine} :
      (round s).run m = .ok (.next s₁) m₁ → Rounds round k s₁ m₁ s' m' →
        Rounds round (k + 1) s m s' m'

variable {α : Type} {act : α → Run Value}

/-- Values collected with none of them an error are collected in full. -/
theorem values_each {l : List α} {m m' : Machine} {vs : List Value} (he : Each act l m vs m')
    (hvs : ∀ v ∈ vs, v.isError = false) :
  (values act l).run m = .ok (.ok vs) m'
  := by
  induction he with
  | nil m => rfl
  | @cons a l m m₁ m' v vs ha _ ih =>
    have hv : v.isError = false := hvs v List.mem_cons_self
    have hrest := ih fun w hw => hvs w (List.mem_cons_of_mem _ hw)
    rw [values, EStateM.run_bind, ha]
    simp only [hv, Bool.false_eq_true, if_false]
    rw [EStateM.run_bind, hrest]
    rfl

/-- The first error among the values stops their collection and is the result. -/
theorem values_error {pre rest : List α} {a : α} {m m₁ m₂ : Machine} {vs : List Value}
    {msg : String} (he : Each act pre m vs m₁) (hvs : ∀ v ∈ vs, v.isError = false)
    (ha : (act a).run m₁ = .ok (.error msg) m₂) :
  (values act (pre ++ a :: rest)).run m = .ok (.error (.error msg)) m₂
  := by
  induction he with
  | nil m =>
    rw [List.nil_append, values, EStateM.run_bind, ha]
    rfl
  | @cons b l m m' m₁ v vs hb _ ih =>
    have hv : v.isError = false := hvs v List.mem_cons_self
    have hrest := ih (fun w hw => hvs w (List.mem_cons_of_mem _ hw)) ha
    rw [List.cons_append, values, EStateM.run_bind, hb]
    simp only [hv, Bool.false_eq_true, if_false]
    rw [EStateM.run_bind, hrest]
    rfl

/-- A sequence ends at the first value that ends it, in the state its action left. -/
theorem seq_ends {ends : Value → Bool} {pre rest : List α} {a : α} {m m₁ m₂ : Machine}
    {vs : List Value} {v last : Value} (he : Each act pre m vs m₁)
    (hvs : ∀ w ∈ vs, ends w = false) (ha : (act a).run m₁ = .ok v m₂) (hv : ends v = true) :
  (seq act ends (pre ++ a :: rest) last).run m = .ok v m₂
  := by
  induction he generalizing last with
  | nil m =>
    rw [List.nil_append, seq, EStateM.run_bind, ha]
    simp only [hv, if_true]
    rfl
  | @cons b l m m' m₁ w vs hb _ ih =>
    have hw : ends w = false := hvs w List.mem_cons_self
    rw [List.cons_append, seq, EStateM.run_bind, hb]
    simp only [hw, Bool.false_eq_true, if_false]
    exact ih (fun u hu => hvs u (List.mem_cons_of_mem _ hu)) ha

/-- A loop whose rounds go on `k` times, within its bound, and then end, gives what the last
round gives. -/
theorem loopFor_rounds {σ : Type} {round : σ → Run (Round σ Value)} {k n : Nat} {s s' : σ}
    {m m₁ m₂ : Machine} {a : Value} (hr : Rounds round k s m s' m₁) (hk : k < n)
    (hdone : (round s').run m₁ = .ok (.done a) m₂) :
  (loopFor n round s).run m = .ok a m₂
  := by
  induction hr generalizing n with
  | zero s m =>
    obtain ⟨n, rfl⟩ : ∃ n', n = n' + 1 := ⟨n - 1, by omega⟩
    rw [loopFor, EStateM.run_bind, hdone]
    rfl
  | @next k s s₁ s' m m' m₁ hs _ ih =>
    obtain ⟨n, rfl⟩ : ∃ n', n = n' + 1 := ⟨n - 1, by omega⟩
    rw [loopFor, EStateM.run_bind, hs]
    exact ih (by omega) hdone

end Run

/-- Whether a statement's value ends a program: a value being returned, the exit signal or an
error. -/
def Value.endsProgram : Value → Bool
  | .returned .. | .exitSig _ | .error _ => true
  | _ => false

/-- Whether a statement is a `let` statement. -/
def Stmt.isLet : Stmt → Bool
  | .letStmt .. => true
  | _ => false

/-! ### The rounds of loops and the parts of calls -/

namespace Eval

/-- A round of a `while` loop: the condition, then the body while the condition holds. -/
def whileRound (fuel : Nat) (fr fr' : Frame) (cond : Option Expr) (body : Block) (result : Value) :
    Run (Round Value Value) := do
  let c ← expr fuel fr cond
  if c.isError then return .done c
  if !c.isTruthy then return .done result
  let r ← block fuel fr' body
  match r with
  | .breakSig _ => pure (.done Value.nullVal)
  | .error _ | .exitSig _ | .returned .. => pure (.done r)
  | .continueSig _ => pure (.next Value.nullVal)
  | _ => pure (.next r)

/-- A `while` loop makes a scope for its body and repeats `whileRound`. -/
theorem expr_whileLoop (fuel : Nat) (fr : Frame) (t : Token) (cond : Option Expr) (body : Block) :
  expr (fuel + 1) fr (some (.whileLoop t cond body)) = (do
    let inner ← Run.newScope []
    Run.loop (whileRound fuel fr ⟨inner :: fr.chain, true⟩ cond body) Value.nullVal)
  := by
  rw [expr]
  rfl

/-- A round of a `for` loop: the condition, then the body and the update while the condition
holds. -/
def forRound (fuel : Nat) (fr' : Frame) (cond step : Option Stmt) (body : Block) (result : Value) :
    Run (Round Value Value) := do
  let c ← optionally (stmt fuel fr') cond Value.trueVal
  if c.isError then return .done c
  if !c.isTruthy then return .done result
  let r ← block fuel fr' body
  match r with
  | .breakSig _ => return .done Value.nullVal
  | .error _ | .exitSig _ | .returned .. => return .done r
  | _ => pure ()
  let u ← optionally (stmt fuel fr') step .void
  if u.isError then return .done u
  match r with
  | .continueSig _ => pure (.next Value.nullVal)
  | _ => pure (.next r)

/-- A `for` loop makes a scope for its statements, runs its initial statement and repeats
`forRound`. -/
theorem expr_forLoop (fuel : Nat) (fr : Frame) (t : Token) (init cond step : Option Stmt)
    (body : Block) :
  expr (fuel + 1) fr (some (.forLoop t init cond step body)) = (do
    let inner ← Run.newScope []
    let fr' : Frame := ⟨inner :: fr.chain, true⟩
    let i ← optionally (stmt fuel fr') init .void
    if i.isError then return i
    Run.loop (forRound fuel fr' cond step body) Value.nullVal)
  := by
  rw [expr]
  rfl

/-- The scope a function's parameters are bound in, to the arguments of a call. -/
def paramScope (params : List Ident) (args : List Value) : Bindings :=
  (params.zip args).foldl (fun (b : Bindings) (p, a) => b.put p.name a) []

/-! ### A part that gives an error -/

variable {fuel : Nat} {fr : Frame} {t : Token} {m m₁ m₂ m₃ m₄ : Machine} {msg : String}

/-- A part that gives an error ends the construct, which gives that error. -/
theorem guard_error {y : Run Value} {k : Value → Run Value} (h : y.run m = .ok (.error msg) m₁) :
  (y >>= fun v => if v.isError = true then pure v else k v).run m = .ok (.error msg) m₁
  := by
  rw [EStateM.run_bind, h]
  rfl

/-- A part that gives a value that is not an error lets the construct go on. -/
theorem guard_ok {y : Run Value} {k : Value → Run Value} {v : Value} (h : y.run m = .ok v m₁)
    (hv : v.isError = false) :
  (y >>= fun v => if v.isError = true then pure v else k v).run m = (k v).run m₁
  := by
  rw [EStateM.run_bind, h]
  simp only [hv, Bool.false_eq_true, if_false]

theorem prefixOp_error {op : String} {right : Option Expr}
    (h : (expr fuel fr right).run m = .ok (.error msg) m₁) :
  (expr (fuel + 1) fr (some (.prefixOp t op right))).run m = .ok (.error msg) m₁
  := by
  rw [expr]
  exact guard_error h

theorem infixOp_right_error {left right : Option Expr} {op : String} (hop : op ≠ ".")
    (h : (expr fuel fr right).run m = .ok (.error msg) m₁) :
  (expr (fuel + 1) fr (some (.infixOp t left op right))).run m = .ok (.error msg) m₁
  := by
  rw [expr]
  simp only [beq_eq_false_iff_ne.2 hop, Bool.false_eq_true, if_false]
  exact guard_error h

theorem infixOp_left_error {left right : Option Expr} {op : String} {r : Value} (hop : op ≠ ".")
    (hr : (expr fuel fr right).run m = .ok r m₁) (hre : r.isError = false)
    (h : (expr fuel fr left).run m₁ = .ok (.error msg) m₂) :
  (expr (fuel + 1) fr (some (.infixOp t left op right))).run m = .ok (.error msg) m₂
  := by
  rw [expr]
  simp only [beq_eq_false_iff_ne.2 hop, Bool.false_eq_true, if_false]
  rw [guard_ok hr hre]
  exact guard_error h

theorem index_target_error {target key : Option Expr}
    (h : (expr fuel fr target).run m = .ok (.error msg) m₁) :
  (expr (fuel + 1) fr (some (.index t target key))).run m = .ok (.error msg) m₁
  := by
  rw [expr]
  exact guard_error h

theorem index_key_error {target key : Option Expr} {l : Value}
    (hl : (expr fuel fr target).run m = .ok l m₁) (hle : l.isError = false)
    (h : (expr fuel fr key).run m₁ = .ok (.error msg) m₂) :
  (expr (fuel + 1) fr (some (.index t target key))).run m = .ok (.error msg) m₂
  := by
  rw [expr, guard_ok hl hle]
  exact guard_error h

theorem array_error {pre rest : List (Option Expr)} {e : Option Expr} {vs : List Value}
    (he : Run.Each (expr fuel fr) pre m vs m₁) (hvs : ∀ v ∈ vs, v.isError = false)
    (h : (expr fuel fr e).run m₁ = .ok (.error msg) m₂) :
  (expr (fuel + 1) fr (some (.array t (some (pre ++ e :: rest))))).run m
    = .ok (.error msg) m₂
  := by
  rw [expr, EStateM.run_bind, Run.values_error he hvs h]
  rfl

theorem call_callee_error {callee : Option Expr} {args : Option (List (Option Expr))}
    (h : (expr fuel fr callee).run m = .ok (.error msg) m₁) :
  (expr (fuel + 1) fr (some (.call t callee args))).run m = .ok (.error msg) m₁
  := by
  rw [expr]
  exact guard_error h

theorem call_arg_error {callee : Option Expr} {pre rest : List (Option Expr)} {e : Option Expr}
    {f : Value} {vs : List Value} (hf : (expr fuel fr callee).run m = .ok f m₁)
    (hfe : f.isError = false) (hcls : ∀ i sc b, f ≠ .cls i sc b)
    (he : Run.Each (expr fuel fr) pre m₁ vs m₂) (hvs : ∀ v ∈ vs, v.isError = false)
    (h : (expr fuel fr e).run m₂ = .ok (.error msg) m₃) :
  (expr (fuel + 1) fr (some (.call t callee (some (pre ++ e :: rest))))).run m
    = .ok (.error msg) m₃
  := by
  rw [expr, guard_ok hf hfe]
  split
  · exact absurd rfl (hcls _ _ _)
  · rw [EStateM.run_bind, Run.values_error he hvs h]
    rfl

theorem call_apply_error {callee : Option Expr} {args : List (Option Expr)} {f : Value}
    {vs : List Value} (hf : (expr fuel fr callee).run m = .ok f m₁) (hfe : f.isError = false)
    (hcls : ∀ i sc b, f ≠ .cls i sc b) (he : Run.Each (expr fuel fr) args m₁ vs m₂)
    (hvs : ∀ v ∈ vs, v.isError = false)
    (h : (apply fuel fr.chain f vs).run m₂ = .ok (.error msg) m₃) :
  (expr (fuel + 1) fr (some (.call t callee (some args)))).run m = .ok (.error msg) m₃
  := by
  rw [expr, guard_ok hf hfe]
  split
  · exact absurd rfl (hcls _ _ _)
  · rw [EStateM.run_bind, Run.values_each he hvs]
    exact h

theorem apply_body_error {chain : List Nat} {id : Nat} {params : List Ident} {body : Block}
    {args : List Value} {sc : Nat} (hlen : params.length = args.length)
    (hsc : (Run.newScope (paramScope params args)).run m = .ok sc m₁)
    (h : (block fuel ⟨sc :: chain, false⟩ body).run m₁ = .ok (.error msg) m₂) :
  (apply (fuel + 1) chain (.function id (some params) body) args).run m
    = .ok (.error msg) m₂
  := by
  unfold paramScope at hsc
  rw [apply]
  simp only [hlen, bne_self_eq_false, Bool.false_eq_true, if_false]
  rw [EStateM.run_bind, hsc]
  dsimp only
  rw [EStateM.run_bind, h]
  rfl

/-- The pairs of a hash literal run in order from `m` to `m'`, each key giving a hashable value
and each value giving a value, none of them an error. -/
inductive PairsGo (ev : Option Expr → Run Value) :
    List (Option Expr × Option Expr) → Machine → Machine → Prop
  | nil (m : Machine) : PairsGo ev [] m m
  | cons {kn vn : Option Expr} {rest : List (Option Expr × Option Expr)} {m m₁ m₂ m' : Machine}
      {k v : Value} {key : HashKey} :
      (ev kn).run m = .ok k m₁ → k.isError = false → k.isHashable = true →
      (ev vn).run m₁ = .ok v m₂ → v.isError = false → k.hashKey = .ok key →
      PairsGo ev rest m₂ m' → PairsGo ev ((kn, vn) :: rest) m m'

/-- After pairs that go through, a hash literal goes on with the pairs that follow. -/
theorem hashPairs_go {ev : Option Expr → Run Value} {pre : List (Option Expr × Option Expr)}
    (hp : PairsGo ev pre m m₁) (l : List (Option Expr × Option Expr))
    (acc : List (HashKey × Value × Value)) :
  ∃ acc', (hashPairs ev (pre ++ l) acc).run m = (hashPairs ev l acc').run m₁
  := by
  induction hp generalizing acc with
  | nil m => exact ⟨acc, rfl⟩
  | @cons kn vn rest m m₁ m₂ m' k v key hk hke hkh hv hve hkey _ ih =>
    obtain ⟨acc', h⟩ := ih (storePair key k v acc)
    refine ⟨acc', ?_⟩
    rw [List.cons_append, hashPairs, guard_ok hk hke]
    simp only [hkh, Bool.not_true, Bool.false_eq_true, if_false]
    rw [guard_ok hv hve, EStateM.run_bind]
    simp only [hkey]
    exact h

theorem hash_key_error {pre rest : List (Option Expr × Option Expr)} {kn vn : Option Expr}
    (hp : PairsGo (expr fuel fr) pre m m₁) (h : (expr fuel fr kn).run m₁ = .ok (.error msg) m₂) :
  (expr (fuel + 1) fr (some (.hash t (pre ++ (kn, vn) :: rest)))).run m
    = .ok (.error msg) m₂
  := by
  rw [expr]
  obtain ⟨acc, hacc⟩ := hashPairs_go hp ((kn, vn) :: rest) []
  rw [hacc, hashPairs]
  exact guard_error h

theorem hash_value_error {pre rest : List (Option Expr × Option Expr)} {kn vn : Option Expr}
    {k : Value} (hp : PairsGo (expr fuel fr) pre m m₁) (hk : (expr fuel fr kn).run m₁ = .ok k m₂)
    (hke : k.isError = false) (hkh : k.isHashable = true)
    (h : (expr fuel fr vn).run m₂ = .ok (.error msg) m₃) :
  (expr (fuel + 1) fr (some (.hash t (pre ++ (kn, vn) :: rest)))).run m
    = .ok (.error msg) m₃
  := by
  rw [expr]
  obtain ⟨acc, hacc⟩ := hashPairs_go hp ((kn, vn) :: rest) []
  rw [hacc, hashPairs, guard_ok hk hke]
  simp only [hkh, Bool.not_true, Bool.false_eq_true, if_false]
  exact guard_error h

theorem ifElse_cond_error {cond : Option Expr} {yes : Block} {no : Option Block} {inner : Nat}
    (hs : (Run.newScope []).run m = .ok inner m₁)
    (h : (expr fuel fr cond).run m₁ = .ok (.error msg) m₂) :
  (expr (fuel + 1) fr (some (.ifElse t cond yes no))).run m = .ok (.error msg) m₂
  := by
  rw [expr, EStateM.run_bind, hs]
  exact guard_error h

/-- The branch an `if` takes gives the `if` its value, errors included. -/
theorem ifElse_branch_error {cond : Option Expr} {yes b : Block} {no : Option Block} {inner : Nat}
    {c : Value} (hs : (Run.newScope []).run m = .ok inner m₁)
    (hc : (expr fuel fr cond).run m₁ = .ok c m₂) (hce : c.isError = false)
    (hb : (if c.isTruthy then some yes else no) = some b)
    (h : (block fuel { fr with chain := inner :: fr.chain } b).run m₂ = .ok (.error msg) m₃) :
  (expr (fuel + 1) fr (some (.ifElse t cond yes no))).run m = .ok (.error msg) m₃
  := by
  rw [expr, EStateM.run_bind, hs]
  dsimp only
  rw [guard_ok hc hce]
  split
  · rename_i ht
    simp only [ht, if_true, Option.some.injEq] at hb
    rw [hb]
    exact h
  · rename_i ht
    simp only [ht, Bool.false_eq_true, if_false] at hb
    rw [hb]
    exact h

/-! ### The rounds of loops -/

theorem whileRound_cond_error {fr' : Frame} {cond : Option Expr} {body : Block} {result : Value}
    (h : (expr fuel fr cond).run m = .ok (.error msg) m₁) :
  (whileRound fuel fr fr' cond body result).run m = .ok (.done (.error msg)) m₁
  := by
  rw [whileRound, EStateM.run_bind, h]
  rfl

theorem whileRound_body_error {fr' : Frame} {cond : Option Expr} {body : Block} {result c : Value}
    (hc : (expr fuel fr cond).run m = .ok c m₁) (hce : c.isError = false)
    (ht : c.isTruthy = true) (h : (block fuel fr' body).run m₁ = .ok (.error msg) m₂) :
  (whileRound fuel fr fr' cond body result).run m = .ok (.done (.error msg)) m₂
  := by
  rw [whileRound, EStateM.run_bind, hc]
  simp only [hce, ht, Bool.not_true, Bool.false_eq_true, if_false]
  rw [EStateM.run_bind, h]
  rfl

theorem forRound_cond_error {fr' : Frame} {cond step : Option Stmt} {body : Block} {result : Value}
    (h : (optionally (stmt fuel fr') cond Value.trueVal).run m = .ok (.error msg) m₁) :
  (forRound fuel fr' cond step body result).run m = .ok (.done (.error msg)) m₁
  := by
  rw [forRound, EStateM.run_bind, h]
  rfl

theorem forRound_body_error {fr' : Frame} {cond step : Option Stmt} {body : Block}
    {result c : Value}
    (hc : (optionally (stmt fuel fr') cond Value.trueVal).run m = .ok c m₁)
    (hce : c.isError = false) (ht : c.isTruthy = true)
    (h : (block fuel fr' body).run m₁ = .ok (.error msg) m₂) :
  (forRound fuel fr' cond step body result).run m = .ok (.done (.error msg)) m₂
  := by
  rw [forRound, EStateM.run_bind, hc]
  simp only [hce, ht, Bool.not_true, Bool.false_eq_true, if_false]
  rw [EStateM.run_bind, h]
  rfl

theorem forRound_step_error {fr' : Frame} {cond step : Option Stmt} {body : Block}
    {result c r : Value} (hc : (optionally (stmt fuel fr') cond Value.trueVal).run m = .ok c m₁)
    (hce : c.isError = false) (ht : c.isTruthy = true)
    (hr : (block fuel fr' body).run m₁ = .ok r m₂)
    (hre : r.endsBlock = false ∨ ∃ i, r = .continueSig i)
    (h : (optionally (stmt fuel fr') step .void).run m₂ = .ok (.error msg) m₃) :
  (forRound fuel fr' cond step body result).run m = .ok (.done (.error msg)) m₃
  := by
  rw [forRound, EStateM.run_bind, hc]
  simp only [hce, ht, Bool.not_true, Bool.false_eq_true, if_false]
  rw [EStateM.run_bind, hr]
  dsimp only
  split
  iterate 4 · obtain hre | ⟨_, hre⟩ := hre <;> cases hre
  · rw [EStateM.run_bind, h]
    rfl

/-- A `while` loop whose rounds went on `k` times, within the bound on rounds, ends with what
its next round ends with. -/
theorem whileLoop_done {cond : Option Expr} {body : Block} {inner k : Nat} {s a : Value}
    (hs : (Run.newScope []).run m = .ok inner m₁)
    (hr : Run.Rounds (whileRound fuel fr ⟨inner :: fr.chain, true⟩ cond body) k Value.nullVal
      m₁ s m₂)
    (hk : k < Run.roundBound)
    (hdone : (whileRound fuel fr ⟨inner :: fr.chain, true⟩ cond body s).run m₂ = .ok (.done a) m₃) :
  (expr (fuel + 1) fr (some (.whileLoop t cond body))).run m = .ok a m₃
  := by
  rw [expr_whileLoop, EStateM.run_bind, hs]
  exact Run.loopFor_rounds hr hk hdone

/-- A `for` loop whose initial statement went through and whose rounds went on `k` times,
within the bound on rounds, ends with what its next round ends with. -/
theorem forLoop_done {init cond step : Option Stmt} {body : Block} {inner k : Nat} {i s a : Value}
    (hs : (Run.newScope []).run m = .ok inner m₁)
    (hi : (optionally (stmt fuel ⟨inner :: fr.chain, true⟩) init .void).run m₁ = .ok i m₂)
    (hie : i.isError = false)
    (hr : Run.Rounds (forRound fuel ⟨inner :: fr.chain, true⟩ cond step body) k Value.nullVal
      m₂ s m₃)
    (hk : k < Run.roundBound)
    (hdone : (forRound fuel ⟨inner :: fr.chain, true⟩ cond step body s).run m₃ = .ok (.done a) m₄) :
  (expr (fuel + 1) fr (some (.forLoop t init cond step body))).run m = .ok a m₄
  := by
  rw [expr_forLoop, EStateM.run_bind, hs]
  dsimp only
  rw [guard_ok hi hie]
  exact Run.loopFor_rounds hr hk hdone

theorem forLoop_init_error {init cond step : Option Stmt} {body : Block} {inner : Nat}
    (hs : (Run.newScope []).run m = .ok inner m₁)
    (h : (optionally (stmt fuel ⟨inner :: fr.chain, true⟩) init .void).run m₁
      = .ok (.error msg) m₂) :
  (expr (fuel + 1) fr (some (.forLoop t init cond step body))).run m = .ok (.error msg) m₂
  := by
  rw [expr_forLoop, EStateM.run_bind, hs]
  exact guard_error h

/-! ### Statements, blocks and programs -/

theorem letStmt_error {x : Ident} {value : Option Expr} {field : Option Ident}
    (h : (expr fuel fr value).run m = .ok (.error msg) m₁) :
  (stmt (fuel + 1) fr (.letStmt t x value field)).run m = .ok (.error msg) m₁
  := by
  rw [stmt]
  exact guard_error h

theorem assign_error {x : Ident} {value : Option Expr}
    (h : (expr fuel fr value).run m = .ok (.error msg) m₁) :
  (stmt (fuel + 1) fr (.assign t x value)).run m = .ok (.error msg) m₁
  := by
  rw [stmt]
  exact guard_error h

theorem returnStmt_error {e : Expr} (h : (expr fuel fr (some e)).run m = .ok (.error msg) m₁) :
  (stmt (fuel + 1) fr (.returnStmt t (some e))).run m = .ok (.error msg) m₁
  := by
  rw [stmt]
  exact guard_error h

theorem block_error {pre rest : List Stmt} {s : Stmt} {vs : List Value}
    (he : Run.Each (stmt fuel fr) pre m vs m₁) (hvs : ∀ v ∈ vs, v.endsBlock = false)
    (h : (stmt fuel fr s).run m₁ = .ok (.error msg) m₂) :
  (block (fuel + 1) fr (.mk t (pre ++ s :: rest))).run m = .ok (.error msg) m₂
  := by
  rw [block]
  exact Run.seq_ends he hvs h rfl

/-- The statements of a program stop at the first error, which is their value. -/
theorem statements_error {run : Stmt → Run Value} {pre rest : List Stmt} {s : Stmt}
    {vs : List Value} (he : Run.Each run pre m vs m₁) (hvs : ∀ v ∈ vs, v.endsProgram = false)
    (h : (run s).run m₁ = .ok (.error msg) m₂) (last : Value) :
  (statements run (pre ++ s :: rest) last).run m = .ok (.error msg) m₂
  := by
  induction he generalizing last with
  | nil m =>
    rw [List.nil_append, statements, EStateM.run_bind, h]
    rfl
  | @cons b l m m' m₁ v vs hb _ ih =>
    have hv : v.endsProgram = false := hvs v List.mem_cons_self
    rw [List.cons_append, statements, EStateM.run_bind, hb]
    dsimp only
    split
    iterate 3 · cases hv
    · exact ih (fun w hw => hvs w (List.mem_cons_of_mem _ hw)) h _

theorem program_error {pre rest : List Stmt} {s : Stmt} {vs : List Value}
    (he : Run.Each (stmt depth fr) pre m vs m₁) (hvs : ∀ v ∈ vs, v.endsProgram = false)
    (h : (stmt depth fr s).run m₁ = .ok (.error msg) m₂) :
  (Program.eval ⟨pre ++ s :: rest⟩ fr).run m = .ok (.error msg) m₂
  := statements_error he hvs h _

/-! ### Methods -/

/-- The heap read at the start of a run. -/
theorem run_heap (m : Machine) :
  Run.heap.run m = .ok m.heap m
  := rfl

/-- A method call `x.g(args)` on an instance runs the callee `g` in the instance's scope. -/
theorem method_callee_error {x : Ident} {t' : Token} {callee : Option Expr}
    {args : Option (List (Option Expr))} {i sc : Nat}
    (hx : m.heap.lookup x.name fr.chain = some (.inst i sc))
    (h : (expr fuel ⟨[sc], false⟩ callee).run m = .ok (.error msg) m₁) :
  (expr (fuel + 2) fr (some (.infixOp t (some (.ident x)) "."
    (some (.call t' callee args))))).run m
    = .ok (.error msg) m₁
  := by
  rw [expr]
  simp only [beq_self_eq_true, if_true]
  rw [dot, EStateM.run_bind, run_heap]
  dsimp only
  rw [hx]
  exact guard_error h

/-- The arguments of a method call run in the caller's frame, after the callee. -/
theorem method_arg_error {x : Ident} {t' : Token} {callee : Option Expr}
    {pre rest : List (Option Expr)} {e : Option Expr} {i sc : Nat} {f : Value} {vs : List Value}
    (hx : m.heap.lookup x.name fr.chain = some (.inst i sc))
    (hf : (expr fuel ⟨[sc], false⟩ callee).run m = .ok f m₁) (hfe : f.isError = false)
    (hcls : ∀ i sc b, f ≠ .cls i sc b) (he : Run.Each (expr fuel fr) pre m₁ vs m₂)
    (hvs : ∀ v ∈ vs, v.isError = false) (h : (expr fuel fr e).run m₂ = .ok (.error msg) m₃) :
  (expr (fuel + 2) fr (some (.infixOp t (some (.ident x)) "."
    (some (.call t' callee (some (pre ++ e :: rest))))))).run m = .ok (.error msg) m₃
  := by
  rw [expr]
  simp only [beq_self_eq_true, if_true]
  rw [dot, EStateM.run_bind, run_heap]
  dsimp only
  rw [hx]
  dsimp only
  rw [guard_ok hf hfe]
  split
  · exact absurd rfl (hcls _ _ _)
  · rw [EStateM.run_bind, Run.values_error he hvs h]
    rfl

/-- A method is applied in front of the instance's scope. -/
theorem method_apply_error {x : Ident} {t' : Token} {callee : Option Expr}
    {args : List (Option Expr)} {i sc : Nat} {f : Value} {vs : List Value}
    (hx : m.heap.lookup x.name fr.chain = some (.inst i sc))
    (hf : (expr fuel ⟨[sc], false⟩ callee).run m = .ok f m₁) (hfe : f.isError = false)
    (hcls : ∀ i sc b, f ≠ .cls i sc b) (he : Run.Each (expr fuel fr) args m₁ vs m₂)
    (hvs : ∀ v ∈ vs, v.isError = false) (h : (apply fuel [sc] f vs).run m₂ = .ok (.error msg) m₃) :
  (expr (fuel + 2) fr (some (.infixOp t (some (.ident x)) "."
    (some (.call t' callee (some args)))))).run m = .ok (.error msg) m₃
  := by
  rw [expr]
  simp only [beq_self_eq_true, if_true]
  rw [dot, EStateM.run_bind, run_heap]
  dsimp only
  rw [hx]
  dsimp only
  rw [guard_ok hf hfe]
  split
  · exact absurd rfl (hcls _ _ _)
  · rw [EStateM.run_bind, Run.values_each he hvs]
    exact h

/-! ### Class literals -/

/-- The statements of a class body that are all `let` statements run to the end, whatever
values they give. -/
theorem fields_each {run : Stmt → Run Value} {l : List Stmt} {vs : List Value}
    (he : Run.Each run l m vs m₁) (hlet : ∀ s ∈ l, s.isLet = true) :
  (fields run l).run m = .ok true m₁
  := by
  induction he with
  | nil m => rfl
  | @cons s l m m' m₁ v vs hs _ ih =>
    have hrest := ih fun u hu => hlet u (List.mem_cons_of_mem _ hu)
    cases s with
    | letStmt t x value field =>
      rw [fields, EStateM.run_bind, hs]
      exact hrest
    | _ => cases hlet _ List.mem_cons_self

/-- A class literal whose body is made of `let` statements gives a class, whatever values its
statements give, errors included. -/
theorem classDef_ignores_values {body : Block} {sc : Nat} {vs : List Value}
    (hs : (Run.newScope []).run m = .ok sc m₁)
    (he : Run.Each (stmt fuel ⟨[sc], false⟩) body.stmts m₁ vs m₂)
    (hlet : ∀ s ∈ body.stmts, s.isLet = true) :
  ∃ id m₃, (expr (fuel + 1) fr (some (.classDef t body))).run m = .ok (.cls id sc body) m₃
  := by
  rw [expr, EStateM.run_bind, hs]
  dsimp only
  rw [EStateM.run_bind, fields_each he hlet]
  exact ⟨_, _, rfl⟩

/-! ### Every construct -/

/-- How an error stops evaluation, construct by construct, for the constructs evaluated with
`fuel + 1` in the frame `fr` (and for functions applied with `fuel + 1`): when a part gives an
error, after the parts before it gave values that are not errors, the construct gives that error
in the state the part left. For loops, the error may come in any round within the bound on
rounds. -/
structure ErrorsStop (fuel : Nat) (fr : Frame) : Prop where
  /-- `op right` -/
  prefixOp : ∀ {t op right m m₁ msg}, (expr fuel fr right).run m = .ok (.error msg) m₁ →
    (expr (fuel + 1) fr (some (.prefixOp t op right))).run m = .ok (.error msg) m₁
  /-- `left op right`: the right operand runs first -/
  infixRight : ∀ {t left op right m m₁ msg}, op ≠ "." →
    (expr fuel fr right).run m = .ok (.error msg) m₁ →
    (expr (fuel + 1) fr (some (.infixOp t left op right))).run m = .ok (.error msg) m₁
  /-- `left op right`: the left operand runs second -/
  infixLeft : ∀ {t left op right m m₁ m₂ msg r}, op ≠ "." →
    (expr fuel fr right).run m = .ok r m₁ → r.isError = false →
    (expr fuel fr left).run m₁ = .ok (.error msg) m₂ →
    (expr (fuel + 1) fr (some (.infixOp t left op right))).run m = .ok (.error msg) m₂
  /-- `target[key]`: the target -/
  indexTarget : ∀ {t target key m m₁ msg},
    (expr fuel fr target).run m = .ok (.error msg) m₁ →
    (expr (fuel + 1) fr (some (.index t target key))).run m = .ok (.error msg) m₁
  /-- `target[key]`: the key, after the target -/
  indexKey : ∀ {t target key m m₁ m₂ msg l},
    (expr fuel fr target).run m = .ok l m₁ → l.isError = false →
    (expr fuel fr key).run m₁ = .ok (.error msg) m₂ →
    (expr (fuel + 1) fr (some (.index t target key))).run m = .ok (.error msg) m₂
  /-- `[elems]`: an element, after the ones before it -/
  array : ∀ {t pre e rest m m₁ m₂ msg vs}, Run.Each (expr fuel fr) pre m vs m₁ →
    (∀ v ∈ vs, v.isError = false) → (expr fuel fr e).run m₁ = .ok (.error msg) m₂ →
    (expr (fuel + 1) fr (some (.array t (some (pre ++ e :: rest))))).run m = .ok (.error msg) m₂
  /-- `{k: v, …}`: a key, after the pairs before it -/
  hashKey : ∀ {t pre kn vn rest m m₁ m₂ msg}, PairsGo (expr fuel fr) pre m m₁ →
    (expr fuel fr kn).run m₁ = .ok (.error msg) m₂ →
    (expr (fuel + 1) fr (some (.hash t (pre ++ (kn, vn) :: rest)))).run m = .ok (.error msg) m₂
  /-- `{k: v, …}`: a value, after its key -/
  hashValue : ∀ {t pre kn vn rest m m₁ m₂ m₃ msg k}, PairsGo (expr fuel fr) pre m m₁ →
    (expr fuel fr kn).run m₁ = .ok k m₂ → k.isError = false → k.isHashable = true →
    (expr fuel fr vn).run m₂ = .ok (.error msg) m₃ →
    (expr (fuel + 1) fr (some (.hash t (pre ++ (kn, vn) :: rest)))).run m = .ok (.error msg) m₃
  /-- `f(args)`: the callee -/
  callCallee : ∀ {t callee args m m₁ msg},
    (expr fuel fr callee).run m = .ok (.error msg) m₁ →
    (expr (fuel + 1) fr (some (.call t callee args))).run m = .ok (.error msg) m₁
  /-- `f(args)`: an argument, after the callee, which is no class, and the arguments before it -/
  callArg : ∀ {t callee pre e rest m m₁ m₂ m₃ msg f vs},
    (expr fuel fr callee).run m = .ok f m₁ → f.isError = false → (∀ i sc b, f ≠ .cls i sc b) →
    Run.Each (expr fuel fr) pre m₁ vs m₂ → (∀ v ∈ vs, v.isError = false) →
    (expr fuel fr e).run m₂ = .ok (.error msg) m₃ →
    (expr (fuel + 1) fr (some (.call t callee (some (pre ++ e :: rest))))).run m
      = .ok (.error msg) m₃
  /-- `f(args)`: the application, after the callee and the arguments -/
  callApply : ∀ {t callee args m m₁ m₂ m₃ msg f vs},
    (expr fuel fr callee).run m = .ok f m₁ → f.isError = false → (∀ i sc b, f ≠ .cls i sc b) →
    Run.Each (expr fuel fr) args m₁ vs m₂ → (∀ v ∈ vs, v.isError = false) →
    (apply fuel fr.chain f vs).run m₂ = .ok (.error msg) m₃ →
    (expr (fuel + 1) fr (some (.call t callee (some args)))).run m = .ok (.error msg) m₃
  /-- the body of a function, in the scope of its parameters -/
  applyBody : ∀ {chain id params body args m m₁ m₂ msg sc},
    params.length = args.length → (Run.newScope (paramScope params args)).run m = .ok sc m₁ →
    (block fuel ⟨sc :: chain, false⟩ body).run m₁ = .ok (.error msg) m₂ →
    (apply (fuel + 1) chain (.function id (some params) body) args).run m = .ok (.error msg) m₂
  /-- `x.g(args)` on an instance: the callee, in the instance's scope -/
  methodCallee : ∀ {t t' x callee args m m₁ msg i sc},
    m.heap.lookup x.name fr.chain = some (.inst i sc) →
    (expr fuel ⟨[sc], false⟩ callee).run m = .ok (.error msg) m₁ →
    (expr (fuel + 2) fr (some (.infixOp t (some (.ident x)) "."
      (some (.call t' callee args))))).run m
      = .ok (.error msg) m₁
  /-- `x.g(args)` on an instance: an argument, after the callee and the arguments before it -/
  methodArg : ∀ {t t' x callee pre e rest m m₁ m₂ m₃ msg i sc f vs},
    m.heap.lookup x.name fr.chain = some (.inst i sc) →
    (expr fuel ⟨[sc], false⟩ callee).run m = .ok f m₁ → f.isError = false →
    (∀ i sc b, f ≠ .cls i sc b) → Run.Each (expr fuel fr) pre m₁ vs m₂ →
    (∀ v ∈ vs, v.isError = false) → (expr fuel fr e).run m₂ = .ok (.error msg) m₃ →
    (expr (fuel + 2) fr (some (.infixOp t (some (.ident x)) "."
      (some (.call t' callee (some (pre ++ e :: rest))))))).run m = .ok (.error msg) m₃
  /-- `x.g(args)` on an instance: the application, in front of the instance's scope -/
  methodApply : ∀ {t t' x callee args m m₁ m₂ m₃ msg i sc f vs},
    m.heap.lookup x.name fr.chain = some (.inst i sc) →
    (expr fuel ⟨[sc], false⟩ callee).run m = .ok f m₁ → f.isError = false →
    (∀ i sc b, f ≠ .cls i sc b) → Run.Each (expr fuel fr) args m₁ vs m₂ →
    (∀ v ∈ vs, v.isError = false) → (apply fuel [sc] f vs).run m₂ = .ok (.error msg) m₃ →
    (expr (fuel + 2) fr (some (.infixOp t (some (.ident x)) "."
      (some (.call t' callee (some args)))))).run m = .ok (.error msg) m₃
  /-- `if (cond) …`: the condition, in the frame of the `if` -/
  ifCond : ∀ {t cond yes no m m₁ m₂ msg inner},
    (Run.newScope []).run m = .ok inner m₁ → (expr fuel fr cond).run m₁ = .ok (.error msg) m₂ →
    (expr (fuel + 1) fr (some (.ifElse t cond yes no))).run m = .ok (.error msg) m₂
  /-- `if (cond) …`: the branch taken, in a new scope -/
  ifBranch : ∀ {t cond yes no b m m₁ m₂ m₃ msg inner c},
    (Run.newScope []).run m = .ok inner m₁ → (expr fuel fr cond).run m₁ = .ok c m₂ →
    c.isError = false → (if c.isTruthy then some yes else no) = some b →
    (block fuel { fr with chain := inner :: fr.chain } b).run m₂ = .ok (.error msg) m₃ →
    (expr (fuel + 1) fr (some (.ifElse t cond yes no))).run m = .ok (.error msg) m₃
  /-- `while (cond) …`: the condition, in any round -/
  whileCond : ∀ {t cond body m m₁ m₂ m₃ msg inner k s},
    (Run.newScope []).run m = .ok inner m₁ →
    Run.Rounds (whileRound fuel fr ⟨inner :: fr.chain, true⟩ cond body) k Value.nullVal m₁ s m₂ →
    k < Run.roundBound → (expr fuel fr cond).run m₂ = .ok (.error msg) m₃ →
    (expr (fuel + 1) fr (some (.whileLoop t cond body))).run m = .ok (.error msg) m₃
  /-- `while (cond) …`: the body, in any round where the condition holds -/
  whileBody : ∀ {t cond body m m₁ m₂ m₃ m₄ msg inner k s c},
    (Run.newScope []).run m = .ok inner m₁ →
    Run.Rounds (whileRound fuel fr ⟨inner :: fr.chain, true⟩ cond body) k Value.nullVal m₁ s m₂ →
    k < Run.roundBound → (expr fuel fr cond).run m₂ = .ok c m₃ → c.isError = false →
    c.isTruthy = true →
    (block fuel ⟨inner :: fr.chain, true⟩ body).run m₃ = .ok (.error msg) m₄ →
    (expr (fuel + 1) fr (some (.whileLoop t cond body))).run m = .ok (.error msg) m₄
  /-- `for (init; cond; step) …`: the initial statement -/
  forInit : ∀ {t init cond step body m m₁ m₂ msg inner},
    (Run.newScope []).run m = .ok inner m₁ →
    (optionally (stmt fuel ⟨inner :: fr.chain, true⟩) init .void).run m₁ = .ok (.error msg) m₂ →
    (expr (fuel + 1) fr (some (.forLoop t init cond step body))).run m = .ok (.error msg) m₂
  /-- `for (init; cond; step) …`: the condition, in any round -/
  forCond : ∀ {t init cond step body m m₁ m₂ m₃ m₄ msg inner k i s},
    (Run.newScope []).run m = .ok inner m₁ →
    (optionally (stmt fuel ⟨inner :: fr.chain, true⟩) init .void).run m₁ = .ok i m₂ →
    i.isError = false →
    Run.Rounds (forRound fuel ⟨inner :: fr.chain, true⟩ cond step body) k Value.nullVal m₂ s m₃ →
    k < Run.roundBound →
    (optionally (stmt fuel ⟨inner :: fr.chain, true⟩) cond Value.trueVal).run m₃
      = .ok (.error msg) m₄ →
    (expr (fuel + 1) fr (some (.forLoop t init cond step body))).run m = .ok (.error msg) m₄
  /-- `for (init; cond; step) …`: the body, in any round where the condition holds -/
  forBody : ∀ {t init cond step body m m₁ m₂ m₃ m₄ m₅ msg inner k i s c},
    (Run.newScope []).run m = .ok inner m₁ →
    (optionally (stmt fuel ⟨inner :: fr.chain, true⟩) init .void).run m₁ = .ok i m₂ →
    i.isError = false →
    Run.Rounds (forRound fuel ⟨inner :: fr.chain, true⟩ cond step body) k Value.nullVal m₂ s m₃ →
    k < Run.roundBound →
    (optionally (stmt fuel ⟨inner :: fr.chain, true⟩) cond Value.trueVal).run m₃ = .ok c m₄ →
    c.isError = false → c.isTruthy = true →
    (block fuel ⟨inner :: fr.chain, true⟩ body).run m₄ = .ok (.error msg) m₅ →
    (expr (fuel + 1) fr (some (.forLoop t init cond step body))).run m = .ok (.error msg) m₅
  /-- `for (init; cond; step) …`: the update, after a body that goes on -/
  forStep : ∀ {t init cond step body m m₁ m₂ m₃ m₄ m₅ m₆ msg inner k i s c r},
    (Run.newScope []).run m = .ok inner m₁ →
    (optionally (stmt fuel ⟨inner :: fr.chain, true⟩) init .void).run m₁ = .ok i m₂ →
    i.isError = false →
    Run.Rounds (forRound fuel ⟨inner :: fr.chain, true⟩ cond step body) k Value.nullVal m₂ s m₃ →
    k < Run.roundBound →
    (optionally (stmt fuel ⟨inner :: fr.chain, true⟩) cond Value.trueVal).run m₃ = .ok c m₄ →
    c.isError = false → c.isTruthy = true →
    (block fuel ⟨inner :: fr.chain, true⟩ body).run m₄ = .ok r m₅ →
    (r.endsBlock = false ∨ ∃ i, r = .continueSig i) →
    (optionally (stmt fuel ⟨inner :: fr.chain, true⟩) step .void).run m₅ = .ok (.error msg) m₆ →
    (expr (fuel + 1) fr (some (.forLoop t init cond step body))).run m = .ok (.error msg) m₆
  /-- `let x = value;` and `let x.f = value;` -/
  letValue : ∀ {t x value field m m₁ msg},
    (expr fuel fr value).run m = .ok (.error msg) m₁ →
    (stmt (fuel + 1) fr (.letStmt t x value field)).run m = .ok (.error msg) m₁
  /-- `x = value;` -/
  assignValue : ∀ {t x value m m₁ msg},
    (expr fuel fr value).run m = .ok (.error msg) m₁ →
    (stmt (fuel + 1) fr (.assign t x value)).run m = .ok (.error msg) m₁
  /-- `return value;` -/
  returnValue : ∀ {t e m m₁ msg},
    (expr fuel fr (some e)).run m = .ok (.error msg) m₁ →
    (stmt (fuel + 1) fr (.returnStmt t (some e))).run m = .ok (.error msg) m₁
  /-- a block: a statement, after statements that do not end the block -/
  block : ∀ {t pre s rest m m₁ m₂ msg vs}, Run.Each (stmt fuel fr) pre m vs m₁ →
    (∀ v ∈ vs, v.endsBlock = false) → (stmt fuel fr s).run m₁ = .ok (.error msg) m₂ →
    (Eval.block (fuel + 1) fr (.mk t (pre ++ s :: rest))).run m = .ok (.error msg) m₂

/-- Errors stop evaluation at every construct. An error of a loop comes from one of its rounds,
which ends the loop. -/
theorem errorsStop (fuel : Nat) (fr : Frame) : ErrorsStop fuel fr where
  prefixOp := prefixOp_error
  infixRight := infixOp_right_error
  infixLeft := infixOp_left_error
  indexTarget := index_target_error
  indexKey := index_key_error
  array := array_error
  hashKey := hash_key_error
  hashValue := hash_value_error
  callCallee := call_callee_error
  callArg := call_arg_error
  callApply := call_apply_error
  applyBody := apply_body_error
  methodCallee := method_callee_error
  methodArg := method_arg_error
  methodApply := method_apply_error
  ifCond := ifElse_cond_error
  ifBranch := ifElse_branch_error
  whileCond hs hr hk h := whileLoop_done hs hr hk (whileRound_cond_error h)
  whileBody hs hr hk hc hce ht h := whileLoop_done hs hr hk (whileRound_body_error hc hce ht h)
  forInit := forLoop_init_error
  forCond hs hi hie hr hk h := forLoop_done hs hi hie hr hk (forRound_cond_error h)
  forBody hs hi hie hr hk hc hce ht h :=
    forLoop_done hs hi hie hr hk (forRound_body_error hc hce ht h)
  forStep hs hi hie hr hk hc hce ht hb hre h :=
    forLoop_done hs hi hie hr hk (forRound_step_error hc hce ht hb hre h)
  letValue := letStmt_error
  assignValue := assign_error
  returnValue := returnStmt_error
  block := block_error

end Eval

/-! ### Errors in programs -/

/-- Errors stop evaluation at every construct, and a program at the first statement that gives
one; the class literal is the exception, which runs the `let` statements of its body for their
fields and gives a class whatever values they give. -/
theorem errors_stop_evaluation (fuel : Nat) (fr : Frame) :
  Eval.ErrorsStop fuel fr ∧
    (∀ pre s rest (m m₁ m₂ : Machine) msg vs, Run.Each (Eval.stmt Eval.depth fr) pre m vs m₁ →
      (∀ v ∈ vs, v.endsProgram = false) →
      (Eval.stmt Eval.depth fr s).run m₁ = .ok (.error msg) m₂ →
      (Program.eval ⟨pre ++ s :: rest⟩ fr).run m = .ok (.error msg) m₂) ∧
    ∀ t (body : Block) (m m₁ m₂ : Machine) sc vs, (Run.newScope []).run m = .ok sc m₁ →
      Run.Each (Eval.stmt fuel ⟨[sc], false⟩) body.stmts m₁ vs m₂ →
      (∀ s ∈ body.stmts, s.isLet = true) →
      ∃ id m₃, (Eval.expr (fuel + 1) fr (some (.classDef t body))).run m
        = .ok (.cls id sc body) m₃
  := ⟨Eval.errorsStop fuel fr, fun _ _ _ _ _ _ _ _ he hvs h => Eval.program_error he hvs h,
    fun _ _ _ _ _ _ _ hs he hlet => Eval.classDef_ignores_values hs he hlet⟩

/-- In a scope that binds `y` to an error, the program `let x = y; y` ends with that error at
its first statement. -/
theorem first_error_ends_program :
  let tok : Token := ⟨.ident, "y"⟩
  let m : Machine := { heap := ⟨#[[("y", .error "boom")]], #[], 32⟩ }
  let fr : Frame := ⟨[0], false⟩
  let s : Stmt := .letStmt tok ⟨tok, "x"⟩ (some (.ident ⟨tok, "y"⟩)) none
  (Eval.stmt Eval.depth fr s).run m = .ok (.error "boom") m ∧
    (Program.eval ⟨[s, .exprStmt tok (some (.ident ⟨tok, "y"⟩))]⟩ fr).run m
      = .ok (.error "boom") m
  := by
  intro tok m fr s
  have h : (Eval.stmt Eval.depth fr s).run m = .ok (.error "boom") m := rfl
  exact ⟨h, (errors_stop_evaluation 0 fr).2.1 [] s _ m m m "boom" [] (Run.Each.nil m)
    (fun _ hv => absurd hv List.not_mem_nil) h⟩

/-- The class literal `class { let x = nope; }` gives a class, though its `let` statement gives
the error that `nope` is not found. -/
theorem class_literal_drops_error :
  let tok : Token := ⟨.ident, "x"⟩
  let s : Stmt := .letStmt tok ⟨tok, "x"⟩ (some (.ident ⟨tok, "nope"⟩)) none
  let p : Program := ⟨[.exprStmt tok (some (.classDef tok (.mk tok [s])))]⟩
  ((Eval.stmt Eval.depth ⟨[0], false⟩ s).run ({} : Machine)
      matches .ok (.error "identifier not found: nope") _) = true ∧
    ((do p.eval (← Run.topFrame)).run ({} : Machine) matches .ok (.cls ..) _) = true
  := by
  decide +kernel

end Monkey
