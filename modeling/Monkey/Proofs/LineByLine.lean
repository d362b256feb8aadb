import Monkey.Proofs.Replay
import Monkey.Proofs.ScopeGrowth
import Monkey.Proofs.LineSplit
import Monkey.Proofs.LineLexing
import Monkey.Session

/-!
# The read-eval-print loop and the file runner

Lines fed one by one to the read-eval-print loop, and the same lines joined by line ends and
run as a file, do the same: both runs leave the same heap, so the top-level scope binds the
same names to the same values, and the statements print the same text in the same order
(`repl_agrees_with_file`). Besides, the loop writes a prompt before each line and the text of
each line's value after it, and the file runner writes the text of the last value.

This holds of lines that read alike on their own and before the next line (`FitLine`): ASCII
with no carriage return and no comment, read with no error into complete statements, ending on
a `;`, every statement ending on one of the line's own tokens. And the statements must run
through (`LinesRun`): no line reads input, and no top-level statement gives a returned value,
the exit signal or an error, which would end the file's program but only the loop's line.

The joined text then has the tokens of the lines (`Token.scan_intercalate`) and the statements
of the lines (`Parsed.ofTokens_flatten`), and running those statements in one go is running
them line by line (`Flows.statements`), whatever input is left and whatever has been written
(`Program.eval_replays`).
-/

namespace Monkey

/-! ## Statements that run through -/

/-- Whether the next top-level statement runs after a statement of this value: not after a
returned value, the exit signal or an error. -/
def Value.passes : Value → Bool
  | .returned .. | .exitSig _ | .error _ => false
  | _ => true

theorem Value.passes_of_isError {v : Value} (h : v.isError = true) :
  v.passes = false
  := by
  cases v <;> simp_all [Value.isError, Value.passes]

/-- A `return` ends the program: no statement runs after it. -/
theorem Eval.stmt_return_passes (fuel : Nat) {fr : Frame} {t : Token} {e : Option Expr}
    {m m' : Machine} {r : Value}
    (h : (Eval.stmt (fuel + 1) fr (.returnStmt t e)).run m = .ok r m') :
  r.passes = false
  := by
  simp only [Eval.stmt] at h
  split at h
  · rw [EStateM.run_bind] at h
    cases h₁ : Run.fresh.run m with
    | ok i m₁ =>
      rw [h₁] at h
      cases h
      rfl
    | error f m₁ =>
      rw [h₁] at h
      cases h
  · rename_i x
    rw [EStateM.run_bind] at h
    cases h₁ : (Eval.expr fuel fr (some x)).run m with
    | error f m₁ =>
      rw [h₁] at h
      cases h
    | ok v m₁ =>
      rw [h₁] at h
      dsimp only at h
      split at h
      · rename_i hv
        cases h
        exact Value.passes_of_isError hv
      · rw [EStateM.run_bind] at h
        cases h₂ : Run.fresh.run m₁ with
        | ok i m₂ =>
          rw [h₂] at h
          cases h
          rfl
        | error f m₂ =>
          rw [h₂] at h
          cases h

/-- `Flows run h ss v h' p r`: the statements `ss` run one after another, from the heap `h` with
no input, each giving a value after which the next one runs; together they print `p`, and the
last leaves the heap `h'` and the value `r`, which is `v` when there are no statements. -/
inductive Flows (run : Stmt → Run Value) : Heap → List Stmt → Value → Heap → String → Value →
    Prop
  | nil (h : Heap) (v : Value) : Flows run h [] v h "" v
  | cons {h h₁ h' : Heap} {s : Stmt} {ss : List Stmt} {v r₁ r : Value} {p₁ p : String} :
      (run s).run ⟨h, [], ""⟩ = .ok r₁ ⟨h₁, [], p₁⟩ → r₁.passes = true →
      Flows run h₁ ss r₁ h' p r → Flows run h (s :: ss) v h' (p₁ ++ p) r

namespace Flows

variable {run : Stmt → Run Value} {h h' : Heap} {ss : List Stmt} {v r : Value} {p : String}

theorem statements_cons {s : Stmt} {rest : List Stmt} {m m₁ : Machine} {r₁ : Value}
    (hs : (run s).run m = .ok r₁ m₁) (hp : r₁.passes = true) :
  (Eval.statements run (s :: rest) v).run m = (Eval.statements run rest r₁).run m₁
  := by
  rw [Eval.statements, EStateM.run_bind, hs]
  cases r₁ <;> first | rfl | cases hp

/-- Statements that run through, and more after them: the ones after start where they left
off, with any input and any text written before. -/
theorem statements (hrun : ∀ s, Run.Replays (run s)) (hf : Flows run h ss v h' p r)
    (rest : List Stmt) (i : List String) (o : String) :
  (Eval.statements run (ss ++ rest) v).run ⟨h, i, o⟩ =
    (Eval.statements run rest r).run ⟨h', i, o ++ p⟩
  := by
  induction hf generalizing o with
  | nil h v => rw [List.nil_append, String.append_empty]
  | @cons h h₁ h' s ss v r₁ r p₁ p hs hp _ ih =>
    obtain ⟨-, p₁', hout, hrep⟩ := hrun s h "" r₁ ⟨h₁, [], p₁⟩ hs
    rw [String.empty_append] at hout
    subst hout
    rw [List.cons_append, statements_cons (hrep i o) hp, ih, String.append_assoc]

theorem run_ok (hrun : ∀ s, Run.Replays (run s)) (hf : Flows run h ss v h' p r)
    (i : List String) (o : String) :
  (Eval.statements run ss v).run ⟨h, i, o⟩ = .ok r ⟨h', i, o ++ p⟩
  := by
  have hs := hf.statements hrun [] i o
  rw [List.append_nil] at hs
  rw [hs]
  rfl

theorem append {hm h₂ : Heap} {ss₂ : List Stmt} {r₂ : Value} {p₂ : String}
    (hf : Flows run h ss v hm p r) (hg : Flows run hm ss₂ r h₂ p₂ r₂) :
  Flows run h (ss ++ ss₂) v h₂ (p ++ p₂) r₂
  := by
  induction hf with
  | nil => rwa [List.nil_append, String.empty_append]
  | cons hs hp _ ih =>
    rw [List.cons_append, String.append_assoc]
    exact .cons hs hp (ih hg)

/-- The value before statements matters only when there are none. -/
theorem restart {s : Stmt} (hf : Flows run h (s :: ss) v h' p r) (v' : Value) :
  Flows run h (s :: ss) v' h' p r
  := by
  cases hf with
  | cons hs hp hf => exact .cons hs hp hf

theorem passes (hf : Flows run h ss v h' p r) (hv : v.passes = true) :
  r.passes = true
  := by
  induction hf with
  | nil => exact hv
  | cons _ hp _ ih => exact ih hp

/-- Statements that run through hold no `return`. -/
theorem no_return {fr : Frame} (hf : Flows (Eval.stmt Eval.depth fr) h ss v h' p r) :
  ∀ st ∈ ss, st.isReturn = false
  := by
  induction hf with
  | nil => simp
  | @cons h h₁ h' s ss v r₁ r p₁ p hs hp _ ih =>
    intro st hst
    rcases List.mem_cons.1 hst with rfl | hst
    · cases hret : st.isReturn
      · rfl
      obtain ⟨t, e, rfl⟩ : ∃ t e, st = .returnStmt t e := by
        cases st <;> simp_all [Stmt.isReturn]
      rw [Eval.stmt_return_passes 19999 hs] at hp
      cases hp
    · exact ih st hst

/-- Runs the statements one after another from the heap `h` with no input, while each value
lets the next statement run: the heap at the end, what they print and the last value; `none`
when a statement stops the run or reads input, or when its value ends the program. -/
def run? (run : Stmt → Run Value) (h : Heap) : List Stmt → Value → Option (Heap × String × Value)
  | [], v => some (h, "", v)
  | s :: ss, _ =>
    match (run s).run ⟨h, [], ""⟩ with
    | .ok r₁ ⟨h₁, [], p₁⟩ =>
      if r₁.passes then (run? run h₁ ss r₁).map fun (h', p, r) => (h', p₁ ++ p, r) else none
    | _ => none

theorem of_run? :
  ∀ {h : Heap} {ss : List Stmt} {v : Value} {h' : Heap} {p : String} {r : Value},
    run? run h ss v = some (h', p, r) → Flows run h ss v h' p r
  | h, [], v, h', p, r, e => by
    simp only [run?, Option.some.injEq, Prod.mk.injEq] at e
    obtain ⟨rfl, rfl, rfl⟩ := e
    exact .nil h v
  | h, s :: ss, v, h', p, r, e => by
    unfold run? at e
    split at e
    · rename_i r₁ h₁ p₁ hs
      split at e
      · rename_i hp
        obtain ⟨⟨h'', p', r'⟩, e₁, e₂⟩ := Option.map_eq_some_iff.1 e
        cases e₂
        exact .cons hs hp (of_run? e₁)
      · cases e
    · cases e

end Flows

/-! ## Lines that run through -/

/-- What a runner shows of a value: nothing for no value, and otherwise its text. -/
def Value.display (h : Heap) (v : Value) : Except Fault (Option Shown) :=
  match v with
  | .void => pure none
  | _ => some <$> v.inspect h

/-- A value shows nothing when it is no value, and its text otherwise. -/
theorem Value.display_eq_ok {h : Heap} {v : Value} {sh : Option Shown}
    (hd : v.display h = .ok sh) :
  (v = .void ∧ sh = none) ∨ ∃ s, v ≠ .void ∧ v.inspect h = .ok s ∧ sh = some s
  := by
  unfold Value.display at hd
  split at hd
  · cases hd
    exact Or.inl ⟨rfl, rfl⟩
  · rename_i hv
    cases hi : v.inspect h with
    | error f =>
      rw [hi] at hd
      cases hd
    | ok s =>
      rw [hi] at hd
      cases hd
      exact Or.inr ⟨s, hv, rfl, rfl⟩

/-- What is shown, on a line of its own; nothing when nothing is shown. -/
def shownLine : Option Shown → String
  | some s => s.str ++ "\n"
  | none => ""

/-- A line as the read-eval-print loop runs it: what its statements print, its value and what
is shown of that value. -/
structure LineRun where
  printed : String
  value : Value
  shown : Option Shown

namespace LineRun

/-- What the loop writes for the line: the prompt, what the line prints, and what is shown of
its value on a line of its own. -/
def replEntry (r : LineRun) : String := ">> " ++ r.printed ++ shownLine r.shown

/-- The output of the read-eval-print loop on the lines: the entry of each line, then the
prompt that finds no line. -/
def replText (rs : List LineRun) : String := String.join (rs.map replEntry) ++ ">> "

/-- What the file runner writes of its value: what is shown of it on a line of its own, unless
that is `null`. -/
def fileLine : Option Shown → String
  | some s => if s != .text "null" then s.str ++ "\n" else ""
  | none => ""

/-- The output of the file runner on the lines: what the lines print, then what is shown of
the last value. -/
def fileText (rs : List LineRun) : String :=
  String.join (rs.map printed) ++ fileLine (rs.getLast?.bind shown)

end LineRun

/-- `LinesRun fr h ls h' rs`: the lines `ls` run one after another in the frame `fr`, from the
heap `h` with no input: the statements of each line run through, and what is shown of the
line's value can be shown. `rs` records each line, and `h'` is the heap at the end. -/
inductive LinesRun (fr : Frame) : Heap → List String → Heap → List LineRun → Prop
  | nil (h : Heap) : LinesRun fr h [] h []
  | cons {h h₁ h' : Heap} {l : String} {ls : List String} {p : String} {v : Value}
      {s : Option Shown} {rs : List LineRun} :
      Flows (Eval.stmt Eval.depth fr) h (Program.parse l).program.stmts .void h₁ p v →
      v.display h₁ = .ok s → LinesRun fr h₁ ls h' rs →
      LinesRun fr h (l :: ls) h' (⟨p, v, s⟩ :: rs)

/-- A line the two runners read alike: ASCII with no carriage return and no comment where the
lexer looks for one, its last token a `;`, read with no error into complete statements, each of
which ends on one of the line's own tokens. -/
structure FitLine (l : String) : Prop where
  ascii : ∀ c ∈ l.toList, c.toNat < 128
  noCarriageReturn : '\r' ∉ l.toList
  plain : Lexer.plain l.toList = true
  endsSemicolon : (Token.scan l.toList).getLast?.map Token.kind = some .semicolon
  noErrors : (Program.parse l).errors = []
  complete : (Program.parse l).program.complete = true
  endsWithin : Parser.endsWithin ⟨Token.scan l.toList, #[]⟩ = true

namespace FitLine

variable {l : String}

theorem parse_eq (l : String) :
  Program.parse l = Parsed.ofTokens (Token.scan l.toList)
  := rfl

theorem last (hf : FitLine l) :
  ∀ t ∈ (Token.scan l.toList).getLast?, t.kind = .semicolon
  := by
  intro t ht
  have h := hf.endsSemicolon
  rw [Option.mem_def] at ht
  rw [ht] at h
  exact Option.some.inj h

theorem toks_ne_nil (hf : FitLine l) :
  Token.scan l.toList ≠ []
  := by
  intro h
  have := hf.endsSemicolon
  rw [h] at this
  cases this

theorem stmts_ne_nil (hf : FitLine l) :
  (Program.parse l).program.stmts ≠ []
  := by
  rw [parse_eq, Parsed.ofTokens_stmts]
  exact Parser.programLoop_ne_nil hf.toks_ne_nil hf.endsWithin

/-- A line that parses into complete statements does not start with an `illegal` token, which
would start a statement with a hole. -/
theorem first (hf : FitLine l) :
  ∀ t ∈ (Token.scan l.toList).head?, t.kind ≠ .illegal
  := by
  intro t ht hk
  let p : Parser := ⟨Token.scan l.toList, #[]⟩
  have hcur : p.cur = t := by
    rw [Option.mem_def] at ht
    simp only [p, Parser.cur, List.headD_eq_head?_getD, ht, Option.getD_some]
  have hst : (Parser.parseStatement p).val = some (.exprStmt p.cur none) :=
    Parser.statement_illegal hf.toks_ne_nil (by rw [hcur, hk])
  have hs : (Parser.parseStatement p).out =
      (some (.exprStmt p.cur none), (Parser.parseStatement p).state) := by
    rw [← hst]
    rfl
  have hc := hf.complete
  rw [Program.complete, Stmt.completeList_iff, parse_eq, Parsed.ofTokens_stmts,
    Parser.programLoop_of_some hf.toks_ne_nil hs, Parser.programLoop_fst] at hc
  have := hc (.exprStmt p.cur none) (by simp)
  simp [Stmt.complete, Expr.completeOpt] at this

/-- A line whose statements hold no `return` is closed: it reads the same before more
tokens. -/
theorem closed (hf : FitLine l)
    (hret : ∀ st ∈ (Program.parse l).program.stmts, st.isReturn = false) :
    ClosedLine (Token.scan l.toList) where
  endsWithin := hf.endsWithin
  last := hf.last
  noErrors := hf.noErrors
  complete st hst := by
    have hc := hf.complete
    rw [Program.complete, Stmt.completeList_iff] at hc
    exact hc st hst
  returns := .inl hret

end FitLine

namespace LinesRun

variable {fr : Frame} {h h' : Heap} {ls : List String} {rs : List LineRun}

theorem no_return (hr : LinesRun fr h ls h' rs) :
  ∀ l ∈ ls, ∀ st ∈ (Program.parse l).program.stmts, st.isReturn = false
  := by
  induction hr with
  | nil => simp
  | cons hf _ _ ih =>
    intro l hl
    rcases List.mem_cons.1 hl with rfl | hl
    · exact hf.no_return
    · exact ih l hl

/-- The statements of the lines, in one go, run through as the lines do one by one. -/
theorem flows (hr : LinesRun fr h ls h' rs)
    (hne : ∀ l ∈ ls, (Program.parse l).program.stmts ≠ []) (v : Value) :
  Flows (Eval.stmt Eval.depth fr) h (ls.flatMap fun l => (Program.parse l).program.stmts) v h'
    (String.join (rs.map LineRun.printed)) ((rs.getLast?.map LineRun.value).getD v)
  := by
  induction hr generalizing v with
  | nil h => exact .nil h v
  | @cons h h₁ h' l ls p w s rs hf _ _ ih =>
    have hl := hne l List.mem_cons_self
    obtain ⟨st, sts, hsts⟩ := List.exists_cons_of_ne_nil hl
    have hf' : Flows (Eval.stmt Eval.depth fr) h (Program.parse l).program.stmts v h₁ p w := by
      rw [hsts] at hf ⊢
      exact hf.restart v
    have hg := hf'.append (ih (fun l' h' => hne l' (List.mem_cons_of_mem _ h')) w)
    rw [List.flatMap_cons, List.map_cons, String.join_cons]
    convert hg using 1
    rw [List.getLast?_cons]
    cases rs.getLast? <;> rfl

/-- What is shown of the last line's value. -/
theorem last_display (hr : LinesRun fr h ls h' rs) :
  Value.display h' ((rs.getLast?.map LineRun.value).getD .void) =
    .ok (rs.getLast?.bind LineRun.shown)
  := by
  induction hr with
  | nil h => rfl
  | cons _ hd hl ih =>
    cases hl with
    | nil => exact hd
    | cons _ _ _ =>
      rw [List.getLast?_cons_cons]
      exact ih

/-- Runs the lines one after another in the frame `fr` from the heap `h`, while their
statements run through and their values can be shown: the heap at the end and the record of
each line; `none` when a line does not run through. -/
def run? (fr : Frame) (h : Heap) : List String → Option (Heap × List LineRun)
  | [] => some (h, [])
  | l :: ls =>
    match Flows.run? (Eval.stmt Eval.depth fr) h (Program.parse l).program.stmts .void with
    | some (h₁, p, v) =>
      match v.display h₁ with
      | .ok s => (run? fr h₁ ls).map fun (h', rs) => (h', ⟨p, v, s⟩ :: rs)
      | .error _ => none
    | none => none

theorem of_run? :
  ∀ {h : Heap} {ls : List String} {h' : Heap} {rs : List LineRun},
    run? fr h ls = some (h', rs) → LinesRun fr h ls h' rs
  | h, [], h', rs, e => by
    simp only [run?, Option.some.injEq, Prod.mk.injEq] at e
    obtain ⟨rfl, rfl⟩ := e
    exact .nil h
  | h, l :: ls, h', rs, e => by
    unfold run? at e
    split at e
    · rename_i h₁ p v hf
      split at e
      · rename_i s hd
        obtain ⟨⟨h'', rs'⟩, e₁, e₂⟩ := Option.map_eq_some_iff.1 e
        cases e₂
        exact .cons (Flows.of_run? hf) hd (of_run? e₁)
      · cases e
    · cases e

end LinesRun

/-! ## The two runners -/

theorem Run.write_run (s : String) (m : Machine) :
  (Run.write s).run m = .ok () { m with out := m.out ++ s }
  := rfl

theorem Run.heap_run (m : Machine) :
  Run.heap.run m = .ok m.heap m
  := rfl

theorem Run.lift_ok_run {α : Type} (a : α) (m : Machine) :
  (Run.lift (.ok a)).run m = .ok a m
  := rfl

/-- Inspecting a value on the heap of the run goes on with what the value shows, when it can be
shown. -/
theorem Run.inspect_heap_run {α : Type} {v : Value} {h : Heap} {s : Shown}
    (hi : v.inspect h = .ok s) (k : Shown → Run α) (i : List String) (o : String) :
  (do let s ← Run.lift (v.inspect (← Run.heap)); k s).run ⟨h, i, o⟩ = (k s).run ⟨h, i, o⟩
  := by
  rw [EStateM.run_bind, Run.heap_run]
  dsimp only
  rw [EStateM.run_bind, hi, Run.lift_ok_run]

theorem Run.readLine_run (l : String) (ls : List String) (h : Heap) (o : String) :
  Run.readLine.run ⟨h, l :: ls, o⟩ = .ok l ⟨h, ls, o⟩
  := rfl

theorem Run.loopFor_next {σ α : Type} {round : σ → Run (Round σ α)} {s s' : σ} {m m' : Machine}
    (n : Nat) (h : (round s).run m = .ok (.next s') m') :
  (Run.loopFor (n + 1) round s).run m = (Run.loopFor n round s').run m'
  := by
  rw [Run.loopFor, EStateM.run_bind, h]

theorem Run.loopFor_error {σ α : Type} {round : σ → Run (Round σ α)} {s : σ} {m m' : Machine}
    {f : Fault} (n : Nat) (h : (round s).run m = .error f m') :
  (Run.loopFor (n + 1) round s).run m = .error f m'
  := by
  rw [Run.loopFor, EStateM.run_bind, h]

/-- A round of the loop on a line that parses with no error and whose value is not the exit
signal: the prompt, what the line prints, and what is shown of its value. -/
theorem replRound_run {fr : Frame} {l : String} {ls : List String} {h h₁ : Heap} {o o' : String}
    {v : Value} {sh : Option Shown} (herr : (Program.parse l).errors = [])
    (heval : ((Program.parse l).program.eval fr).run ⟨h, ls, o ++ ">> "⟩ = .ok v ⟨h₁, ls, o'⟩)
    (hd : v.display h₁ = .ok sh) (hp : v.passes = true) :
  (replRound fr).run ⟨h, l :: ls, o⟩ =
    .ok (.next ()) ⟨h₁, ls, o' ++ shownLine sh⟩
  := by
  simp only [replRound, EStateM.run_bind, Run.write_run]
  rw [Run.readLine_run]
  simp only [herr, List.isEmpty_nil, Bool.not_true, Bool.false_eq_true, if_false,
    EStateM.run_bind, heval]
  rcases Value.display_eq_ok hd with ⟨rfl, rfl⟩ | ⟨s, hv, hi, rfl⟩
  · simp [shownLine]
  split
  · exact absurd rfl hv
  rw [Run.inspect_heap_run hi, EStateM.run_bind, Run.write_run]
  dsimp only
  split
  · simp [Value.passes] at hp
  · rfl

/-- The round that finds no line left. -/
theorem replRound_end (fr : Frame) (h : Heap) (o : String) :
  (replRound fr).run ⟨h, [], o⟩ = .error .inputExhausted ⟨h, [], o ++ ">> "⟩
  := by
  simp only [replRound, EStateM.run_bind, Run.write_run]
  rfl

/-- The loop over lines that run through: each line's round, then the round that finds no
line. -/
theorem LinesRun.repl_loop {fr : Frame} {h h' : Heap} {ls : List String} {rs : List LineRun}
    (hr : LinesRun fr h ls h' rs) (herr : ∀ l ∈ ls, (Program.parse l).errors = []) (k : Nat)
    (o : String) :
  (Run.loopFor (ls.length + 1 + k) (fun _ => replRound fr) ()).run ⟨h, ls, o⟩ =
    .error .inputExhausted ⟨h', [], o ++ LineRun.replText rs⟩
  := by
  induction hr generalizing o with
  | nil h =>
    rw [show ([] : List String).length + 1 + k = k + 1 by simp; omega,
      Run.loopFor_error k (replRound_end fr h o)]
    simp [LineRun.replText]
  | @cons h h₁ h' l ls p v s rs hf hd _ ih =>
    have heval := hf.run_ok ((Eval.replays Eval.depth).stmt fr) ls (o ++ ">> ")
    rw [show (l :: ls).length + 1 + k = ls.length + 1 + k + 1 by simp; omega,
      Run.loopFor_next _ (replRound_run (herr l List.mem_cons_self) heval hd
        (hf.passes rfl)),
      ih (fun l' h' => herr l' (List.mem_cons_of_mem _ h'))]
    simp [LineRun.replText, LineRun.replEntry, String.append_assoc]

/-- The loop on lines that run through ends when the lines run out, having written for each
line its prompt, what it prints and what is shown of its value, and a last prompt. -/
theorem LinesRun.repl {h₀ h' : Heap} {ls : List String} {rs : List LineRun}
    (hr : LinesRun ⟨[h₀.scopes.size], false⟩ (h₀.newScope []).2 ls h' rs)
    (herr : ∀ l ∈ ls, (Program.parse l).errors = []) :
  Run.repl.run ⟨h₀, ls, ""⟩ = .error .inputExhausted ⟨h', [], LineRun.replText rs⟩
  := by
  have hl := hr.repl_loop herr 0 ""
  rw [Nat.add_zero, String.empty_append] at hl
  rw [← hl]
  rfl

theorem asciiFault?_none {cs : List Char} (h : ∀ c ∈ cs, c.toNat < 128) (pos : Nat) :
  asciiFault? pos cs = none
  := by
  induction cs generalizing pos with
  | nil => rfl
  | cons c cs ih =>
    rw [asciiFault?, if_pos (h c List.mem_cons_self)]
    exact ih (fun c' h' => h c' (List.mem_cons_of_mem _ h')) _

theorem readLineEnds_of_not_mem {cs : List Char} (h : '\r' ∉ cs) :
  readLineEnds cs = cs
  := by
  induction cs with
  | nil => rfl
  | cons c cs ih =>
    have hc : c ≠ '\r' := fun hc => h (hc ▸ List.mem_cons_self)
    rw [readLineEnds.eq_def]
    split
    · rename_i heq
      cases heq
      exact absurd rfl hc
    · rename_i heq
      cases heq
      exact absurd rfl hc
    · rename_i heq
      cases heq
      rw [ih (fun h' => h (List.mem_cons_of_mem _ h'))]
    · rename_i heq
      cases heq

/-- Every character of lines joined by line ends is a line end or a character of a line. -/
theorem mem_intercalate_line_ends {c : Char} :
  ∀ {ls : List (List Char)}, c ∈ ['\n'].intercalate ls → c = '\n' ∨ ∃ l ∈ ls, c ∈ l
  | [], h => by simp at h
  | [l], h => Or.inr ⟨l, List.mem_singleton_self l, by simpa using h⟩
  | l :: l' :: ls, h => by
    rw [List.intercalate_cons_cons] at h
    rcases List.mem_append.1 h with h | h
    · rcases List.mem_append.1 h with h | h
      · exact Or.inr ⟨l, List.mem_cons_self, h⟩
      · exact Or.inl (List.mem_singleton.1 h)
    · rcases mem_intercalate_line_ends h with h | ⟨l'', hl, hc⟩
      · exact Or.inl h
      · exact Or.inr ⟨l'', List.mem_cons_of_mem _ hl, hc⟩

/-- Lines that read alike, joined by line ends, make a text the file runner takes as it is: it
is ASCII, it has no line end to change, and it parses with no error into the statements of
the lines in order, when no line has a `return` at the top. -/
theorem FitLine.joined {ls : List String} (hfit : ∀ l ∈ ls, FitLine l)
    (hret : ∀ l ∈ ls, ∀ st ∈ (Program.parse l).program.stmts, st.isReturn = false) :
  asciiFault? 0 (String.intercalate "\n" ls).toList = none ∧
    Program.parse (String.ofList (readLineEnds (String.intercalate "\n" ls).toList)) =
      ⟨⟨ls.flatMap fun l => (Program.parse l).program.stmts⟩, []⟩
  := by
  have htext : (String.intercalate "\n" ls).toList = ['\n'].intercalate (ls.map String.toList) := by
    rw [String.toList_intercalate]
    rfl
  have hchars : ∀ c ∈ (String.intercalate "\n" ls).toList, c.toNat < 128 ∧ c ≠ '\r' := by
    intro c hc
    rw [htext] at hc
    rcases mem_intercalate_line_ends hc with rfl | ⟨l, hl, hc⟩
    · decide
    · obtain ⟨l', hl', rfl⟩ := List.mem_map.1 hl
      exact ⟨(hfit l' hl').ascii c hc, fun h => (hfit l' hl').noCarriageReturn (h ▸ hc)⟩
  refine ⟨asciiFault?_none (fun c hc => (hchars c hc).1) 0, ?_⟩
  have hscan : Token.scan (String.intercalate "\n" ls).toList =
      (ls.map fun l => Token.scan l.toList).flatten := by
    rw [htext, Token.scan_intercalate, List.map_map]
    · rfl
    all_goals
      intro cs hcs
      obtain ⟨l, hl, rfl⟩ := List.mem_map.1 hcs
    · exact (hfit l hl).plain
    · exact (hfit l hl).last
    · exact (hfit l hl).first
  rw [readLineEnds_of_not_mem (fun h => (hchars '\r' h).2 rfl), String.ofList_toList,
    FitLine.parse_eq, hscan, Parsed.ofTokens_flatten, List.flatMap_map]
  · rfl
  intro ts hts
  obtain ⟨l, hl, rfl⟩ := List.mem_map.1 hts
  exact (hfit l hl).closed (hret l hl)

/-- Lines that read alike and run through, joined by line ends, run as a file: the statements
of all the lines in one go, then what is shown of the last value. -/
theorem LinesRun.file {h₀ h' : Heap} {ls : List String} {rs : List LineRun}
    (hfit : ∀ l ∈ ls, FitLine l)
    (hr : LinesRun ⟨[h₀.scopes.size], false⟩ (h₀.newScope []).2 ls h' rs) :
  (Run.file (String.intercalate "\n" ls)).run ⟨h₀, [], ""⟩ =
    .ok () ⟨h', [], LineRun.fileText rs⟩
  := by
  obtain ⟨hascii, hparse⟩ := FitLine.joined hfit hr.no_return
  have hflow := (hr.flows (fun l hl => (hfit l hl).stmts_ne_nil) .void).run_ok
    ((Eval.replays Eval.depth).stmt _) [] ""
  have hdisp := hr.last_display
  simp only [Run.file, hascii, hparse, List.isEmpty_nil, Bool.not_true, Bool.false_eq_true,
    if_false]
  rw [EStateM.run_bind, Run.topFrame_run]
  dsimp only
  rw [EStateM.run_bind, Program.eval, hflow]
  dsimp only
  rw [LineRun.fileText]
  generalize (Option.map LineRun.value rs.getLast?).getD Value.void = r at hdisp ⊢
  generalize hsh : rs.getLast?.bind LineRun.shown = sh at hdisp
  rcases Value.display_eq_ok hdisp with ⟨rfl, rfl⟩ | ⟨s, hv, hi, rfl⟩
  · simp [LineRun.fileLine]
  split
  · exact absurd rfl hv
  rw [Run.inspect_heap_run hi]
  by_cases hn : (s != Shown.text "null") = true
  · rw [if_pos hn, Run.write_run]
    simp [LineRun.fileLine, hn]
  · rw [if_neg hn]
    simp [LineRun.fileLine, hn]

/-! ## The two runners agree -/

/-- Fed lines that read alike and run through, the read-eval-print loop ends when the lines run
out, and the file runner, on the lines joined by line ends, returns. Both leave the same heap,
so the top-level scope binds the same names to the same values, and both write what the lines
print, in the same order: the loop with a prompt before each line and what is shown of each
line's value after it, the file runner with what is shown of the last value. -/
theorem repl_agrees_with_file (ls : List String) (h₀ : Heap) {h' : Heap} {rs : List LineRun}
    (hfit : ∀ l ∈ ls, FitLine l)
    (hrun : LinesRun ⟨[h₀.scopes.size], false⟩ (h₀.newScope []).2 ls h' rs) :
  Run.repl.run ⟨h₀, ls, ""⟩ = .error .inputExhausted ⟨h', [], LineRun.replText rs⟩ ∧
    (Run.file (String.intercalate "\n" ls)).run ⟨h₀, [], ""⟩ =
      .ok () ⟨h', [], LineRun.fileText rs⟩
  := ⟨hrun.repl fun l hl => (hfit l hl).noErrors, hrun.file hfit⟩

/-- A binding on one line and a print of it on the next: both runners bind `x` alike and print
`true` once. -/
theorem repl_agrees_with_file_let_print :
  ∃ h' rs, rs.map LineRun.printed = ["", "true\n"] ∧
    Run.repl.run ⟨Heap.empty, ["let x = true;", "printl(x);"], ""⟩ =
      .error .inputExhausted ⟨h', [], LineRun.replText rs⟩ ∧
    (Run.file (String.intercalate "\n" ["let x = true;", "printl(x);"])).run
        ⟨Heap.empty, [], ""⟩ =
      .ok () ⟨h', [], LineRun.fileText rs⟩
  := by
  have hfit : ∀ l ∈ ["let x = true;", "printl(x);"], FitLine l := by
    intro l hl
    simp only [List.mem_cons, List.not_mem_nil, or_false] at hl
    rcases hl with rfl | rfl
    all_goals
      refine ⟨fun c hc => of_decide_eq_true (List.all_eq_true.1
        (?_ : (_ : List Char).all (fun c => decide (c.toNat < 128)) = true) c hc),
        ?_, ?_, ?_, ?_, ?_, ?_⟩
      all_goals decide +kernel
  have hsome : (LinesRun.run? ⟨[Heap.empty.scopes.size], false⟩ (Heap.empty.newScope []).2
      ["let x = true;", "printl(x);"]).isSome = true := by
    decide +kernel
  have hprinted : (LinesRun.run? ⟨[Heap.empty.scopes.size], false⟩ (Heap.empty.newScope []).2
      ["let x = true;", "printl(x);"]).map (fun x => x.2.map LineRun.printed) =
      some ["", "true\n"] := by
    decide +kernel
  obtain ⟨⟨h', rs⟩, hrs⟩ := Option.isSome_iff_exists.1 hsome
  rw [hrs] at hprinted
  exact ⟨h', rs, Option.some.inj hprinted,
    repl_agrees_with_file ["let x = true;", "printl(x);"] Heap.empty hfit (LinesRun.of_run? hrs)⟩

/-- Lines whose braces balance need not read alike alone and joined. In
`let f = fn() { let a.} = true;` the `}` is read as a field name, so the block of `f` is still
open at the end of the line: alone the line binds `f`, but before more lines the block takes
them in. Each of the lines below has no comment, parses with no error into complete statements,
has as many `{` as `}` tokens and ends on a `;`, and the loop runs them to the end of the input;
yet the loop prints `true` and the file runner prints nothing. The first line is the one whose
statement does not end within it. -/
theorem repl_differs_from_file_on_open_block :
  let ls := ["let f = fn() { let a.} = true;", "let g = true;", "printl(g);"]
  (∀ l ∈ ls, Lexer.plain l.toList = true ∧ (Program.parse l).errors = [] ∧
      (Program.parse l).program.complete = true ∧
      ((Token.scan l.toList).filter (·.kind == .lbrace)).length =
        ((Token.scan l.toList).filter (·.kind == .rbrace)).length ∧
      (Token.scan l.toList).getLast?.map Token.kind = some .semicolon) ∧
    Parser.endsWithin ⟨Token.scan "let f = fn() { let a.} = true;".toList, #[]⟩ = false ∧
    (Run.repl.run ⟨Heap.empty, ls, ""⟩
      matches .error .inputExhausted ⟨_, [], ">> >> >> true\nnull\n>> "⟩) = true ∧
    ((Run.file (String.intercalate "\n" ls)).run ⟨Heap.empty, [], ""⟩
      matches .ok () ⟨_, [], ""⟩) = true
  := by
  decide +kernel

/-- The loop takes a line as it comes, while the file runner reads its text with universal line
ends, where a carriage return is a line end. The line `printl("x\ry");`, with a carriage return
inside its string, meets every condition of `FitLine` but that one; the loop prints the carriage
return, and the file runner prints a line end in its place. -/
theorem repl_differs_from_file_on_carriage_return :
  let l := "printl(\"x\ry\");"
  (l.toList.all fun c => c.toNat < 128) = true ∧ Lexer.plain l.toList = true ∧
    (Token.scan l.toList).getLast?.map Token.kind = some .semicolon ∧
    (Program.parse l).errors = [] ∧ (Program.parse l).program.complete = true ∧
    Parser.endsWithin ⟨Token.scan l.toList, #[]⟩ = true ∧
    (Run.repl.run ⟨Heap.empty, [l], ""⟩
      matches .error .inputExhausted ⟨_, [], ">> x\ry\nnull\n>> "⟩) = true ∧
    ((Run.file l).run ⟨Heap.empty, [], ""⟩ matches .ok () ⟨_, [], "x\ny\n"⟩) = true
  := by
  decide +kernel

end Monkey
