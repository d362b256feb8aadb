import Mathlib
import Monkey.Proofs.Errors
import Monkey.Proofs.Parsing

/-!
# Integers read back from their text

`str` gives the text a value shows, and `int` reads a number from a string: an integer when the
string has no point. An integer shows its decimal digits, after a `-` when it is negative, if it
has at most 4300 of them (`Number.text_int_of_lt`); reading takes an optional sign and at most
4300 digits, so it reads the text of every integer back as that integer
(`readNumber_of_text`). Hence `int(str(x))` gives back the integer `x` is bound to, whatever its
sign and size up to 4300 digits, and leaves the machine as it was (`Eval.int_str_inverse`).
-/

namespace Monkey

namespace Decimal

/-- A digit of a decimal numeral is an ASCII digit. -/
theorem isDigit_of_mem_toDigits {k : Nat} {c : Char} (hc : c ∈ Nat.toDigits 10 k) :
  isDigit c = true
  := by
  rw [isDigit_eq]
  exact Nat.isDigit_of_mem_toDigits (by decide) (by decide) hc

theorem digitsValue_toDigits (k : Nat) :
  digitsValue (Nat.toDigits 10 k) = k
  := Nat.ofDigitChars_ten_toDigits

/-- A numeral of at most `intDigitLimit` digits after a minus reads as the negated number the
digits denote. -/
theorem readInt?_of_minus_digits {ds : List Char} (hne : ds ≠ []) (hd : ∀ c ∈ ds, isDigit c = true)
    (hlen : ds.length ≤ intDigitLimit) :
  readInt? (String.ofList ('-' :: ds)) = some (-(digitsValue ds : Int))
  := by
  have hlast : ∀ c ∈ ('-' :: ds).getLast?, isAsciiBlank c = false := by
    intro c hc
    rw [List.getLast?_cons, List.getLast?_eq_some_getLast hne, Option.getD_some,
      Option.mem_some_iff] at hc
    exact isAsciiBlank_of_numeral (Or.inl (hd c (hc ▸ List.getLast_mem hne)))
  have hprep : prepare (String.ofList ('-' :: ds)) = some ('-' :: ds) := by
    rw [prepare_of_plain (s := String.ofList ('-' :: ds))] <;> simp only [String.toList_ofList]
    · intro c hc
      rcases List.mem_cons.1 hc with rfl | hc
      · decide
      · exact toNat_lt_of_isDigit (hd c hc)
    · intro hu
      rcases List.mem_cons.1 hu with h | hu
      · exact absurd h (by decide)
      · exact absurd (hd '_' hu) (by rw [isDigit_underscore]; decide)
    · intro c hc
      cases hc
      rfl
    · exact hlast
  rw [readInt?, hprep]
  simp [splitSign, hne, Nat.not_lt.2 hlen]
  exact hd

end Decimal

namespace Number

/-- An integer of at most 4300 digits has a text: its digits, after a minus when it is
negative. -/
theorem text_int_of_lt {n : Int} (hn : n.natAbs < 10 ^ 4300) :
  (Number.int n).text = .ok (if n < 0 then "-" ++ n.natAbs.repr else n.natAbs.repr)
  := by
  have hlen : n.natAbs.repr.length ≤ 4300 := by
    rw [← String.length_toList, Nat.toList_repr]
    exact Nat.toDigits_length 10 _ 4300 (by decide) hn
  simp [text, digitLimit, Nat.not_lt.2 hlen]
  rfl

/-- The text an integer has is its digits, at most 4300 of them, after a minus when it is
negative. -/
theorem text_int_eq {n : Int} {s : String} (h : (Number.int n).text = .ok s) :
  n.natAbs.repr.length ≤ digitLimit ∧
    s = if n < 0 then "-" ++ n.natAbs.repr else n.natAbs.repr
  := by
  simp only [text] at h
  split at h
  · cases h
  · rename_i hlen
    exact ⟨Nat.le_of_not_lt hlen, (Except.ok.inj h).symm⟩

end Number

/-- A text with no point that reads as an integer is that integer. -/
theorem readNumber_of_readInt? {s : String} (hdot : '.' ∉ s.toList) {n : Int}
    (h : Decimal.readInt? s = some n) :
  readNumber s = Value.ofInt n
  := by
  simp [readNumber, String.contains_char_eq, hdot, h]

/-- The text of an integer, when it has one, reads back as that integer. -/
theorem readNumber_of_text {n : Int} {s : String} (h : (Number.int n).text = .ok s) :
  readNumber s = Value.ofInt n
  := by
  obtain ⟨hlen, rfl⟩ := Number.text_int_eq h
  have hle : (Nat.toDigits 10 n.natAbs).length ≤ Decimal.intDigitLimit := by
    rw [← Nat.toList_repr, String.length_toList]
    exact hlen
  have hd : ∀ c ∈ Nat.toDigits 10 n.natAbs, Decimal.isDigit c = true :=
    fun c hc => Decimal.isDigit_of_mem_toDigits hc
  have hdot : '.' ∉ Nat.toDigits 10 n.natAbs := fun hc => by
    simpa [Decimal.isDigit] using hd '.' hc
  by_cases hneg : n < 0
  · have hs : "-" ++ n.natAbs.repr = String.ofList ('-' :: Nat.toDigits 10 n.natAbs) := by
      rw [← String.toList_inj]
      simp
    rw [if_pos hneg, hs]
    refine readNumber_of_readInt? (by simpa using hdot) ?_
    rw [Decimal.readInt?_of_minus_digits Nat.toDigits_ne_nil hd hle, Decimal.digitsValue_toDigits,
      Int.ofNat_natAbs_of_nonpos hneg.le, neg_neg]
  · rw [if_neg hneg]
    refine readNumber_of_readInt? (by simpa using hdot) ?_
    rw [Decimal.readInt?_of_digits (by simp) (by simpa using hd) (by simpa using hle)]
    simp only [Nat.toList_repr, Decimal.digitsValue_toDigits]
    rw [Int.natAbs_of_nonneg (Int.not_lt.1 hneg)]

namespace Eval

variable {fuel : Nat} {fr : Frame} {m m₁ m₂ : Machine}

/-- A name bound along the chain evaluates to its value. -/
theorem expr_ident_bound {x : Ident} {v : Value} (hx : m.heap.lookup x.name fr.chain = some v) :
  (expr (fuel + 1) fr (some (.ident x))).run m = .ok v m
  := by
  rw [expr, EStateM.run_bind, show Run.heap.run m = .ok m.heap m from rfl]
  dsimp only
  rw [hx]
  rfl

/-- A name bound nowhere on the chain that names a builtin evaluates to the builtin. -/
theorem expr_ident_builtin {x : Ident} {b : Builtin} (hx : m.heap.lookup x.name fr.chain = none)
    (hb : Builtin.ofName? x.name = some b) :
  (expr (fuel + 1) fr (some (.ident x))).run m = .ok (.builtin b b.id) m
  := by
  rw [expr, EStateM.run_bind, show Run.heap.run m = .ok m.heap m from rfl]
  dsimp only
  rw [hx, hb]
  rfl

/-- A call of a builtin on one argument evaluates the callee, then the argument, and calls the
builtin on the argument's value. -/
theorem call_builtin_run {t : Token} {callee arg : Option Expr} {b : Builtin} {i : Nat}
    {v : Value} (hf : (expr (fuel + 1) fr callee).run m = .ok (.builtin b i) m₁)
    (ha : (expr (fuel + 1) fr arg).run m₁ = .ok v m₂) (hv : v.isError = false) :
  (expr (fuel + 2) fr (some (.call t callee (some [arg])))).run m = (b.call [v]).run m₂
  := by
  rw [expr, guard_ok hf rfl]
  dsimp only
  rw [EStateM.run_bind, Run.values_each (.cons ha (.nil m₂)) (by simpa using hv)]
  rfl

end Eval

/-- An integer with a text shows that text. -/
theorem Value.inspect_int {n : Int} {s : String} (hs : (Number.int n).text = .ok s) (o : Nat)
    (h : Heap) :
  (Value.num (.int n) o).inspect h = .ok (.text s)
  := by
  rw [Value.inspect, Value.showDepth, Value.shownAt]
  simp only [hs]
  rfl

namespace Builtin

/-- `str` of an integer with a text gives that text as a string, and changes nothing. -/
theorem call_str_int {n : Int} {o : Nat} {s : String} (hs : (Number.int n).text = .ok s)
    (m : Machine) :
  (Builtin.call .str [.num (.int n) o]).run m = .ok (.str s) m
  := by
  simp only [call, EStateM.run_bind]
  rw [show Run.heap.run m = .ok m.heap m from rfl]
  dsimp only
  rw [Value.inspect_int hs]
  rfl

/-- `int` of a string reads the number it holds, and changes nothing. -/
theorem call_int_str (s : String) (m : Machine) :
  (Builtin.call .int [.str s]).run m = .ok (readNumber s) m
  := rfl

end Builtin

namespace Eval

/-- `int(str(x))` gives back the integer `x` is bound to, for every integer of at most 4300
decimal digits, where the names `int` and `str` are bound to nothing but the builtins; the
machine is left as it was. -/
theorem int_str_inverse (fuel : Nat) (fr : Frame) (m : Machine) (t t' ti ts : Token) (x : Ident)
    (n : Int) (o : Nat) (hint : m.heap.lookup "int" fr.chain = none)
    (hstr : m.heap.lookup "str" fr.chain = none)
    (hx : m.heap.lookup x.name fr.chain = some (.num (.int n) o))
    (hn : n.natAbs < 10 ^ 4300) :
  (expr (fuel + 3) fr (some (.call t (some (.ident ⟨ti, "int"⟩))
    (some [some (.call t' (some (.ident ⟨ts, "str"⟩)) (some [some (.ident x)]))])))).run m
    = .ok (Value.ofInt n) m
  := by
  obtain ⟨s, hs⟩ : ∃ s, (Number.int n).text = .ok s := ⟨_, Number.text_int_of_lt hn⟩
  have hinner : (expr (fuel + 2) fr (some (.call t' (some (.ident ⟨ts, "str"⟩))
      (some [some (.ident x)])))).run m = .ok (.str s) m := by
    rw [call_builtin_run (expr_ident_builtin hstr rfl) (expr_ident_bound hx) rfl]
    exact Builtin.call_str_int hs m
  rw [call_builtin_run (expr_ident_builtin hint rfl) hinner rfl, Builtin.call_int_str,
    readNumber_of_text hs]

/-- The widest negative integer with a text, 4300 nines after a minus, is read back. -/
theorem int_str_inverse_nines :
  let m : Machine := { heap := ⟨#[[("x", .num (.int (-(10 ^ 4300 - 1))) 0)]], #[], 32⟩ }
  m.heap.lookup "int" [0] = none ∧ m.heap.lookup "str" [0] = none ∧
    m.heap.lookup "x" [0] = some (.num (.int (-(10 ^ 4300 - 1))) 0) ∧
    (-(10 ^ 4300 - 1) : Int).natAbs < 10 ^ 4300 ∧
    (expr 3 ⟨[0], false⟩ (some (.call ⟨.lparen, "("⟩ (some (.ident ⟨⟨.ident, "int"⟩, "int"⟩))
      (some [some (.call ⟨.lparen, "("⟩ (some (.ident ⟨⟨.ident, "str"⟩, "str"⟩))
        (some [some (.ident ⟨⟨.ident, "x"⟩, "x"⟩)]))])))).run m
      = .ok (Value.ofInt (-(10 ^ 4300 - 1))) m
  := by
  intro m
  have hn : (-(10 ^ 4300 - 1) : Int).natAbs < 10 ^ 4300 := by decide +kernel
  exact ⟨rfl, rfl, rfl, hn, int_str_inverse 0 ⟨[0], false⟩ m _ _ _ _ ⟨⟨.ident, "x"⟩, "x"⟩ _ 0
    rfl rfl rfl hn⟩

end Eval

end Monkey
