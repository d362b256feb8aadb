import Monkey.Proofs.LineLexing

/-!
# The lexer reaches the end

A lexer on a text is called again and again, each call returning a token and leaving the text
after it (`Token.next`). Every call that does not return the end token moves the lexer on by
at least one character (`Token.next_advances`): the trivia it passes and the lexeme it reads
are taken off the front of the text, and a lexeme is never empty. The end token is returned
exactly when only trivia are left; the text is then used up, so every later call returns the
end token again (`Token.next_of_eof`).

So the calls return the tokens of `Token.scan` in order and then the end token forever
(`Token.call_eq_getD_scan`), and since each token of the scan takes at least one character,
the first end token comes within one call more than the text has characters
(`Token.calls_reach_end`).
-/

namespace Monkey

namespace TokenKind

theorem ofWord_ne_eof (w : String) :
  ofWord w ≠ .eof
  := by
  unfold ofWord
  split <;> simp

theorem ne_eof_of_ofSymbol? {c : Char} {k : TokenKind} (h : ofSymbol? c = some k) :
  k ≠ .eof
  := by
  rintro rfl
  unfold ofSymbol? at h
  split at h <;> simp at h

end TokenKind

namespace Lexer

/-- A lexeme is never the end token. -/
theorem lexeme_kind_ne_eof (illegal : String) (c : Char) (r : List Char) :
  (lexeme illegal c r).1.kind ≠ .eof
  := by
  fun_cases lexeme illegal c r
  case case12 => exact TokenKind.ne_eof_of_ofSymbol? ‹_›
  case case13 => exact TokenKind.ofWord_ne_eof _
  all_goals simp

end Lexer

namespace Token

open Lexer

/-- The text the lexer stands before after `k` calls on the text `cs`. -/
def afterCalls (cs : List Char) : Nat → List Char
  | 0 => cs
  | k + 1 => (next (afterCalls cs k)).2

/-- The token that call number `k` (counted from zero) returns on the text `cs`. -/
def call (cs : List Char) (k : Nat) : Token := (next (afterCalls cs k)).1

/-- The calls after the first are the calls on the text the first one leaves. -/
theorem afterCalls_succ' (cs : List Char) (k : Nat) :
  afterCalls cs (k + 1) = afterCalls (next cs).2 k
  := by
  induction k with
  | zero => rfl
  | succ k ih => rw [afterCalls, ih, afterCalls]

theorem call_succ (cs : List Char) (k : Nat) :
  call cs (k + 1) = call (next cs).2 k
  := by
  rw [call, afterCalls_succ', call]

/-- The end token is returned exactly when only trivia are left. -/
theorem next_kind_eq_eof_iff (cs : List Char) :
  (next cs).1.kind = .eof ↔ skipTrivia cs = []
  := by
  unfold next
  split
  · rename_i h
    simp [h, Token.eof]
  · rename_i c r h
    simp [h, lexeme_kind_ne_eof]

/-- A call returning the end token uses the text up. -/
theorem next_of_eof {cs : List Char} (h : (next cs).1.kind = .eof) :
  next cs = (Token.eof, [])
  := by
  unfold next
  rw [(next_kind_eq_eof_iff cs).1 h]

/-- A call that does not return the end token moves the lexer on by at least one character:
the text it leaves is the text it started on less a nonempty front. -/
theorem next_advances {cs : List Char} (h : (next cs).1.kind ≠ .eof) :
  ∃ d, 0 < d ∧ (next cs).2 = cs.drop d
  := by
  cases ht : skipTrivia cs with
  | nil => exact absurd ((next_kind_eq_eof_iff cs).2 ht) h
  | cons c r =>
    have hnext : next cs = lexeme (illegalLiteral cs) c r := by
      unfold next
      rw [ht]
    have hsuf : (next cs).2 <:+ cs := by
      rw [hnext]
      exact (lexeme_suffix _ c r).trans ((List.suffix_cons c r).trans (ht ▸ skipTrivia_suffix cs))
    have hlt : (next cs).2.length < cs.length := by
      have h1 := (skipTrivia_suffix cs).length_le
      have h2 := (lexeme_suffix (illegalLiteral cs) c r).length_le
      rw [ht, List.length_cons] at h1
      rw [hnext]
      omega
    exact ⟨cs.length - (next cs).2.length, by omega, List.suffix_iff_eq_drop.1 hsuf⟩

/-- On a used-up text every call returns the end token. -/
theorem call_nil (k : Nat) :
  call [] k = Token.eof
  := by
  induction k with
  | zero => rfl
  | succ k ih => rw [call_succ]; exact ih

/-- The calls return the tokens of the scan in order, and then the end token. The induction
follows the scan: each of its rounds is one call. -/
theorem call_eq_getD_scan (cs : List Char) (k : Nat) :
  call cs k = (scan cs).getD k Token.eof
  := by
  induction cs using scan.induct generalizing k with
  | case1 cs h =>
    have hnext : next cs = (Token.eof, []) := by
      unfold next
      rw [h]
    rw [scan_of_nil h, List.getD_nil]
    cases k with
    | zero => rw [call, afterCalls, hnext]
    | succ k => rw [call_succ, hnext, call_nil]
  | case2 cs c r h ih =>
    have hnext : next cs = lexeme (illegalLiteral cs) c r := by
      unfold next
      rw [h]
    rw [scan_of_skipTrivia h]
    cases k with
    | zero => rw [call, afterCalls, hnext, List.getD_cons_zero]
    | succ k => rw [call_succ, hnext, ih k, List.getD_cons_succ]

/-- No token of the scan is the end token. -/
theorem scan_kind_ne_eof (cs : List Char) :
  ∀ t ∈ scan cs, t.kind ≠ .eof
  := by
  induction cs using scan.induct with
  | case1 cs h =>
    rw [scan_of_nil h]
    simp
  | case2 cs c r h ih =>
    rw [scan_of_skipTrivia h]
    rintro t (_ | ⟨_, ht⟩)
    · exact lexeme_kind_ne_eof _ c r
    · exact ih t ht

/-- Each token of the scan takes at least one character of the text. -/
theorem length_scan_le (cs : List Char) :
  (scan cs).length ≤ cs.length
  := by
  induction cs using scan.induct with
  | case1 cs h =>
    rw [scan_of_nil h]
    exact Nat.zero_le _
  | case2 cs c r h ih =>
    have h1 := (skipTrivia_suffix cs).length_le
    have h2 := (lexeme_suffix (illegalLiteral cs) c r).length_le
    rw [h, List.length_cons] at h1
    rw [scan_of_skipTrivia h, List.length_cons]
    omega

/-- Lexer progress: on every text, each call that does not return the end token moves the lexer
on by at least one character, the first end token is returned within one call more than the text
has characters, and every call from then on returns the end token again. -/
theorem calls_reach_end (s : String) :
  (∀ k, (call s.toList k).kind ≠ .eof →
    ∃ d, 0 < d ∧ afterCalls s.toList (k + 1) = (afterCalls s.toList k).drop d) ∧
  ∃ k ≤ s.length, (∀ j < k, (call s.toList j).kind ≠ .eof) ∧
    ∀ j, k ≤ j → call s.toList j = Token.eof
  := by
  refine ⟨fun k hk => next_advances hk, (scan s.toList).length, ?_, fun j hj => ?_, fun j hj => ?_⟩
  · exact length_scan_le s.toList
  · rw [call_eq_getD_scan, List.getD_eq_getElem?_getD, List.getElem?_eq_getElem hj,
      Option.getD_some]
    exact scan_kind_ne_eof _ _ (List.getElem_mem hj)
  · rw [call_eq_getD_scan, List.getD_eq_getElem?_getD, List.getElem?_eq_none hj, Option.getD_none]

end Token

end Monkey
