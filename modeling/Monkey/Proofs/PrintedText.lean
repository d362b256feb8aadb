import Monkey.Proofs.Printable

/-!
# Reading printed text

The printer writes a printable tree as a text that the lexer reads as the tree's tokens
(`Expr.Written`). The reading is compositional: `Token.ReadsAs s ts` says that `s` is read as
`ts` wherever it stands, after any blanks and before any text whose first character the last
of `ts` does not go on with. Texts that read so can be joined when the first character of the
second does not go on with the last token of the first (`ReadsAs.append`), and a space before a
text changes nothing (`ReadsAs.space`).

The printer puts only blanks, brackets and separators after an expression, and a bracket or a
separator glues to nothing after it (`Token.gluesTo_stop`, `Token.gluesTo_punct`). An
expression's text never starts with `=`, so `!` before it stays a token of its own. Hence each
printable expression, statement and program is printed, and read back as its tokens
(`Expr.Written.reads`, `Program.scan_render`).
-/

namespace Monkey

namespace TokenKind

/-- The brackets and the separators. -/
def isPunct : TokenKind → Bool
  | lparen | rparen | lbracket | rbracket | lbrace | rbrace | comma | colon | semicolon => true
  | _ => false

end TokenKind

namespace Token

open Lexer

/-- The text `s` is read as the tokens `ts` wherever it stands: after any blanks, and before
any text whose first character the last of them does not go on with. -/
def ReadsAs (s : String) (ts : List Token) : Prop :=
  ∀ bs rest, (∀ b ∈ bs, isBlank b = true) →
    (∀ d ∈ rest.head?, ∀ t ∈ ts.getLast?, t.gluesTo d = false) →
    scan (bs ++ s.toList ++ rest) = ts ++ scan rest

/-- The characters that no token goes on with: a space, the brackets and the separators. -/
def stops : List Char := [' ', '(', ')', '[', ']', '\x7b', '\x7d', ',', ':', ';']

theorem gluesTo_stop (t : Token) {c : Char} (hc : c ∈ stops) :
  t.gluesTo c = false
  := by
  simp only [stops, List.mem_cons, List.not_mem_nil, or_false] at hc
  unfold gluesTo
  rcases hc with rfl | rfl | rfl | rfl | rfl | rfl | rfl | rfl | rfl | rfl <;>
    split_ifs <;> simp [isNumeral, isDigit, isWordChar]

/-- Nothing written after a bracket or a separator goes on with it. -/
theorem gluesTo_punct {k : TokenKind} (hk : k.isPunct = true) (c : Char) :
  (sym k).gluesTo c = false
  := by
  cases k <;> simp [TokenKind.isPunct] at hk <;>
    simp [gluesTo, sym, TokenKind.name, isWordChar]

/-- A bracket or a separator is written as a stop. -/
theorem head_name_mem_stops {k : TokenKind} (hk : k.isPunct = true) :
  ∀ c ∈ k.name.toList.head?, c ∈ stops
  := by
  cases k <;> simp_all [TokenKind.isPunct, TokenKind.name, stops]

/-- A junction is sound when the second text starts with a stop. -/
theorem junction_of_stop {b : String} (hb : ∀ c ∈ b.toList.head?, c ∈ stops) (ts : List Token) :
  ∀ d ∈ b.toList.head?, ∀ t ∈ ts.getLast?, t.gluesTo d = false
  := fun d hd t _ => gluesTo_stop t (hb d hd)

namespace ReadsAs

variable {a b : String} {ts us : List Token}

theorem scan_eq (h : ReadsAs a ts) :
  scan a.toList = ts
  := by
  have := h [] [] (by simp) (by simp)
  simpa [scan_blanks] using this

/-- A spelled canonical token is read as itself. -/
theorem token {t : Token} (ht : t.Canonical) :
  ReadsAs t.spelling [t]
  := by
  intro bs rest hbs hr
  exact scan_blanks_spelling ht hbs (fun d hd => hr d hd t rfl)

/-- A space before a text changes nothing of its reading. -/
theorem space (h : ReadsAs b us) :
  ReadsAs (" " ++ b) us
  := by
  intro bs rest hbs hr
  have hbs' : ∀ c ∈ bs ++ [' '], isBlank c = true := by
    intro c hc
    rcases List.mem_append.1 hc with hc | hc
    · exact hbs c hc
    · rw [List.mem_singleton.1 hc]
      rfl
  simpa using h (bs ++ [' ']) rest hbs' hr

theorem toList_ne_nil (h : ReadsAs b us) (hus : us ≠ []) :
  b.toList ≠ []
  := by
  intro hb
  have := h [] [] (by simp) (by simp)
  simp [hb, scan_blanks] at this
  exact hus this

/-- Two texts read one after the other, when the first character of the second does not go
on with the last token of the first. -/
theorem append (ha : ReadsAs a ts) (hb : ReadsAs b us) (hus : us ≠ [])
    (hj : ∀ d ∈ b.toList.head?, ∀ t ∈ ts.getLast?, t.gluesTo d = false) :
  ReadsAs (a ++ b) (ts ++ us)
  := by
  intro bs rest hbs hr
  obtain ⟨c, cs, hc⟩ := List.exists_cons_of_ne_nil (hb.toList_ne_nil hus)
  have hlast : (ts ++ us).getLast? = us.getLast? := by
    rw [List.getLast?_append]
    obtain ⟨u, hu⟩ := Option.isSome_iff_exists.1 (List.getLast?_isSome.2 hus)
    simp [hu]
  have h1 := ha bs (b.toList ++ rest) hbs (by rw [hc]; simpa [hc] using hj)
  have h2 := hb [] rest (by simp) (by rw [← hlast]; exact hr)
  have e : bs ++ (a ++ b).toList ++ rest = bs ++ a.toList ++ (b.toList ++ rest) := by simp
  rw [e, h1, List.append_assoc]
  simpa using h2

/-- A text that starts with a stop, read after any text. -/
theorem append_stop (ha : ReadsAs a ts) (hb : ReadsAs b us) (hus : us ≠ [])
    (hs : ∀ c ∈ b.toList.head?, c ∈ stops) :
  ReadsAs (a ++ b) (ts ++ us)
  := ha.append hb hus (junction_of_stop hs ts)

/-- A text read after tokens the last of which nothing goes on with. -/
theorem append_sealed (ha : ReadsAs a ts) (hb : ReadsAs b us) (hus : us ≠ [])
    (hs : ∀ t ∈ ts.getLast?, ∀ c, t.gluesTo c = false) :
  ReadsAs (a ++ b) (ts ++ us)
  := ha.append hb hus fun d _ t ht => hs t ht d

end ReadsAs

theorem sealed_punct {ts : List Token} {k : TokenKind} (hk : k.isPunct = true) :
  ∀ t ∈ (ts ++ [sym k]).getLast?, ∀ c, t.gluesTo c = false
  := by
  intro t ht c
  rw [List.getLast?_concat, Option.mem_def, Option.some.injEq] at ht
  subst ht
  exact gluesTo_punct hk c

theorem sealed_sym {k : TokenKind} (hk : k.isPunct = true) :
  ∀ t ∈ [sym k].getLast?, ∀ c, t.gluesTo c = false
  := @sealed_punct [] k hk

/-! ### The tokens of the fragment -/

theorem spelling_of_ne_string {t : Token} (h : t.kind ≠ .string) :
  t.spelling = t.literal
  := by
  simp [spelling, h]

theorem canonical_sym {k : TokenKind} (hk : k.isSymbol = true) :
  (sym k).Canonical
  := Canonical.symbol hk

theorem reads_sym {k : TokenKind} (hk : k.isSymbol = true) :
  ReadsAs k.name [sym k]
  := by
  have h := ReadsAs.token (canonical_sym hk)
  rwa [spelling_of_ne_string (by cases k <;> simp_all [TokenKind.isSymbol, sym])] at h

theorem reads_word {w : String} (hw : w ≠ "") (hc : ∀ c ∈ w.toList, c.isAlpha ∨ c = '_') :
  ReadsAs w [word w]
  := by
  have h := ReadsAs.token (Canonical.word hw hc)
  rwa [spelling_of_ne_string (Canonical.ofWord_ne_string w)] at h

theorem IsName.reads {t : Token} (ht : t.IsName) :
  ReadsAs t.literal [t]
  := by
  have h := ReadsAs.token ht.1.canonical
  rwa [spelling_of_ne_string (by rw [ht.2]; simp)] at h

end Token

theorem Numeral.canonical {t : Token} {v : Number} (h : Numeral t v) :
  t.Canonical
  := by
  cases h with
  | int hne hd _ => exact Token.canonical_numeral hne hd
  | @point ds fs hne hd =>
    obtain ⟨d, ds', rfl⟩ := List.exists_cons_of_ne_nil hne
    have hc := @Token.Canonical.number d (ds' ++ '.' :: fs) (hd d (by simp)) (by
      intro c hc
      simp only [List.mem_append, List.mem_cons] at hc
      rcases hc with hc | rfl | hc
      · exact Or.inl (hd c (by simp [hc]))
      · exact Or.inr rfl
      · exact Or.inl (hd c (by simp [hc])))
    simpa using hc

theorem Numeral.reads {t : Token} {v : Number} (h : Numeral t v) :
  Token.ReadsAs t.literal [t]
  := by
  have hr := Token.ReadsAs.token h.canonical
  rwa [Token.spelling_of_ne_string (by cases h <;> simp)] at hr

/-! ### The printer's equations

The text of each printable node from the texts of its parts. Each equation is read off the
printer's definition by unfolding it (`show`), so that none of them has to wait for the
equation lemmas of the whole mutual printer. -/

section Printer

variable {t : Token} {sl sr sk sf sb sc sy sn : String} {ss : List String}

theorem Expr.render_prefixOp {op : String} {r : Expr} (hr : r.render = .ok sr) :
  (Expr.prefixOp t op (some r)).render = .ok ("(" ++ (op ++ sr) ++ ")")
  := by
  show (do let s ← r.render; pure ("(" ++ op ++ s ++ ")")) = _
  rw [hr, ← String.append_assoc]
  rfl

theorem Expr.render_infixOp {op : String} {l r : Expr} (hl : l.render = .ok sl)
    (hr : r.render = .ok sr) :
  (Expr.infixOp t (some l) op (some r)).render
    = .ok ("(" ++ (sl ++ " " ++ op ++ " " ++ sr) ++ ")")
  := by
  show (do
    let a ← l.render; let b ← r.render
    pure ("(" ++ a ++ " " ++ op ++ " " ++ b ++ ")")) = _
  simp only [hl, hr, ← String.append_assoc]
  rfl

theorem Expr.render_index {l k : Expr} (hl : l.render = .ok sl) (hk : k.render = .ok sk) :
  (Expr.index t (some l) (some k)).render = .ok ("(" ++ (sl ++ "[" ++ sk ++ "]") ++ ")")
  := by
  show (do let a ← l.render; let b ← k.render; pure ("(" ++ a ++ "[" ++ b ++ "])")) = _
  rw [hl, hk]
  show Except.ok _ = Except.ok _
  simp [String.append_assoc]

theorem Expr.render_call {f : Expr} {as : List (Option Expr)} (hf : f.render = .ok sf)
    (ha : Expr.renderList as = .ok ss) :
  (Expr.call t (some f) (some as)).render = .ok (sf ++ "(" ++ joinWith ", " ss ++ ")")
  := by
  show (do
    let xs ← Expr.renderList as; let s ← f.render
    pure (s ++ "(" ++ joinWith ", " xs ++ ")")) = _
  rw [ha, hf]
  rfl

theorem Expr.render_array {as : List (Option Expr)} (ha : Expr.renderList as = .ok ss) :
  (Expr.array t (some as)).render = .ok ("[" ++ joinWith ", " ss ++ "]")
  := by
  show (do let xs ← Expr.renderList as; pure ("[" ++ joinWith ", " xs ++ "]")) = _
  rw [ha]
  rfl

theorem Expr.render_hash {ps : List (Option Expr × Option Expr)}
    (hp : Expr.renderPairs ps = .ok ss) :
  (Expr.hash t ps).render = .ok ("\x7b" ++ joinWith ", " ss ++ "\x7d")
  := by
  show (do let xs ← Expr.renderPairs ps; pure ("\x7b" ++ joinWith ", " xs ++ "\x7d")) = _
  rw [hp]
  rfl

theorem Expr.render_function {xs : List Ident} {b : Block} (hb : b.render = .ok sb) :
  (Expr.function t (some xs) b).render
    = .ok (t.literal ++ "(" ++ joinWith ", " (xs.map (·.name)) ++ ") " ++ sb)
  := by
  show (do
    let s ← b.render
    pure (t.literal ++ "(" ++ joinWith ", " (xs.map Ident.name) ++ ") " ++ s)) = _
  rw [hb]
  rfl

theorem Expr.render_classDef {b : Block} (hb : b.render = .ok sb) :
  (Expr.classDef t b).render = .ok (t.literal ++ sb)
  := by
  show (do let s ← b.render; pure (t.literal ++ s)) = _
  rw [hb]
  rfl

theorem Expr.render_ifThen {c : Expr} {y : Block} (hc : c.render = .ok sc)
    (hy : y.render = .ok sy) :
  (Expr.ifElse t (some c) y none).render = .ok ("if" ++ sc ++ " " ++ sy)
  := by
  show (do let a ← c.render; let b ← y.render; pure ("if" ++ a ++ " " ++ b)) = _
  rw [hc, hy]
  rfl

theorem Expr.render_ifElse {c : Expr} {y n : Block} (hc : c.render = .ok sc)
    (hy : y.render = .ok sy) (hn : n.render = .ok sn) :
  (Expr.ifElse t (some c) y (some n)).render
    = .ok ("if" ++ sc ++ " " ++ sy ++ "else " ++ sn)
  := by
  show (do
    let a ← c.render; let b ← y.render; let m ← n.render
    pure ("if" ++ a ++ " " ++ b ++ "else " ++ m)) = _
  rw [hc, hy, hn]
  rfl

theorem Expr.renderList_cons {e : Expr} {as : List (Option Expr)} (he : e.render = .ok sl)
    (ha : Expr.renderList as = .ok ss) :
  Expr.renderList (some e :: as) = .ok (sl :: ss)
  := by
  show (do let s ← e.render; let xs ← Expr.renderList as; pure (s :: xs)) = _
  rw [he, ha]
  rfl

theorem Expr.renderPairs_cons {k v : Expr} {ps : List (Option Expr × Option Expr)}
    (hk : k.render = .ok sk) (hv : v.render = .ok sr) (hp : Expr.renderPairs ps = .ok ss) :
  Expr.renderPairs ((some k, some v) :: ps) = .ok ((sk ++ ":" ++ sr) :: ss)
  := by
  show (do
    let a ← k.render; let b ← v.render; let xs ← Expr.renderPairs ps
    pure ((a ++ ":" ++ b) :: xs)) = _
  rw [hk, hv, hp]
  rfl

theorem Block.render_mk {ss' : List Stmt} (h : Stmt.renderList ss' = .ok ss) :
  (Block.mk t ss').render = .ok ("\x7b" ++ joinWith " " ss ++ "\x7d")
  := by
  show (do let xs ← Stmt.renderList ss'; pure ("\x7b" ++ joinWith " " xs ++ "\x7d")) = _
  rw [h]
  rfl

theorem Stmt.render_letStmt {x : Ident} {e : Expr} {f : Option Ident} (he : e.render = .ok sl) :
  (Stmt.letStmt t x (some e) f).render = .ok (t.literal ++ " " ++ x.name ++ " = " ++ sl ++ ";")
  := by
  show (do let s ← e.render; pure (t.literal ++ " " ++ x.name ++ " = " ++ s ++ ";")) = _
  rw [he]
  rfl

theorem Stmt.render_returnStmt {v : Option Expr} (he : Expr.renderIfAny v = .ok sl) :
  (Stmt.returnStmt t v).render = .ok (t.literal ++ " " ++ sl ++ ";")
  := by
  show (do let s ← Expr.renderIfAny v; pure (t.literal ++ " " ++ s ++ ";")) = _
  rw [he]
  rfl

theorem Stmt.render_exprStmt {e : Expr} (he : e.render = .ok sl) :
  (Stmt.exprStmt t (some e)).render = .ok (sl ++ ";")
  := by
  show (do let s ← e.render; pure (s ++ ";")) = _
  rw [he]
  rfl

theorem Stmt.render_assign {x : Ident} {e : Expr} (he : e.render = .ok sl) :
  (Stmt.assign t x (some e)).render = .ok (x.name ++ " = " ++ sl ++ ";")
  := by
  show (do let s ← e.render; pure (x.name ++ " = " ++ s ++ ";")) = _
  rw [he]
  rfl

theorem Stmt.renderList_cons {st : Stmt} {sts : List Stmt} (hs : st.render = .ok sl)
    (h : Stmt.renderList sts = .ok ss) :
  Stmt.renderList (st :: sts) = .ok (sl :: ss)
  := by
  show (do let s ← st.render; let xs ← Stmt.renderList sts; pure (s :: xs)) = _
  rw [hs, h]
  rfl

end Printer

/-- A list joined with separators: the first, then each other after the separator. -/
theorem joinWith_cons (sep s : String) (ss : List String) :
  joinWith sep (s :: ss) = s ++ String.join (ss.map (sep ++ ·))
  := by
  induction ss generalizing s with
  | nil => simp [joinWith]
  | cons s' ss ih =>
    rw [joinWith.eq_3 _ _ _ (List.cons_ne_nil _ _), ih]
    simp [String.append_assoc]

theorem Token.IsName.head_ne_eq {t : Token} (ht : t.IsName) :
  '=' ∉ t.literal.toList.head?
  := by
  intro h
  obtain ⟨ha, hk⟩ := ht
  cases ha with
  | name _ hw _ =>
    have hc := (Lexer.isWordChar_iff '=').2 (hw '=' (List.mem_of_mem_head? h))
    simp [Lexer.isWordChar] at hc
  | numeral => cases hk

theorem Numeral.head_ne_eq {t : Token} {v : Number} (hn : Numeral t v) :
  '=' ∉ t.literal.toList.head?
  := by
  intro h
  cases hn with
  | int _ hd _ =>
    have hc := hd '=' (List.mem_of_mem_head? h)
    simp at hc
  | point hne hd =>
    obtain ⟨d, ds, rfl⟩ := List.exists_cons_of_ne_nil hne
    have hc := hd d (by simp)
    simp only [String.toList_ofList, List.cons_append, List.head?_cons, Option.mem_def,
      Option.some.injEq] at h
    subst h
    simp at hc

/-! ### Reading the text of each node -/

namespace Token

variable {s sl sr sk sf sb sc sy sn : String} {ts ls rs ks fs bs cs ys zs us : List Token}

theorem reads_grouped (h : ReadsAs s ts) (hts : ts ≠ []) :
  ReadsAs ("(" ++ s ++ ")") (sym .lparen :: ts ++ [sym .rparen])
  := ((reads_sym (k := .lparen) rfl).append_sealed h hts (sealed_sym rfl)).append_stop
    (reads_sym (k := .rparen) rfl) (List.cons_ne_nil _ _) (head_name_mem_stops (k := .rparen) rfl)

/-- `!` takes no `=` after it here: an expression's text starts with no `=`. -/
theorem reads_prefix {t : Token} (ht : t.IsPrefixOp) (hr : ReadsAs sr rs) (hrs : rs ≠ [])
    (heq : '=' ∉ sr.toList.head?) :
  ReadsAs (t.literal ++ sr) (t :: rs)
  := by
  have hop : ReadsAs t.literal [t] := by
    have h := ReadsAs.token ht.canonical
    rwa [spelling_of_ne_string (by rcases ht with rfl | rfl <;> simp)] at h
  refine hop.append hr hrs ?_
  intro d hd u hu
  rw [List.getLast?_singleton, Option.mem_def, Option.some.injEq] at hu
  subst hu
  have hd' : d ≠ '=' := fun h => heq (h ▸ hd)
  rcases ht with rfl | rfl <;> simp [gluesTo, hd', Lexer.isWordChar]

theorem reads_infix {t : Token} (ht : t.IsBinaryOp) (hl : ReadsAs sl ls) (hr : ReadsAs sr rs)
    (hrs : rs ≠ []) :
  ReadsAs (sl ++ " " ++ t.literal ++ " " ++ sr) (ls ++ t :: rs)
  := by
  have hop : ReadsAs t.literal [t] := by
    have h := ReadsAs.token ht.2
    have hs : t.kind ≠ .string := fun h => by
      have := ht.1
      rw [h] at this
      cases this
    rwa [spelling_of_ne_string hs] at h
  have e : sl ++ " " ++ t.literal ++ " " ++ sr = sl ++ (" " ++ t.literal) ++ (" " ++ sr) := by
    simp [String.append_assoc]
  rw [e, show ls ++ t :: rs = ls ++ [t] ++ rs by simp]
  exact (hl.append_stop hop.space (List.cons_ne_nil _ _) (by simp [stops])).append_stop
    hr.space hrs (by simp [stops])

theorem reads_index (hl : ReadsAs sl ls) (hk : ReadsAs sk ks) (hks : ks ≠ []) :
  ReadsAs (sl ++ "[" ++ sk ++ "]") (ls ++ sym .lbracket :: ks ++ [sym .rbracket])
  := by
  rw [show ls ++ sym .lbracket :: ks ++ [sym .rbracket]
      = ls ++ [sym .lbracket] ++ ks ++ [sym .rbracket] by simp]
  exact ((hl.append_stop (reads_sym (k := .lbracket) rfl) (List.cons_ne_nil _ _)
    (head_name_mem_stops (k := .lbracket) rfl)).append_sealed hk hks (sealed_punct rfl)).append_stop
    (reads_sym (k := .rbracket) rfl) (List.cons_ne_nil _ _)
    (head_name_mem_stops (k := .rbracket) rfl)

/-- The text `s` is read as `us` after any readable text. -/
def ReadsAfter (s : String) (us : List Token) : Prop :=
  ∀ a ts, ReadsAs a ts → ReadsAs (a ++ s) (ts ++ us)

/-- The text `s` is read as `us` after any readable text whose last token nothing goes on
with. -/
def ReadsAfterSealed (s : String) (us : List Token) : Prop :=
  ∀ a ts, ReadsAs a ts → (∀ t ∈ ts.getLast?, ∀ c, t.gluesTo c = false) →
    ReadsAs (a ++ s) (ts ++ us)

theorem ReadsAfter.sealed {s : String} {us : List Token} (h : ReadsAfter s us) :
  ReadsAfterSealed s us
  := fun a ts ha _ => h a ts ha

theorem readsAfterSealed_empty :
  ReadsAfterSealed "" []
  := by
  intro a ts ha _
  simpa using ha

/-- A text read after a comma and a space, after any text. -/
theorem readsAfter_comma (h : ReadsAs s ts) (hts : ts ≠ []) :
  ReadsAfter (", " ++ s) (sym .comma :: ts)
  := by
  intro a us ha
  have e : a ++ (", " ++ s) = a ++ "," ++ (" " ++ s) := by
    simp only [String.append_assoc]
    congr 1
  rw [e, show us ++ sym .comma :: ts = us ++ [sym .comma] ++ ts by simp]
  exact (ha.append_stop (reads_sym (k := .comma) rfl) (List.cons_ne_nil _ _)
    (head_name_mem_stops (k := .comma) rfl)).append_stop h.space hts (by simp [stops])

theorem ReadsAfter.append {s s' : String} {us us' : List Token} (h : ReadsAfter s us)
    (h' : ReadsAfter s' us') :
  ReadsAfter (s ++ s') (us ++ us')
  := by
  intro a ts ha
  simpa [String.append_assoc] using h' _ _ (h a ts ha)

theorem reads_call {j : String} (hf : ReadsAs sf fs) (ha : ReadsAfterSealed j us) :
  ReadsAs (sf ++ "(" ++ j ++ ")") (fs ++ sym .lparen :: us ++ [sym .rparen])
  := by
  rw [show fs ++ sym .lparen :: us ++ [sym .rparen] = fs ++ [sym .lparen] ++ us ++ [sym .rparen]
    by simp]
  have hopen := hf.append_stop (reads_sym (k := .lparen) rfl) (List.cons_ne_nil _ _)
    (head_name_mem_stops (k := .lparen) rfl)
  exact (ha _ _ hopen (sealed_punct rfl)).append_stop (reads_sym (k := .rparen) rfl)
    (List.cons_ne_nil _ _) (by simp [stops])

theorem reads_array {j : String} (ha : ReadsAfterSealed j us) :
  ReadsAs ("[" ++ j ++ "]") (sym .lbracket :: us ++ [sym .rbracket])
  := (ha _ [sym .lbracket] (reads_sym (k := .lbracket) rfl) (sealed_sym rfl)).append_stop
    (reads_sym (k := .rbracket) rfl) (List.cons_ne_nil _ _)
    (head_name_mem_stops (k := .rbracket) rfl)

/-- A hash literal's pairs are no text at all, or a text read as their tokens. -/
theorem reads_hash {j : String} (hp : (j = "" ∧ us = []) ∨ (us ≠ [] ∧ ReadsAs j us)) :
  ReadsAs ("\x7b" ++ j ++ "\x7d") (sym .lbrace :: us ++ [sym .rbrace])
  := by
  have hopen : ReadsAs "\x7b" [sym .lbrace] := reads_sym (k := .lbrace) rfl
  have hclose : ReadsAs "\x7d" [sym .rbrace] := reads_sym (k := .rbrace) rfl
  rcases hp with ⟨rfl, rfl⟩ | ⟨hus, hj⟩
  · exact hopen.append_stop hclose (List.cons_ne_nil _ _) (by simp [stops])
  · exact (hopen.append_sealed hj hus (sealed_sym rfl)).append_stop hclose
      (List.cons_ne_nil _ _) (by simp [stops])

/-- A parameter list: the names, separated by a comma and a space. -/
theorem reads_params {xs : List Ident} (hxs : ∀ x ∈ xs, x.token.IsName ∧ x.name = x.token.literal) :
  ReadsAfterSealed (joinWith ", " (xs.map (·.name))) (params xs)
  := by
  cases xs with
  | nil => exact readsAfterSealed_empty
  | cons x xs =>
    have hmore : ∀ ys : List Ident, (∀ y ∈ ys, y.token.IsName ∧ y.name = y.token.literal) →
        ReadsAfter (String.join ((ys.map (·.name)).map (", " ++ ·)))
          (ys.flatMap fun y => [sym .comma, y.token]) := by
      intro ys hys
      induction ys with
      | nil =>
        intro a ts ha
        simpa using ha
      | cons y ys ih =>
        have hy := hys y (by simp)
        have hfirst : ReadsAfter (", " ++ y.name) [sym .comma, y.token] := by
          rw [hy.2]
          exact readsAfter_comma hy.1.reads (List.cons_ne_nil _ _)
        have := hfirst.append (ih fun z hz => hys z (by simp [hz]))
        simpa using this
    have hx := hxs x (by simp)
    intro a ts ha hs
    rw [List.map_cons, joinWith_cons, ← String.append_assoc, params,
      show ts ++ x.token :: List.flatMap (fun y => [sym .comma, y.token]) xs
        = ts ++ [x.token] ++ List.flatMap (fun y => [sym .comma, y.token]) xs by simp]
    refine hmore xs (fun y hy => hxs y (by simp [hy])) _ _ ?_
    rw [hx.2]
    exact ha.append_sealed hx.1.reads (List.cons_ne_nil _ _) hs

/-- A block: its statements between braces. -/
theorem reads_block {j : String} (hj : ReadsAfterSealed j ts) :
  ReadsAs ("\x7b" ++ j ++ "\x7d") (braced ts)
  := (hj _ [sym .lbrace] (reads_sym (k := .lbrace) rfl) (sealed_sym rfl)).append_stop
    (reads_sym (k := .rbrace) rfl) (List.cons_ne_nil _ _) (head_name_mem_stops (k := .rbrace) rfl)

theorem braced_ne_nil (ts : List Token) :
  braced ts ≠ []
  := List.cons_ne_nil _ _

theorem reads_function {xs : List Ident} {j : String}
    (hxs : ∀ x ∈ xs, x.token.IsName ∧ x.name = x.token.literal) (hb : ReadsAfterSealed j bs) :
  ReadsAs ((word "fn").literal ++ "(" ++ joinWith ", " (xs.map (·.name)) ++ ") " ++
      ("\x7b" ++ j ++ "\x7d"))
    (word "fn" :: sym .lparen :: params xs ++ sym .rparen :: braced bs)
  := by
  have e : ∀ x : String, ") " ++ x = ")" ++ (" " ++ x) := fun x => by
    rw [← String.append_assoc]
    rfl
  have e' : (word "fn").literal ++ "(" ++ joinWith ", " (xs.map (·.name)) ++ ") " ++
      ("\x7b" ++ j ++ "\x7d") = (word "fn").literal ++ "(" ++ joinWith ", " (xs.map (·.name)) ++
      ")" ++ (" " ++ ("\x7b" ++ j ++ "\x7d")) := by
    simp only [String.append_assoc, e]
  rw [e',
    show word "fn" :: sym .lparen :: params xs ++ sym .rparen :: braced bs
      = [word "fn"] ++ [sym .lparen] ++ params xs ++ [sym .rparen] ++ braced bs by simp]
  have hopen := (reads_word (w := "fn") (by simp) (by simp)).append_stop
    (reads_sym (k := .lparen) rfl) (List.cons_ne_nil _ _) (head_name_mem_stops (k := .lparen) rfl)
  exact (((reads_params hxs) _ _ hopen (sealed_punct rfl)).append_stop
    (reads_sym (k := .rparen) rfl) (List.cons_ne_nil _ _)
    (head_name_mem_stops (k := .rparen) rfl)).append_stop
    (reads_block hb).space (braced_ne_nil _) (by simp [stops])

theorem reads_classDef {j : String} (hb : ReadsAfterSealed j bs) :
  ReadsAs ((word "class").literal ++ ("\x7b" ++ j ++ "\x7d")) (word "class" :: braced bs)
  := (reads_word (w := "class") (by simp) (by simp)).append_stop (reads_block hb) (braced_ne_nil _)
    (by simp [stops])

theorem reads_ifThen {j : String} (hc : ReadsAs sc cs) (hcs : cs ≠ [])
    (hy : ReadsAfterSealed j ys) :
  ReadsAs ("if" ++ ("(" ++ sc ++ ")") ++ " " ++ ("\x7b" ++ j ++ "\x7d"))
    (word "if" :: sym .lparen :: cs ++ sym .rparen :: braced ys)
  := by
  rw [String.append_assoc,
    show word "if" :: sym .lparen :: cs ++ sym .rparen :: braced ys
      = [word "if"] ++ (sym .lparen :: cs ++ [sym .rparen]) ++ braced ys by simp]
  exact ((reads_word (w := "if") (by simp) (by simp)).append_stop (reads_grouped hc hcs)
    (List.cons_ne_nil _ _) (by simp [stops])).append_stop (reads_block hy).space
    (braced_ne_nil _) (by simp [stops])

theorem reads_ifElse {j k : String} (hc : ReadsAs sc cs) (hcs : cs ≠ [])
    (hy : ReadsAfterSealed j ys) (hn : ReadsAfterSealed k zs) :
  ReadsAs ("if" ++ ("(" ++ sc ++ ")") ++ " " ++ ("\x7b" ++ j ++ "\x7d") ++ "else " ++
      ("\x7b" ++ k ++ "\x7d"))
    (word "if" :: sym .lparen :: cs ++ sym .rparen :: braced ys ++ word "else" :: braced zs)
  := by
  have e : ∀ x : String, "else " ++ x = "else" ++ (" " ++ x) := fun x => by
    rw [← String.append_assoc]
    rfl
  have e' : "if" ++ ("(" ++ sc ++ ")") ++ " " ++ ("\x7b" ++ j ++ "\x7d") ++ "else " ++
      ("\x7b" ++ k ++ "\x7d") = "if" ++ ("(" ++ sc ++ ")") ++ " " ++ ("\x7b" ++ j ++ "\x7d") ++
      "else" ++ (" " ++ ("\x7b" ++ k ++ "\x7d")) := by
    simp only [String.append_assoc, e]
  rw [e',
    show word "if" :: sym .lparen :: cs ++ sym .rparen :: braced ys ++ word "else" :: braced zs
      = (word "if" :: sym .lparen :: cs ++ sym .rparen :: braced ys) ++ [word "else"] ++ braced zs
      by simp]
  exact ((reads_ifThen hc hcs hy).append_sealed (reads_word (w := "else") (by simp) (by simp))
    (List.cons_ne_nil _ _) (by
      rw [show word "if" :: sym .lparen :: cs ++ sym .rparen :: braced ys
        = (word "if" :: sym .lparen :: cs ++ sym .rparen :: sym .lbrace :: ys) ++ [sym .rbrace]
        by simp [braced]]
      exact sealed_punct rfl)).append_stop
    (reads_block hn).space (braced_ne_nil _) (by simp [stops])

theorem reads_pair (hk : ReadsAs sk ks) (hv : ReadsAs sr rs) (hrs : rs ≠ []) :
  ReadsAs (sk ++ ":" ++ sr) (ks ++ sym .colon :: rs)
  := by
  rw [show ks ++ sym .colon :: rs = ks ++ [sym .colon] ++ rs by simp]
  exact (hk.append_stop (reads_sym (k := .colon) rfl) (List.cons_ne_nil _ _)
    (head_name_mem_stops (k := .colon) rfl)).append_sealed hv hrs (sealed_punct rfl)

theorem reads_letStmt {t : Token} (ht : t.IsName) (he : ReadsAs s es) (hes : es ≠ []) :
  ReadsAs ((word "let").literal ++ " " ++ t.literal ++ " = " ++ s ++ ";")
    (word "let" :: t :: sym .assign :: es ++ [sym .semicolon])
  := by
  have e : (word "let").literal ++ " " ++ t.literal ++ " = " ++ s ++ ";"
      = "let" ++ (" " ++ t.literal) ++ (" " ++ "=") ++ (" " ++ s) ++ ";" := by
    rw [show " = " = " " ++ "=" ++ " " by simp]
    simp only [String.append_assoc]
    rfl
  rw [e, show word "let" :: t :: sym .assign :: es ++ [sym .semicolon]
    = [word "let"] ++ [t] ++ [sym .assign] ++ es ++ [sym .semicolon] by simp]
  exact ((((reads_word (w := "let") (by simp) (by simp)).append_stop ht.reads.space
    (List.cons_ne_nil _ _) (by simp [stops])).append_stop (reads_sym (k := .assign) rfl).space
    (List.cons_ne_nil _ _) (by simp [stops])).append_stop he.space hes
    (by simp [stops])).append_stop (reads_sym (k := .semicolon) rfl) (List.cons_ne_nil _ _)
    (head_name_mem_stops (k := .semicolon) rfl)

theorem reads_returnNone :
  ReadsAs ((word "return").literal ++ " " ++ "" ++ ";") [word "return", sym .semicolon]
  := by
  rw [String.append_empty, String.append_assoc]
  exact (reads_word (w := "return") (by simp) (by simp)).append_stop
    (reads_sym (k := .semicolon) rfl).space (List.cons_ne_nil _ _) (by simp [stops])

theorem reads_returnSome (he : ReadsAs s es) (hes : es ≠ []) :
  ReadsAs ((word "return").literal ++ " " ++ s ++ ";")
    (word "return" :: es ++ [sym .semicolon])
  := by
  have e : (word "return").literal ++ " " ++ s ++ ";"
      = (word "return").literal ++ (" " ++ s) ++ ";" := by
    simp only [String.append_assoc]
  rw [e, show word "return" :: es ++ [sym .semicolon] = [word "return"] ++ es ++ [sym .semicolon]
      by simp]
  exact ((reads_word (w := "return") (by simp) (by simp)).append_stop he.space hes
    (by simp [stops])).append_stop (reads_sym (k := .semicolon) rfl) (List.cons_ne_nil _ _)
    (head_name_mem_stops (k := .semicolon) rfl)

theorem reads_exprStmt (he : ReadsAs s es) :
  ReadsAs (s ++ ";") (es ++ [sym .semicolon])
  := he.append_stop (reads_sym (k := .semicolon) rfl) (List.cons_ne_nil _ _)
    (head_name_mem_stops (k := .semicolon) rfl)

theorem reads_assign {t : Token} (ht : t.IsName) (he : ReadsAs s es) (hes : es ≠ []) :
  ReadsAs (t.literal ++ " = " ++ s ++ ";") (t :: sym .assign :: es ++ [sym .semicolon])
  := by
  have e : t.literal ++ " = " ++ s ++ ";" = t.literal ++ (" " ++ "=") ++ (" " ++ s) ++ ";" := by
    rw [show " = " = " " ++ "=" ++ " " by simp]
    simp only [String.append_assoc]
  rw [e, show t :: sym .assign :: es ++ [sym .semicolon]
    = [t] ++ [sym .assign] ++ es ++ [sym .semicolon] by simp]
  exact ((ht.reads.append_stop (reads_sym (k := .assign) rfl).space
    (List.cons_ne_nil _ _) (by simp [stops])).append_stop he.space hes
    (by simp [stops])).append_stop (reads_sym (k := .semicolon) rfl) (List.cons_ne_nil _ _)
    (head_name_mem_stops (k := .semicolon) rfl)

theorem reads_keywordStmt {w : String} (hw : w ≠ "") (hc : ∀ c ∈ w.toList, c.isAlpha ∨ c = '_') :
  ReadsAs (w ++ ";") [word w, sym .semicolon]
  := (reads_word hw hc).append_stop (reads_sym (k := .semicolon) rfl) (List.cons_ne_nil _ _)
    (head_name_mem_stops (k := .semicolon) rfl)

/-- A piece of a statement sequence: a statement's text after nothing or after a space. -/
theorem readsAfterSealed_piece {sep : String} (hx : ReadsAs s es) (hes : es ≠ [])
    (hsep : sep = "" ∨ sep = " ") :
  ReadsAfterSealed (sep ++ s) es
  := by
  intro a ts ha hs
  rcases hsep with rfl | rfl
  · rw [String.empty_append]
    exact ha.append_sealed hx hes hs
  · exact ha.append_stop hx.space hes (by simp [stops])

theorem ReadsAfterSealed.append {j j' : String} {us us' : List Token}
    (h : ReadsAfterSealed j us) (hl : ∀ t ∈ us.getLast?, ∀ c, t.gluesTo c = false)
    (h' : ReadsAfterSealed j' us') :
  ReadsAfterSealed (j ++ j') (us ++ us')
  := by
  intro a ts ha hs
  have h1 := h a ts ha hs
  have hs' : ∀ t ∈ (ts ++ us).getLast?, ∀ c, t.gluesTo c = false := by
    intro t ht
    rw [List.getLast?_append] at ht
    cases hu : us.getLast? with
    | none => rw [hu, Option.none_or] at ht; exact hs t ht
    | some u => rw [hu, Option.some_or] at ht; exact hl t (hu ▸ ht)
  simpa [String.append_assoc] using h' _ _ h1 hs'

end Token

/-! ### Every printable tree is printed, and read back as its tokens -/

open Token

/-- Nothing goes on with the `;` that ends a statement. -/
theorem Stmt.Written.sealed {st : Stmt} {ts : List Token} (h : Stmt.Written st ts) :
  ∀ t ∈ ts.getLast?, ∀ c, t.gluesTo c = false
  := by
  rw [h.getLast?]
  intro t ht
  rw [Option.mem_def, Option.some.injEq] at ht
  subst ht
  exact gluesTo_punct rfl

theorem readsAfterSealed_first {s j : String} {es us : List Token} (he : ReadsAs s es)
    (hes : es ≠ []) (hj : ReadsAfter j us) :
  ReadsAfterSealed (s ++ j) (es ++ us)
  := by
  intro a ts ha hs
  simpa [String.append_assoc] using hj _ _ (ha.append_sealed he hes hs)

mutual

/-- A printable expression is printed, its text is read as its tokens, and the text does not
start with `=`. -/
theorem Expr.Written.reads :
  ∀ {e : Expr} {ts : List Token}, Expr.Written e ts →
    ∃ s, e.render = .ok s ∧ ReadsAs s ts ∧ '=' ∉ s.toList.head?
  | _, _, .ident ht => ⟨_, rfl, ht.reads, ht.head_ne_eq⟩
  | _, _, .number hn => ⟨_, rfl, hn.reads, hn.head_ne_eq⟩
  | _, _, .boolean true => ⟨"true", rfl, reads_word (by simp) (by simp), by simp⟩
  | _, _, .boolean false => ⟨"false", rfl, reads_word (by simp) (by simp), by simp⟩
  | _, _, .grouped hg => by
    obtain ⟨s, hr, hs⟩ := hg.reads
    exact ⟨_, hr, reads_grouped hs hg.ne_nil, by simp⟩
  | _, _, .call hf ha => by
    obtain ⟨sf, hrf, hsf, hhf⟩ := hf.reads
    obtain ⟨ss, hra, hsa⟩ := ha.reads
    refine ⟨_, Expr.render_call hrf hra, reads_call hsf hsa, ?_⟩
    obtain ⟨c, cs, hc⟩ := List.exists_cons_of_ne_nil (hsf.toList_ne_nil hf.ne_nil)
    rw [hc] at hhf
    simpa [hc] using hhf
  | _, _, .array ha => by
    obtain ⟨ss, hra, hsa⟩ := ha.reads
    exact ⟨_, Expr.render_array hra, reads_array hsa, by simp⟩
  | _, _, .hash hp => by
    obtain ⟨ss, hrp, hsp⟩ := hp.reads
    exact ⟨_, Expr.render_hash hrp, reads_hash hsp, by simp⟩
  | _, _, .function hxs hb => by
    obtain ⟨xs, hrb, -, hsb⟩ := hb.reads
    exact ⟨_, Expr.render_function (Block.render_mk hrb), reads_function hxs hsb, by simp [word]⟩
  | _, _, .classDef hb => by
    obtain ⟨xs, hrb, -, hsb⟩ := hb.reads
    exact ⟨_, Expr.render_classDef (Block.render_mk hrb), reads_classDef hsb, by simp [word]⟩
  | _, _, .ifThen hg hy => by
    obtain ⟨sc, hrc, hsc⟩ := hg.reads
    obtain ⟨ys, hry, -, hsy⟩ := hy.reads
    exact ⟨_, Expr.render_ifThen hrc (Block.render_mk hry), reads_ifThen hsc hg.ne_nil hsy,
      by simp⟩
  | _, _, .ifElse hg hy hn => by
    obtain ⟨sc, hrc, hsc⟩ := hg.reads
    obtain ⟨ys, hry, -, hsy⟩ := hy.reads
    obtain ⟨zs, hrn, -, hsn⟩ := hn.reads
    exact ⟨_, Expr.render_ifElse hrc (Block.render_mk hry) (Block.render_mk hrn),
      reads_ifElse hsc hg.ne_nil hsy hsn, by simp⟩

/-- An expression printed between parentheses: the text inside them is read as the tokens
inside them. -/
theorem Expr.Grouped.reads :
  ∀ {e : Expr} {ts : List Token}, Expr.Grouped e ts →
    ∃ s, e.render = .ok ("(" ++ s ++ ")") ∧ ReadsAs s ts
  | _, _, .prefixOp ht hr => by
    obtain ⟨sr, hrr, hsr, hhr⟩ := hr.reads
    exact ⟨_, Expr.render_prefixOp hrr, reads_prefix ht hsr hr.ne_nil hhr⟩
  | _, _, .infixOp ht hl hr => by
    obtain ⟨sl, hrl, hsl, -⟩ := hl.reads
    obtain ⟨sr, hrr, hsr, -⟩ := hr.reads
    exact ⟨_, Expr.render_infixOp hrl hrr, reads_infix ht hsl hsr hr.ne_nil⟩
  | _, _, .index hl hk => by
    obtain ⟨sl, hrl, hsl, -⟩ := hl.reads
    obtain ⟨sk, hrk, hsk, -⟩ := hk.reads
    exact ⟨_, Expr.render_index hrl hrk, reads_index hsl hsk hk.ne_nil⟩

/-- A list of arguments is read after a bracket. -/
theorem Expr.Args.reads :
  ∀ {as : List (Option Expr)} {us : List Token}, Expr.Args as us →
    ∃ ss, Expr.renderList as = .ok ss ∧ ReadsAfterSealed (joinWith ", " ss) us
  | _, _, .nil => ⟨[], rfl, readsAfterSealed_empty⟩
  | _, _, .cons he hm => by
    obtain ⟨s, hre, hse, -⟩ := he.reads
    obtain ⟨ss, hrm, hsm⟩ := hm.reads
    refine ⟨s :: ss, Expr.renderList_cons hre hrm, ?_⟩
    rw [joinWith_cons]
    exact readsAfterSealed_first hse he.ne_nil hsm

/-- The arguments after the first are read after any text. -/
theorem Expr.More.reads :
  ∀ {as : List (Option Expr)} {us : List Token}, Expr.More as us →
    ∃ ss, Expr.renderList as = .ok ss ∧ ReadsAfter (String.join (ss.map (", " ++ ·))) us
  | _, _, .nil => ⟨[], rfl, fun a ts ha => by simpa using ha⟩
  | _, _, .cons he hm => by
    obtain ⟨s, hre, hse, -⟩ := he.reads
    obtain ⟨ss, hrm, hsm⟩ := hm.reads
    refine ⟨s :: ss, Expr.renderList_cons hre hrm, ?_⟩
    rw [List.map_cons, String.join_cons]
    exact (readsAfter_comma hse he.ne_nil).append hsm

/-- The pairs of a hash literal are no text, or a text read as their tokens. -/
theorem Expr.Pairs.reads :
  ∀ {ps : List (Option Expr × Option Expr)} {us : List Token},
    Expr.Pairs ps us → ∃ ss, Expr.renderPairs ps = .ok ss ∧
      ((joinWith ", " ss = "" ∧ us = []) ∨ (us ≠ [] ∧ ReadsAs (joinWith ", " ss) us))
  | _, _, .nil => ⟨[], rfl, Or.inl ⟨rfl, rfl⟩⟩
  | _, _, .one hk hv => by
    obtain ⟨sk, hrk, hsk, -⟩ := hk.reads
    obtain ⟨sv, hrv, hsv, -⟩ := hv.reads
    exact ⟨_, Expr.renderPairs_cons hrk hrv rfl,
      Or.inr ⟨by simp, reads_pair hsk hsv hv.ne_nil⟩⟩
  | _, _, .cons hk hv hp => by
    obtain ⟨sk, hrk, hsk, -⟩ := hk.reads
    obtain ⟨sv, hrv, hsv, -⟩ := hv.reads
    obtain ⟨ss, hrp, hsp⟩ := hp.reads
    obtain ⟨hus, hsp⟩ := hsp.resolve_left fun h => hp.ne_nil h.2
    refine ⟨_, Expr.renderPairs_cons hrk hrv hrp, Or.inr ⟨by simp, ?_⟩⟩
    cases ss with
    | nil => exact absurd rfl (hsp.toList_ne_nil hus)
    | cons x ss =>
      have h := readsAfter_comma hsp hus _ _ (reads_pair hsk hsv hv.ne_nil)
      simpa [joinWith, String.append_assoc] using h

/-- A printable statement is printed, and its text is read as its tokens. -/
theorem Stmt.Written.reads :
  ∀ {st : Stmt} {ts : List Token}, Stmt.Written st ts →
    ∃ x, st.render = .ok x ∧ ReadsAs x ts
  | _, _, .letStmt ht he => by
    obtain ⟨s, hr, hs, -⟩ := he.reads
    exact ⟨_, Stmt.render_letStmt hr, reads_letStmt ht hs he.ne_nil⟩
  | _, _, .returnNone => ⟨_, Stmt.render_returnStmt rfl, reads_returnNone⟩
  | _, _, .returnSome he => by
    obtain ⟨s, hr, hs, -⟩ := he.reads
    exact ⟨_, Stmt.render_returnStmt hr, reads_returnSome hs he.ne_nil⟩
  | _, _, .exprStmt he => by
    obtain ⟨s, hr, hs, -⟩ := he.reads
    exact ⟨_, Stmt.render_exprStmt hr, reads_exprStmt hs⟩
  | _, _, .assign ht he => by
    obtain ⟨s, hr, hs, -⟩ := he.reads
    exact ⟨_, Stmt.render_assign hr, reads_assign ht hs he.ne_nil⟩
  | _, _, .breakStmt =>
    ⟨"break" ++ ";", by show Except.ok "break;" = _; simp, reads_keywordStmt (by simp) (by simp)⟩
  | _, _, .continueStmt =>
    ⟨"continue" ++ ";", by show Except.ok "continue;" = _; simp,
      reads_keywordStmt (by simp) (by simp)⟩

/-- A sequence of printable statements is printed; the texts of its statements, each after
nothing or after a space, are read as its tokens after a token nothing goes on with, and so
are the texts joined by spaces. -/
theorem Stmt.Seq.reads :
  ∀ {ss : List Stmt} {ts : List Token}, Stmt.Seq ss ts →
    ∃ xs, Stmt.renderList ss = .ok xs ∧
      (∀ sep, (sep = "" ∨ sep = " ") → ReadsAfterSealed (String.join (xs.map (sep ++ ·))) ts) ∧
      ReadsAfterSealed (joinWith " " xs) ts
  | _, _, .nil => ⟨[], rfl, fun _ _ => readsAfterSealed_empty, readsAfterSealed_empty⟩
  | _, _, .cons hs hss => by
    obtain ⟨x, hrx, hx⟩ := hs.reads
    obtain ⟨xs, hrxs, hpieces, -⟩ := hss.reads
    refine ⟨x :: xs, Stmt.renderList_cons hrx hrxs, fun sep hsep => ?_, ?_⟩
    · rw [List.map_cons, String.join_cons]
      exact (readsAfterSealed_piece hx hs.ne_nil hsep).append hs.sealed (hpieces sep hsep)
    · rw [joinWith_cons]
      have := (readsAfterSealed_piece hx hs.ne_nil (Or.inl rfl)).append hs.sealed
        (hpieces " " (Or.inr rfl))
      simpa using this

end

/-- The text of a printable program is read as the tokens of its statements, one after
another. -/
theorem Program.scan_render {ss : List Stmt} {ts : List Token} (h : Stmt.Seq ss ts) :
  ∃ s, (Program.mk ss).render = .ok s ∧ Token.scan s.toList = ts
  := by
  cases h with
  | nil => exact ⟨"", rfl, Token.scan_blanks (by simp)⟩
  | cons hs hss =>
    obtain ⟨x, hrx, hx⟩ := hs.reads
    obtain ⟨xs, hrxs, hpieces, -⟩ := hss.reads
    have h := hpieces "" (Or.inl rfl) x _ hx hs.sealed
    simp only [String.empty_append, List.map_id_fun', id_eq] at h
    refine ⟨String.join (x :: xs), ?_, by rw [String.join_cons]; exact h.scan_eq⟩
    simp only [Program.render, Stmt.renderList_cons hrx hrxs]
    rfl

end Monkey
