import TypedRows.Proofs.Text.Numeral
import TypedRows.Sql.Token.Lexer

namespace TypedRows.Sql

open Text

namespace Token

def placeholder? : Token → Option String
  | placeholder s => some s
  | _ => none

end Token

namespace Lexer

-- The tokens of the first `n` cuts, and what follows them.
def cuts? (d : Dialect) : (n : Nat) → List Char → Option (List Token × List Char)
  | 0, cs => some ([], cs)
  | _ + 1, [] => none
  | n + 1, c :: cs =>
    match cut? d c cs with
    | none => none
    | some (t, mid) => (cuts? d n mid).map fun (ts, rest) => (t.toList ++ ts, rest)

variable {d : Dialect} {m n fuel : Nat} {c q : Char} {cs mid rest read : List Char}
  {t : Option Token} {ts us : List Token}

theorem cuts?_succ (hc : cut? d c cs = some (t, mid)) (h : cuts? d n mid = some (ts, rest)) :
    cuts? d (n + 1) (c :: cs) = some (t.toList ++ ts, rest) := by
  rw [cuts?, hc]
  simp [h]

theorem cuts?_one (hc : cut? d c cs = some (t, rest)) :
    cuts? d 1 (c :: cs) = some (t.toList, rest) := by
  have hn : cuts? d 0 rest = some ([], rest) := rfl
  simpa using cuts?_succ hc hn

theorem cuts?_succ_inv (h : cuts? d (n + 1) cs = some (ts, rest)) :
    ∃ c tail t mid us, cs = c :: tail ∧ cut? d c tail = some (t, mid) ∧
      cuts? d n mid = some (us, rest) ∧ ts = t.toList ++ us := by
  cases cs
  case nil => contradiction
  case cons c tail =>
    rw [cuts?] at h
    split at h
    case h_1 => contradiction
    case h_2 t mid hc =>
      obtain ⟨⟨us, rest⟩, hm, he⟩ := Option.map_eq_some_iff.mp h
      obtain ⟨rfl, rfl⟩ := Prod.mk.inj he
      exact ⟨c, tail, t, mid, us, rfl, hc, hm, rfl⟩

theorem cuts?_add (h : cuts? d m cs = some (ts, mid)) (h' : cuts? d n mid = some (us, rest)) :
    cuts? d (m + n) cs = some (ts ++ us, rest) := by
  induction m generalizing cs ts
  case zero =>
    obtain ⟨rfl, rfl⟩ := Prod.mk.inj (Option.some.inj h)
    rwa [Nat.zero_add]
  case succ m hi =>
    obtain ⟨c, tail, t, mid, vs, rfl, hc, hm, rfl⟩ := cuts?_succ_inv h
    rw [Nat.succ_add, cuts?_succ hc (hi hm), List.append_assoc]

-- Every cut uses up one unit of fuel.
theorem tokensFrom_cuts {before : List Token} (h : cuts? d n cs = some (ts, []))
    (hf : n ≤ fuel) : tokensFrom d before fuel cs = some (before.reverse ++ ts) := by
  induction n generalizing before fuel cs ts
  case zero =>
    obtain ⟨rfl, rfl⟩ := Prod.mk.inj (Option.some.inj h)
    simp [tokensFrom]
  case succ n hi =>
    obtain ⟨c, tail, t, mid, us, rfl, hc, hm, rfl⟩ := cuts?_succ_inv h
    obtain ⟨fuel, rfl⟩ : ∃ k, fuel = k + 1 := ⟨fuel - 1, by omega⟩
    have hf : n ≤ fuel := Nat.le_of_succ_le_succ hf
    cases t
    case none => simp [tokensFrom, hc, hi hm hf]
    case some t => simp [tokensFrom, hc, hi hm hf]

section Cuts

-- What ends a word, a name or a placeholder in a statement.
def isBreak (c : Char) : Bool :=
  [' ', ',', ')'].contains c

def Breaks (rest : List Char) : Prop :=
  ∀ c ∈ rest.head?, isBreak c

theorem Breaks.head (h : Breaks rest) {p : Char → Bool}
    (hp : [' ', ',', ')'].all fun c => !p c) : ∀ c ∈ rest.head?, p c = false := by
  intro c hc
  simpa using List.all_eq_true.mp hp c (List.contains_iff_mem.mp (h c hc))

theorem prefixed?_eq (hc : c.toUpper ∉ ['N', 'X', 'B', 'E', 'U']) (other : Option Cut) :
    prefixed? d (c :: rest) other = other := by
  simp only [List.mem_cons, List.not_mem_nil, or_false, not_or] at hc
  unfold prefixed?
  split
  case h_1 h =>
    obtain ⟨rfl, _⟩ := List.cons.inj h
    split <;> simp_all
  case h_2 h => obtain ⟨rfl, _⟩ := List.cons.inj h; simp [hc]
  case h_3 h => obtain ⟨rfl, _⟩ := List.cons.inj h; simp [hc]
  case h_4 => rfl

theorem cut?_blank (d : Dialect) (rest : List Char) : cut? d ' ' rest = some (none, rest) := by
  rw [cut?, prefixed?_eq (by decide)]
  cases d <;> rfl

theorem cut?_parenthesis (d : Dialect) (rest : List Char) :
    cut? d '(' rest = some (some (.symbol "("), rest) := by
  rw [cut?, prefixed?_eq (by decide)]
  cases d <;> rfl

theorem quotedText_doubled (h : rest.head? ≠ some q)
    (hf : (Dialect.doubled q cs ++ q :: rest).length ≤ fuel) :
    quotedText q none read fuel (Dialect.doubled q cs ++ q :: rest) =
      some (read.reverse ++ cs, rest) := by
  induction cs generalizing read fuel
  case nil =>
    obtain ⟨fuel, rfl⟩ : ∃ k, fuel = k + 1 := ⟨fuel - 1, by simp [Dialect.doubled] at hf; omega⟩
    cases rest
    case nil => simp [Dialect.doubled, quotedText]
    case cons x rest =>
      have hx : x ≠ q := by simpa using h
      simp [Dialect.doubled, quotedText, hx]
  case cons c cs hi =>
    by_cases hc : c = q
    case pos =>
      have hd : Dialect.doubled q (c :: cs) = q :: q :: Dialect.doubled q cs := by
        simp [Dialect.doubled, hc]
      rw [hd] at hf ⊢
      simp only [List.cons_append, List.length_cons] at hf
      obtain ⟨fuel, rfl⟩ : ∃ k, fuel = k + 1 := ⟨fuel - 1, by omega⟩
      have hs : (Dialect.doubled q cs ++ q :: rest).length ≤ fuel := by omega
      simp only [List.cons_append, quotedText, if_true, hi hs]
      simp [hc]
    case neg =>
      have hd : Dialect.doubled q (c :: cs) = c :: Dialect.doubled q cs := by
        simp [Dialect.doubled, hc]
      rw [hd] at hf ⊢
      simp only [List.cons_append, List.length_cons] at hf
      obtain ⟨fuel, rfl⟩ : ∃ k, fuel = k + 1 := ⟨fuel - 1, by omega⟩
      have hs : (Dialect.doubled q cs ++ q :: rest).length ≤ fuel := by omega
      simp only [List.cons_append, quotedText, if_neg hc, hi hs]
      simp

theorem identifier?_doubled (hq : q ≠ '[') (h : rest.head? ≠ some q) :
    identifier? q (Dialect.doubled q cs ++ q :: rest) =
      some (some (.word ⟨String.ofList cs, some q⟩ ""), rest) := by
  have hc : closingQuote q = q := if_neg hq
  rw [identifier?, hc, quotedText_doubled h (Nat.le_succ _)]
  rfl

theorem cut?_quoted (hr : rest.head? ≠ some d.quoteChar) (cs : List Char) :
    cut? d d.quoteChar (Dialect.doubled d.quoteChar cs ++ d.quoteChar :: rest) =
      some (some (.word ⟨String.ofList cs, some d.quoteChar⟩ ""), rest) := by
  have hp : d.quoteChar.toUpper ∉ ['N', 'X', 'B', 'E', 'U'] := by cases d <;> decide
  have ho : opensIdentifier d d.quoteChar := by cases d <;> rfl
  have hs : d.quoteChar ≠ '\x27' := by cases d <;> decide
  have hq : d.quoteChar ≠ '[' := by cases d <;> decide
  rw [cut?, prefixed?_eq hp, if_neg hs, if_pos ho, identifier?_doubled hq hr]

theorem cut?_questionMark (hd : d ≠ .postgresql) (hr : Breaks rest) :
    cut? d '?' rest = some (some (.placeholder "?"), rest) := by
  have hn : ∀ c ∈ rest.head?, isNumeric c = false := hr.head (by decide)
  have hq : questionMark d rest = (some (.placeholder "?"), rest) := by
    unfold questionMark
    rw [if_neg hd, takeWhile_of_head hn, dropWhile_of_head hn]
  have hc : cut? d '?' rest = some (questionMark d rest) := by
    rw [cut?, prefixed?_eq (by decide)]
    cases d <;> rfl
  rw [hc, hq]

theorem isTagChar_of_isDigit (h : c.isDigit) : isTagChar c := by
  have hc : c.toNat < 128 := by have := toNat_of_isDigit h; omega
  simp [isTagChar, isAlphanumeric, isNumeric, hc, h]

theorem cut?_numbered (hr : Breaks rest) (n : Nat) :
    cut? .postgresql '$' (Nat.toDigits 10 n ++ rest) =
      some (some (.placeholder ("$" ++ toString n)), rest) := by
  have hd : ∀ c ∈ Nat.toDigits 10 n, isTagChar c :=
    fun c hc => isTagChar_of_isDigit (isDigit_of_mem hc)
  have hn : ∀ c ∈ rest.head?, isTagChar c = false := hr.head (by decide)
  have hs : ∀ after, rest ≠ '$' :: after := by
    rintro after rfl
    exact absurd (hr '$' rfl) (by decide)
  have ht : (Nat.toDigits 10 n ++ rest).takeWhile isTagChar = Nat.toDigits 10 n := by
    rw [takeWhile_append_of_head hd hn]
  have hw : (Nat.toDigits 10 n ++ rest).dropWhile isTagChar = rest := by
    rw [dropWhile_append_of_head hd hn]
  have hp : String.ofList ('$' :: Nat.toDigits 10 n) = "$" ++ toString n := by
    apply String.toList_injective
    simp
  have hc : cut? .postgresql '$' (Nat.toDigits 10 n ++ rest) =
      dollar? (Nat.toDigits 10 n ++ rest) := by
    rw [cut?, prefixed?_eq (by decide)]
    rfl
  rw [hc, dollar?, ht, hw]
  split
  case h_1 h => exact absurd rfl (hs _)
  case h_2 => rw [hp]

end Cuts

section Texts

variable {a b g s : String}

-- A text of whole tokens, whatever follows it.
def Whole (d : Dialect) (s : String) (ts : List Token) : Prop :=
  ∀ rest, ∃ n ≤ s.toList.length, cuts? d n (s.toList ++ rest) = some (ts, rest)

-- A text of whole tokens, if a break follows it.
def Reads (d : Dialect) (s : String) (ts : List Token) : Prop :=
  ∀ rest, Breaks rest → ∃ n ≤ s.toList.length, cuts? d n (s.toList ++ rest) = some (ts, rest)

-- A text that is a break for what stands before it.
def startsWithBreak (s : String) : Bool :=
  s.toList.head?.any isBreak

theorem breaks_append (h : startsWithBreak s) (rest : List Char) : Breaks (s.toList ++ rest) := by
  unfold startsWithBreak at h
  cases hs : s.toList
  case nil => rw [hs] at h; contradiction
  case cons c tail =>
    rw [hs] at h
    rintro _ ⟨⟩
    exact h

theorem Whole.reads (h : Whole d s ts) : Reads d s ts :=
  fun rest _ => h rest

theorem cuts?_texts (ha : ∃ m ≤ a.toList.length, cuts? d m (a.toList ++ (b.toList ++ rest)) =
      some (ts, b.toList ++ rest))
    (hb : ∃ n ≤ b.toList.length, cuts? d n (b.toList ++ rest) = some (us, rest)) :
    ∃ n ≤ (a ++ b).toList.length, cuts? d n ((a ++ b).toList ++ rest) = some (ts ++ us, rest) := by
  obtain ⟨m, hm, ha⟩ := ha
  obtain ⟨n, hn, hb⟩ := hb
  rw [String.toList_append, List.length_append, List.append_assoc]
  exact ⟨m + n, Nat.add_le_add hm hn, cuts?_add ha hb⟩

theorem Whole.append (ha : Whole d a ts) (hb : Reads d b us) : Reads d (a ++ b) (ts ++ us) :=
  fun rest hr => cuts?_texts (ha (b.toList ++ rest)) (hb rest hr)

theorem Reads.append (ha : Reads d a ts) (hb : Reads d b us) (hs : startsWithBreak b) :
    Reads d (a ++ b) (ts ++ us) :=
  fun rest hr => cuts?_texts (ha (b.toList ++ rest) (breaks_append hs rest)) (hb rest hr)

theorem Reads.append_whole (ha : Reads d a ts) (hb : Whole d b us) (hs : startsWithBreak b) :
    Whole d (a ++ b) (ts ++ us) :=
  fun rest => cuts?_texts (ha (b.toList ++ rest) (breaks_append hs rest)) (hb rest)

theorem Reads.tokens? (h : Reads d s ts) : tokens? d s.toList = some ts := by
  obtain ⟨n, hn, h⟩ := h [] (by simp [Breaks])
  rw [List.append_nil] at h
  exact tokensFrom_cuts h hn

-- Texts that are known are cut piece by piece. The last character is a cut of its own where nothing
-- is known about what follows it.
theorem Whole.blank (cs : List Char) (n : Nat) (hs : s.toList = cs ++ [' ']) (hn : n ≤ cs.length)
    (h : ∀ rest, cuts? d n (cs ++ ' ' :: rest) = some (ts, ' ' :: rest)) : Whole d s ts := by
  intro rest
  rw [hs, List.append_assoc, List.length_append, ← List.append_nil ts]
  exact ⟨n + 1, Nat.succ_le_succ hn, cuts?_add (h rest) (cuts?_one (cut?_blank d rest))⟩

theorem Whole.parenthesis (cs : List Char) (n : Nat) (hs : s.toList = cs ++ ['('])
    (hn : n ≤ cs.length)
    (h : ∀ rest, cuts? d n (cs ++ '(' :: rest) = some (ts, '(' :: rest)) :
    Whole d s (ts ++ [.symbol "("]) := by
  intro rest
  rw [hs, List.append_assoc, List.length_append]
  exact ⟨n + 1, Nat.succ_le_succ hn, cuts?_add (h rest) (cuts?_one (cut?_parenthesis d rest))⟩

theorem Reads.fixed (n : Nat) (hn : n ≤ s.toList.length) (he : cuts? d n s.toList = some (ts, []))
    (h : ∀ rest, cuts? d n (s.toList ++ ' ' :: rest) = some (ts, ' ' :: rest) ∧
      cuts? d n (s.toList ++ ',' :: rest) = some (ts, ',' :: rest) ∧
      cuts? d n (s.toList ++ ')' :: rest) = some (ts, ')' :: rest)) : Reads d s ts := by
  intro rest hr
  refine ⟨n, hn, ?_⟩
  cases rest
  case nil => rwa [List.append_nil]
  case cons c rest =>
    have hc : c ∈ [' ', ',', ')'] := List.contains_iff_mem.mp (hr c rfl)
    simp only [List.mem_cons, List.not_mem_nil, or_false] at hc
    rcases hc with rfl | rfl | rfl
    · exact (h rest).1
    · exact (h rest).2.1
    · exact (h rest).2.2

theorem reads_empty : Reads d "" [] :=
  fun _ _ => ⟨0, Nat.le_refl 0, rfl⟩

theorem reads_quoteIdentifier (d : Dialect) (name : String) :
    Reads d (d.quoteIdentifier name) [.word ⟨name, some d.quoteChar⟩ ""] := by
  intro rest hr
  have hq : rest.head? ≠ some d.quoteChar := by
    intro h
    exact absurd (hr _ h) (by cases d <;> decide)
  have hc : cuts? d 1 ((d.quoteIdentifier name).toList ++ rest) =
      some ([.word ⟨name, some d.quoteChar⟩ ""], rest) := by
    rw [Dialect.quoteIdentifier, String.toList_ofList, List.append_assoc, List.cons_append]
    simpa using cuts?_one (cut?_quoted hq name.toList)
  exact ⟨1, by simp [Dialect.quoteIdentifier], hc⟩

theorem reads_bindVariable (d : Dialect) (n : Nat) :
    Reads d (d.bindVariable n) [.placeholder (d.bindVariable n)] := by
  intro rest hr
  by_cases hd : d = .postgresql
  case pos =>
    subst hd
    have hl : (Dialect.postgresql.bindVariable n).toList = '$' :: Nat.toDigits 10 n := by
      simp [Dialect.bindVariable]
    rw [hl]
    exact ⟨1, by simp, cuts?_one (cut?_numbered hr n)⟩
  case neg =>
    have hb : d.bindVariable n = "?" := by cases d <;> first | rfl | contradiction
    rw [hb]
    exact ⟨1, Nat.le_refl 1, cuts?_one (cut?_questionMark hd hr)⟩

end Texts
end Lexer
end TypedRows.Sql
