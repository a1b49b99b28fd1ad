import TypedRows.Proofs.Script.Lexeme
import TypedRows.Proofs.Script.Reader

namespace TypedRows.Ddl.Script

open Text

namespace Reader

variable {d : Dialect} {r : Reader}

section Passed

-- The reader after a text that it keeps.
def passed (r : Reader) (text : List Char) (place : Place) : Reader :=
  { r with place := place, text := text.reverse ++ r.text, line := r.line + text.count '\n' }

theorem passed_passed (a b : List Char) (p p' : Place) :
    (r.passed a p).passed b p' = r.passed (a ++ b) p' := by
  simp [passed, Nat.add_assoc]

theorem step_of_keep {s : Reader} {c : Char} {p : Place} (h : r.takeChar d c = s.keep c p) :
    r.step d c = s.passed [c] p := by
  unfold step
  rw [h]
  split_ifs with hc
  case pos => simp [passed, keep, hc]
  case neg => simp [passed, keep, hc]

theorem step_quoted {q : Char} (h : r.place = .quoted q) (c : Char) :
    r.step d c = r.passed [c]
      (if c = q then .quoteSeen q else if c = '\\' && q = '\x27' then .escaped else .quoted q) := by
  apply step_of_keep
  rw [takeChar_quoted h, atQuoted]
  split_ifs <;> rfl

theorem step_escaped (h : r.place = .escaped) (c : Char) :
    r.step d c = r.passed [c] (.quoted '\x27') :=
  step_of_keep (takeChar_escaped h c)

theorem step_quoteSeen {q : Char} (h : r.place = .quoteSeen q) :
    r.step d q = r.passed [q] (.quoted q) := by
  apply step_of_keep
  rw [takeChar_quoteSeen h, if_pos rfl]

theorem step_blockComment (h : r.place = .blockComment) (c : Char) :
    r.step d c = r.passed [c] (if c = '*' then .starSeen else .blockComment) :=
  step_of_keep (takeChar_blockComment h c)

theorem step_starSeen (h : r.place = .starSeen) (c : Char) :
    r.step d c =
      r.passed [c] (if c = '/' then .code else if c = '*' then .starSeen else .blockComment) :=
  step_of_keep (takeChar_starSeen h c)

end Passed

section Outside

-- The reader that knows that nothing goes on with what it stands in.
def outside (r : Reader) : Reader :=
  { r.settle with place := .code }

-- Whether `rest` does not go on with what the reader stands in.
def IsThrough (r : Reader) (rest : List Char) : Prop :=
  match r.place with
  | .code => True
  | .hyphen => rest.head? ≠ some '-'
  | .slash => rest.head? ≠ some '*'
  | .quoteSeen q => rest.head? ≠ some q
  | .lineComment => ∀ c ∈ rest.head?, c = '\n'
  | .quoted _ | .escaped | .blockComment | .starSeen => False

theorem takeChar_outside {c : Char} {cs : List Char} (h : r.IsThrough (c :: cs)) :
    r.takeChar d c = r.outside.takeChar d c := by
  have ho : r.outside.takeChar d c = r.settle.atCode d c := by
    rw [takeChar_code rfl]
    unfold atCode
    split_ifs <;> rfl
  rw [ho]
  unfold IsThrough at h
  cases hp : r.place <;> simp only [hp, List.head?_cons, ne_eq, Option.some.injEq] at h
  case code => simp [takeChar_code hp, settle, hp]
  case hyphen => simp [takeChar_hyphen hp, h]
  case slash => simp [takeChar_slash hp, h]
  case quoteSeen => simp [takeChar_quoteSeen hp, h, settle, hp]
  case lineComment =>
    have hc : c = '\n' := h c rfl
    simp [takeChar_lineComment hp, hc, settle, hp, atCode, isQuote, isBlank]

theorem finish_outside : r.outside.finish = r.finish := by
  simp [finish, outside, settle, closed]

theorem finish_run_outside {rest : List Char} (h : r.IsThrough rest) :
    (r.run d rest).finish = (r.outside.run d rest).finish := by
  cases rest
  case nil => exact finish_outside.symm
  case cons c cs =>
    have hs : r.step d c = r.outside.step d c := by
      unfold step
      rw [takeChar_outside h]
    rw [run_cons, run_cons, hs]

end Outside

section Closed

-- At the end of a script only a hyphen or a slash is still to be settled.
theorem finish_passed {text : List Char} {p : Place} (hh : p ≠ .hyphen) (hs : p ≠ .slash) :
    (r.passed text p).finish = (r.passed text .code).finish := by
  cases p
  case hyphen => contradiction
  case slash => contradiction
  all_goals rfl

-- Induction along the size of the quoted text: each of its cases is one or two steps of the reader.
theorem finish_run_quoted {q : Char} {cs : List Char} (h : r.place = .quoted q) :
    (r.run d cs).finish =
      ((r.passed (cs.take ((Lexicon.shared d).quotedSize q cs)) .code).run d
        (cs.drop ((Lexicon.shared d).quotedSize q cs))).finish := by
  fun_induction Lexicon.quotedSize (Lexicon.shared d) q cs generalizing r
  case case1 =>
    have hr : r = r.passed [] (.quoted q) := by simp [passed, ← h]
    rw [run_nil, hr]
    exact finish_passed (by simp) (by simp)
  case case2 c =>
    rw [run_cons, run_nil, step_quoted h]
    exact finish_passed (by split_ifs <;> simp) (by split_ifs <;> simp)
  case case3 cs hi =>
    have hq : r.step d q = r.passed [q] (.quoteSeen q) := by rw [step_quoted h, if_pos rfl]
    rw [run_cons, hq, run_cons, step_quoteSeen rfl, hi rfl, passed_passed, passed_passed]
    rfl
  case case4 next cs hn =>
    have hq : r.step d q = r.passed [q] (.quoteSeen q) := by rw [step_quoted h, if_pos rfl]
    have ht : (r.passed [q] (.quoteSeen q)).IsThrough (next :: cs) := by
      simp [IsThrough, passed, hn]
    rw [run_cons, hq, finish_run_outside ht]
    rfl
  case case5 c next cs hc he hi =>
    have he' : c = '\\' ∧ q = '\x27' := by simpa [Lexicon.shared] using he
    have hs : r.step d c = r.passed [c] .escaped := by
      rw [step_quoted h, if_neg hc, if_pos (by simp [he'])]
    rw [run_cons, hs, run_cons, step_escaped rfl, ← he'.2, hi rfl, passed_passed, passed_passed]
    rfl
  case case6 c next cs hc he hi =>
    have he' : ¬(c = '\\' ∧ q = '\x27') := by simpa [Lexicon.shared] using he
    have hs : r.step d c = r.passed [c] (.quoted q) := by
      rw [step_quoted h, if_neg hc, if_neg (by simpa using he')]
    rw [run_cons, hs, hi rfl, passed_passed]
    rfl

theorem finish_run_blockComment {cs : List Char}
    (h : r.place = .blockComment ∨ r.place = .starSeen ∧ cs.head? ≠ some '/') :
    (r.run d cs).finish =
      ((r.passed (cs.take (Lexicon.sizeThrough ['*', '/'] cs)) .code).run d
        (cs.drop (Lexicon.sizeThrough ['*', '/'] cs))).finish := by
  induction cs generalizing r
  case nil =>
    have hr : r = r.passed [] r.place := by simp [passed]
    rw [run_nil, hr]
    rcases h with h | h <;> exact finish_passed (by simp [h]) (by simp [h])
  case cons c cs hi =>
    have hs : r.step d c = r.passed [c] (if c = '*' then .starSeen else .blockComment) := by
      rcases h with h | ⟨h, hc⟩
      · exact step_blockComment h c
      · rw [step_starSeen h, if_neg (by simpa using hc)]
    by_cases hm : c = '*' ∧ cs.head? = some '/'
    case pos =>
      obtain ⟨rfl, hd⟩ := hm
      obtain ⟨cs, rfl⟩ : ∃ rest, cs = '/' :: rest := List.head?_eq_some_iff.mp hd
      rw [run_cons, hs, run_cons, if_pos rfl, step_starSeen rfl, passed_passed]
      rfl
    case neg =>
      have hp : ¬['*', '/'].isPrefixOf (c :: cs) := by
        intro hp
        obtain ⟨rest, hr⟩ := List.isPrefixOf_iff_prefix.mp hp
        cases hr
        exact hm ⟨rfl, rfl⟩
      have hz : Lexicon.sizeThrough ['*', '/'] (c :: cs) = Lexicon.sizeThrough ['*', '/'] cs + 1 := by
        rw [Lexicon.sizeThrough, if_neg hp]
      rw [run_cons, hs, hz, hi, passed_passed]
      · rfl
      · split_ifs with hc
        · exact .inr ⟨rfl, fun hd => hm ⟨hc, hd⟩⟩
        · exact .inl rfl

-- The line break that ends the comment is not part of it.
theorem finish_run_lineComment (h : r.place = .lineComment) (cs : List Char) :
    (r.run d cs).finish = (r.outside.run d (cs.dropWhile (· ≠ '\n'))).finish := by
  induction cs
  case nil => exact finish_run_outside (by simp [IsThrough, h])
  case cons c cs hi =>
    by_cases hc : c = '\n'
    case pos =>
      rw [List.dropWhile_cons_of_neg (by simpa using hc)]
      exact finish_run_outside (by simp [IsThrough, h, hc])
    case neg =>
      have hs : r.step d c = r := by simp [step, takeChar_lineComment h, hc]
      rw [List.dropWhile_cons_of_pos (by simpa using hc), run_cons, hs, hi]

end Closed

section Lexemes

-- What a lexeme does to a reader that stands outside quotes and comments.
def takeLexeme (r : Reader) : Lexeme → Reader
  | .separator => r.endStatement
  | .blank c => r.passed [c] .code
  | .plain c => r.touch.passed [c] .code
  | .quoted text => r.touch.passed text .code
  | .lineComment text => { r with line := r.line + text.count '\n' }
  | .blockComment text => r.passed text .code

theorem takeLexeme_place (h : r.place = .code) (l : Lexeme) : (r.takeLexeme l).place = .code := by
  cases l
  case lineComment => exact h
  all_goals rfl

variable {c : Char} {cs : List Char}

theorem step_separator (h : r.place = .code) : r.step d ';' = r.endStatement := by
  simp [step, takeChar_code h, atCode]

theorem step_blank (h : r.place = .code) (hb : isBlank c) : r.step d c = r.passed [c] .code := by
  have hn : ∀ x, isBlank x = false → c ≠ x := by
    rintro x hx rfl
    simp [hx] at hb
  have hq : isQuote c = false := by
    simp [isQuote, hn '\'' (by decide), hn '"' (by decide), hn '`' (by decide)]
  apply step_of_keep
  simp [takeChar_code h, atCode, hn ';' (by decide), hn '-' (by decide), hn '#' (by decide),
    hn '/' (by decide), hq, hb]

theorem finish_run_startsLineComment (h : r.place = .code)
    (hl : (Lexicon.shared d).startsLineComment c cs) :
    (r.run d (c :: cs)).finish = (r.run d (cs.dropWhile (· ≠ '\n'))).finish := by
  have ho : ({ r with place := .lineComment } : Reader).outside = r := by
    simp [outside, settle, ← h]
  have hl : (c = '-' ∧ cs.head? = some '-') ∨ (c = '#' ∧ d = .mysql) := by
    simpa [Lexicon.startsLineComment, Lexicon.shared] using hl
  rcases hl with ⟨rfl, hd⟩ | ⟨rfl, hd⟩
  case inl =>
    obtain ⟨cs, rfl⟩ : ∃ rest, cs = '-' :: rest := List.head?_eq_some_iff.mp hd
    have hs : (r.step d '-').step d '-' = { r with place := .lineComment } := by
      simp [step, takeChar, h, atCode]
    rw [run_cons, run_cons, hs, finish_run_lineComment rfl, ho]
    rfl
  case inr =>
    have hs : r.step d '#' = { r with place := .lineComment } := by
      simp [step, takeChar, h, atCode, hd]
    rw [run_cons, hs, finish_run_lineComment rfl, ho]

theorem finish_run_plain (h : r.place = .code) (hs : c ≠ ';')
    (hl : ¬(Lexicon.shared d).startsLineComment c cs) (hb : ¬(c = '/' ∧ cs.head? = some '*'))
    (hq : ¬isQuote c) (hw : ¬isBlank c) :
    (r.run d (c :: cs)).finish = ((r.touch.passed [c] .code).run d cs).finish := by
  have hl : ¬(c = '-' ∧ cs.head? = some '-') ∧ ¬(c = '#' ∧ d = .mysql) := by
    simpa [Lexicon.startsLineComment, Lexicon.shared, not_or] using hl
  rw [run_cons]
  by_cases hc : c = '-'
  case pos =>
    subst hc
    have hs : r.step d '-' = { r with place := .hyphen } := by simp [step, takeChar, h, atCode]
    have ht : ({ r with place := .hyphen } : Reader).IsThrough cs := by simpa [IsThrough] using hl.1
    rw [hs, finish_run_outside ht]
    simp [outside, settle, touch, passed]
  by_cases hc' : c = '/'
  case pos =>
    subst hc'
    have hs : r.step d '/' = r.keep '/' .slash := by simp [step, takeChar, h, atCode]
    have ht : (r.keep '/' .slash).IsThrough cs := by simpa [IsThrough, keep] using hb
    rw [hs, finish_run_outside ht]
    simp [outside, settle, touch, passed, keep]
  have hk : r.takeChar d c = r.touch.keep c .code := by
    simp [takeChar_code h, atCode, hs, hc, hc', hq, hw, hl.2]
  rw [step_of_keep hk]

theorem step_quote (h : r.place = .code) (hq : isQuote c) :
    r.step d c = r.touch.passed [c] (.quoted c) := by
  have hn : ∀ x, isQuote x = false → c ≠ x := by
    rintro x hx rfl
    simp [hx] at hq
  apply step_of_keep
  simp [takeChar_code h, atCode, hn ';' (by decide), hn '-' (by decide), hn '#' (by decide),
    hn '/' (by decide), hq]

theorem drop_length_take (n : Nat) (cs : List Char) : cs.drop (cs.take n).length = cs.drop n :=
  List.drop_eq_drop_iff.mpr (by simp)

theorem drop_length_takeWhile (p : Char → Bool) (cs : List Char) :
    cs.drop (cs.takeWhile p).length = cs.dropWhile p := by
  induction cs
  case nil => rfl
  case cons c cs hi => cases hc : p c <;> simp [hc, hi]

-- The reader has one lexeme behind it. A word before it makes no difference without dollar quotes.
theorem finish_run_first (h : r.place = .code) (w : Bool) (c : Char) (cs : List Char) :
    (r.run d (c :: cs)).finish =
      ((r.takeLexeme ((Lexicon.shared d).first w c cs)).run d
        (cs.drop (((Lexicon.shared d).first w c cs).source.length - 1))).finish := by
  have hd : ((Lexicon.shared d).dollarQuotes && !w && decide (c = '$')) = false := rfl
  unfold Lexicon.first
  rw [hd]
  split_ifs with hs hl hb hq hf hw
  case pos =>
    subst hs
    rw [run_cons, step_separator h]
    rfl
  case pos =>
    have hc : c ≠ '\n' := by
      rintro rfl
      simp [Lexicon.startsLineComment] at hl
    have hn : (c :: cs.takeWhile (· ≠ '\n')).count '\n' = 0 := by
      apply List.count_eq_zero_of_not_mem
      intro hm
      rcases List.mem_cons.mp hm with hm | hm
      · exact hc hm.symm
      · simpa using List.all_eq_true.mp List.all_takeWhile _ hm
    have ht : r.takeLexeme (.lineComment (c :: cs.takeWhile (· ≠ '\n'))) = r := by
      simp only [takeLexeme, hn, Nat.add_zero]
    rw [finish_run_startsLineComment h hl, ht, ← drop_length_takeWhile]
    rfl
  case pos =>
    obtain ⟨rfl, hh⟩ : c = '/' ∧ cs.head? = some '*' := by simpa using hb
    obtain ⟨cs, rfl⟩ : ∃ rest, cs = '*' :: rest := List.head?_eq_some_iff.mp hh
    have hs : (r.step d '/').step d '*' = r.passed ['/', '*'] .blockComment := by
      simp [step, takeChar, h, atCode, keep, passed]
    rw [run_cons, run_cons, hs, finish_run_blockComment (.inl rfl), passed_passed]
    have hn : ('*' :: cs).drop (('*' :: cs).take (Lexicon.sizeThrough ['*', '/'] cs + 1)).length =
        cs.drop (Lexicon.sizeThrough ['*', '/'] cs) := drop_length_take _ ('*' :: cs)
    rw [← hn]
    rfl
  case pos =>
    have hs : r.step d c = r.touch.passed [c] (.quoted c) := step_quote h hq
    rw [run_cons, hs, finish_run_quoted rfl, passed_passed, ← drop_length_take]
    rfl
  case pos => contradiction
  case pos =>
    rw [run_cons, step_blank h hw]
    rfl
  case neg =>
    rw [finish_run_plain h hs hl (by simpa using hb) hq hw]
    rfl

theorem finish_run_lexemes (h : r.place = .code) (w : Bool) (cs : List Char) :
    (r.run d cs).finish = (((Lexicon.shared d).lexemesFrom w cs).foldl takeLexeme r).finish := by
  fun_induction Lexicon.lexemesFrom (Lexicon.shared d) w cs generalizing r
  case case1 => rfl
  case case2 w c cs l hi =>
    rw [finish_run_first h w, List.foldl_cons]
    exact hi (takeLexeme_place h l)

end Lexemes

section Segments

-- The reader of a statement that starts on a line and of which some lexemes were read.
structure HasRead (r : Reader) (line : Nat) (read : List Lexeme) : Prop where
  place : r.place = .code
  text : r.text = (read.flatMap Lexeme.kept).reverse
  start : r.start = Lexeme.tokenLine? line read
  line : r.line = line + Lexeme.newlines read

variable {line : Nat} {read : List Lexeme}

theorem HasRead.nil (h : r.place = .code) (ht : r.text = []) (hs : r.start = none) :
    r.HasRead r.line [] where
  place := h
  text := ht
  start := hs
  line := rfl

theorem HasRead.closed (h : r.HasRead line read) :
    r.closed = (Lexeme.statement? line read).toList ++ r.statements := by
  unfold Reader.closed Lexeme.statement?
  rw [← h.start, h.text, List.reverse_reverse]
  cases r.start <;> rfl

theorem HasRead.takeLexeme (h : r.HasRead line read) {l : Lexeme} (hl : l ≠ .separator) :
    (r.takeLexeme l).HasRead line (read ++ [l]) where
  place := takeLexeme_place h.place l
  text := by
    cases l
    case separator => contradiction
    all_goals simp [Reader.takeLexeme, passed, touch, h.text, Lexeme.kept, Lexeme.source]
  start := by
    rw [Lexeme.tokenLine?_append, ← h.start, ← h.line]
    cases l
    case separator => contradiction
    all_goals simp [Reader.takeLexeme, passed, touch, Lexeme.isToken]
  line := by
    rw [Lexeme.newlines_append, ← Nat.add_assoc, ← h.line]
    cases l
    case separator => contradiction
    all_goals rfl

theorem HasRead.finish (h : r.HasRead line read) (ls : List Lexeme) :
    (ls.foldl Reader.takeLexeme r).finish =
      r.statements.reverse ++ Lexeme.statementsFrom line (Lexeme.segmentsAfter read ls) := by
  induction ls generalizing r line read
  case nil =>
    have hf : r.finish = r.closed.reverse := by simp [Reader.finish, settle, h.place]
    rw [List.foldl_nil, hf, h.closed]
    cases hs : Lexeme.statement? line read <;>
      simp [Lexeme.segmentsAfter, Lexeme.statementsFrom, hs]
  case cons l ls hi =>
    rw [List.foldl_cons, Lexeme.segmentsAfter]
    split_ifs with hl
    case pos =>
      have he : r.endStatement.HasRead (line + Lexeme.newlines read) [] := h.line ▸ .nil rfl rfl rfl
      have hc : r.endStatement.statements = r.closed := rfl
      rw [hl, Reader.takeLexeme, hi he, hc, h.closed]
      cases hs : Lexeme.statement? line read <;> simp [Lexeme.statementsFrom, hs]
    case neg =>
      have hs : (r.takeLexeme l).statements = r.statements := by
        cases l
        case separator => contradiction
        all_goals rfl
      rw [hi (h.takeLexeme hl), hs]

end Segments

end Reader

-- The splitter of scripts reads their lexemes and cuts at the separators.
-- A lexeme may end while the reader still waits for a character that would go on with it. The
-- lemmas above compare such a reader with the one that knows that none follows.
theorem statementsOf_eq_shared (d : Dialect) (cs : List Char) :
    statementsOf d cs = (Lexicon.shared d).statements cs := by
  have h : ({} : Reader).HasRead 1 [] := .nil rfl rfl rfl
  rw [statementsOf, Reader.finish_run_lexemes rfl false, h.finish]
  rfl
end TypedRows.Ddl.Script
