import TypedRows.Proofs.Script.Separation

namespace TypedRows.Ddl.Script

namespace Lexicon

variable {x y : Lexicon} {d : Dialect}

-- Only a backslash lets two lexicons disagree on where a quoted text ends.
theorem quotedSize_congr {q : Char} {cs : List Char}
    (h : x.escapes q = y.escapes q ∨ '\\' ∉ cs.take (x.quotedSize q cs)) :
    y.quotedSize q cs = x.quotedSize q cs := by
  fun_induction quotedSize x q cs
  case case1 => rfl
  case case2 => rfl
  case case3 cs hi =>
    have h : x.escapes q = y.escapes q ∨ '\\' ∉ cs.take (x.quotedSize q cs) := by
      refine h.imp_right fun hm hc => hm ?_
      simp [hc]
    simp [quotedSize, hi h]
  case case4 next cs hn => simp [quotedSize, hn]
  case case5 c next cs hc he hi =>
    have hb : c = '\\' := by simp_all
    have h : x.escapes q = y.escapes q := by simpa [hb] using h
    rw [quotedSize, if_neg hc, if_pos (h ▸ he), hi (.inl h)]
  case case6 c next cs hc he hi =>
    have hy : ¬(c = '\\' && y.escapes q) := by
      rcases h with h | h
      · rwa [← h]
      · have hn : c ≠ '\\' := by
          rintro rfl
          simp at h
        simp [hn]
    have h : x.escapes q = y.escapes q ∨
        '\\' ∉ (next :: cs).take (x.quotedSize q (next :: cs)) := by
      refine h.imp_right fun hm hc => hm ?_
      rw [List.take_succ_cons]
      exact List.mem_cons_of_mem c hc
    rw [quotedSize, if_neg hc, if_neg hy, hi h]

-- Whether no text in single quotes holds a backslash.
def SingleQuotesPlain (ls : List Lexeme) : Prop :=
  ∀ cs, .quoted ('\'' :: cs) ∈ ls → '\\' ∉ cs

theorem shared_first {w : Bool} {c : Char} {cs : List Char}
    (h : SingleQuotesPlain [(simple d).first w c cs]) :
    (shared d).first w c cs = (simple d).first w c cs := by
  have hl : (shared d).startsLineComment c cs = (simple d).startsLineComment c cs := rfl
  have hd : (shared d).dollarQuotes = (simple d).dollarQuotes := rfl
  unfold first at h ⊢
  rw [hl, hd]
  split_ifs at h ⊢ with hs hl hb hq
  case pos => rfl
  case pos => rfl
  case pos => rfl
  case pos =>
    have hq : (simple d).escapes c = (shared d).escapes c ∨
        '\\' ∉ cs.take ((simple d).quotedSize c cs) := by
      by_cases hc : c = '\''
      · subst hc
        exact .inr (h _ (List.mem_singleton.mpr rfl))
      · simp [simple, shared, hc]
    rw [quotedSize_congr hq]
  all_goals rfl

theorem shared_lexemesFrom {w : Bool} {cs : List Char}
    (h : SingleQuotesPlain ((simple d).lexemesFrom w cs)) :
    (shared d).lexemesFrom w cs = (simple d).lexemesFrom w cs := by
  fun_induction lexemesFrom (simple d) w cs
  case case1 => simp [lexemesFrom]
  case case2 w c cs l hi =>
    have hl : (shared d).first w c cs = l :=
      shared_first fun text hm => h text (List.mem_cons.mpr (.inl (List.mem_singleton.mp hm)))
    have hr := hi fun text hm => h text (List.mem_cons_of_mem l hm)
    rw [lexemesFrom, hl, hr]

end Lexicon

-- The semicolons that separate statements are those that the lexicon of the dialect has outside
-- quotes and comments.
theorem statements_eq_simple (d : Dialect) (script : String)
    (h : d = .mysql ∨ Lexicon.SingleQuotesPlain ((Lexicon.simple d).lexemes script.toList)) :
    statements d script = (Lexicon.simple d).statements script.toList := by
  rw [statements, statementsOf_eq_shared]
  rcases h with rfl | h
  case inl => rfl
  case inr => rw [Lexicon.statements, Lexicon.lexemes, Lexicon.shared_lexemesFrom h]; rfl

-- A backslash before a double quote is not in its way.
theorem statements_eq_simple_sqlite :
    Lexicon.SingleQuotesPlain ((Lexicon.simple .sqlite).lexemes "'a;' \"\\\";B".toList) ∧
      statements .sqlite "'a;' \"\\\";B" = [⟨"'a;' \"\\\"", 1⟩, ⟨"B", 1⟩] := by
  have hl : (Lexicon.simple .sqlite).lexemes "'a;' \"\\\";B".toList =
      [.quoted "'a;'".toList, .blank ' ', .quoted "\"\\\"".toList, .separator, .plain 'B'] := by
    decide +kernel
  have h : Lexicon.SingleQuotesPlain
      ((Lexicon.simple .sqlite).lexemes "'a;' \"\\\";B".toList) := by
    rw [hl]
    simp [Lexicon.SingleQuotesPlain]
  have hs : (Lexicon.simple .sqlite).statements "'a;' \"\\\";B".toList =
      [⟨"'a;' \"\\\"", 1⟩, ⟨"B", 1⟩] := by
    decide +kernel
  exact ⟨h, (statements_eq_simple .sqlite _ (.inr h)).trans hs⟩

-- Neither dollar quotes nor backslashes between other quotes are left to the dialect.
theorem statements_ne_ofDialect :
    statements .postgresql "$$;$$" ≠ (Lexicon.ofDialect .postgresql).statements "$$;$$".toList ∧
      statements .mysql "\"a\\\";b\"" ≠
        (Lexicon.ofDialect .mysql).statements "\"a\\\";b\"".toList ∧
      statements .sqlite "'\\';B" ≠ (Lexicon.ofDialect .sqlite).statements "'\\';B".toList := by
  decide +kernel

end TypedRows.Ddl.Script
