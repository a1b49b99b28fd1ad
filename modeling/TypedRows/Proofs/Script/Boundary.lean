import Mathlib.Tactic.SplitIfs
import TypedRows.Proofs.Script.Separation
import TypedRows.Proofs.Text.Blank

namespace TypedRows.Ddl.Script

open Text

-- Whether a text goes on with nothing that stands before it.
def Apart (rest : List Char) : Prop :=
  ∀ c ∈ rest.head?, c = ';' ∨ isBlank c

theorem Apart.head?_ne {rest : List Char} {c : Char} (h : Apart rest) (hs : c ≠ ';')
    (hb : isBlank c = false) : rest.head? ≠ some c := by
  intro hc
  cases h c hc <;> simp_all

-- Whether a text can stand for another one behind a lexeme.
def Replaces (rest' rest : List Char) : Prop :=
  rest'.head? = rest.head? ∨ rest ≠ [] ∧ Apart rest'

namespace Lexicon

variable {x : Lexicon} {q c : Char} {cs rest rest' : List Char}

section Quoted

theorem quotedSize_eq_zero_iff : x.quotedSize q cs = 0 ↔ cs = [] := by
  fun_cases quotedSize x q cs <;> simp

theorem quotedSize_le : x.quotedSize q cs ≤ cs.length := by
  fun_induction quotedSize x q cs <;> simp_all

-- Induction along the quoted text, at whose end the next character decides.
theorem quotedSize_replaced (h : x.quotedSize q (cs ++ rest) = cs.length)
    (hr : rest'.head? = rest.head? ∨ rest ≠ [] ∧ rest'.head? ≠ some q) :
    x.quotedSize q (cs ++ rest') = cs.length := by
  fun_induction quotedSize x q cs
  case case1 => simp_all [quotedSize_eq_zero_iff]
  case case2 c =>
    cases rest <;> cases rest' <;> simp_all [quotedSize]
    split_ifs at h <;> simp_all [quotedSize_eq_zero_iff]
    cases hr <;> simp_all
  case case3 cs hi => simp_all [quotedSize]
  case case4 next cs hn => simp_all [quotedSize]
  case case5 c next cs hc he hi => simp_all [quotedSize]
  case case6 c next cs hc he hi =>
    simp only [List.cons_append, quotedSize, hc, if_false, he] at h ⊢
    simpa using hi (by simpa using h)

-- An open text is open wherever it is cut.
theorem quotedSize_cut {text : List Char} (h : x.quotedSize q text = text.length)
    (hp : cs <+: text) : x.quotedSize q cs = cs.length := by
  have ⟨rest, he⟩ := hp
  subst he
  clear hp
  fun_induction quotedSize x q cs
  case case1 => rfl
  case case2 => rfl
  case case3 cs hi => simp_all [quotedSize]
  case case4 next cs hn => simp_all [quotedSize]
  case case5 c next cs hc he hi => simp_all [quotedSize]
  case case6 c next cs hc he hi =>
    simp only [List.cons_append, quotedSize, hc, if_false, he] at h
    simpa using hi (by simpa using h)

theorem quotedSize_closed (h : x.quotedSize q (cs ++ rest) = cs.length) (hr : rest ≠ []) :
    cs.getLast? = some q := by
  fun_induction quotedSize x q cs
  case case1 => simp_all [quotedSize_eq_zero_iff]
  case case2 c =>
    cases rest <;> simp_all [quotedSize]
    split_ifs at h <;> simp_all [quotedSize_eq_zero_iff]
  case case3 cs hi =>
    have hl : cs.getLast? = some q := hi (by simpa [quotedSize] using h)
    simp [List.getLast?_cons, hl]
  case case4 next cs hn => simp_all [quotedSize]
  case case5 c next cs hc he hi =>
    have hl : cs.getLast? = some q := hi (by simpa [quotedSize, hc, he] using h)
    simp [List.getLast?_cons, hl]
  case case6 c next cs hc he hi =>
    simp only [List.cons_append, quotedSize, hc, if_false, he] at h
    simpa using hi (by simpa using h)

end Quoted

section Comment

theorem sizeThrough_cons : sizeThrough ['*', '/'] (c :: cs) =
    if c = '*' ∧ cs.head? = some '/' then 2 else sizeThrough ['*', '/'] cs + 1 := by
  have hp : ['*', '/'].isPrefixOf (c :: cs) ↔ c = '*' ∧ cs.head? = some '/' := by
    cases cs <;> simp [@eq_comm Char '*', @eq_comm Char '/']
  rw [sizeThrough]
  simp only [hp]
  rfl

theorem sizeThrough_eq_zero_iff : sizeThrough ['*', '/'] cs = 0 ↔ cs = [] := by
  cases cs
  case nil => simp [sizeThrough]
  case cons => rw [sizeThrough_cons]; split_ifs <;> simp

theorem sizeThrough_le : sizeThrough ['*', '/'] cs ≤ cs.length := by
  induction cs
  case nil => simp [sizeThrough]
  case cons c cs hi =>
    rw [sizeThrough_cons]
    cases cs <;> split_ifs <;> simp_all

theorem sizeThrough_replaced (h : sizeThrough ['*', '/'] (cs ++ rest) = cs.length)
    (hr : rest = [] → rest' = []) : sizeThrough ['*', '/'] (cs ++ rest') = cs.length := by
  induction cs
  case nil => simp_all [sizeThrough_eq_zero_iff]
  case cons c cs hi =>
    simp only [List.cons_append, sizeThrough_cons, List.length_cons] at h ⊢
    cases cs
    case nil => split_ifs at h <;> simp_all [sizeThrough_eq_zero_iff]
    case cons => split_ifs at h ⊢ <;> simp_all

theorem sizeThrough_cut {text : List Char}
    (h : sizeThrough ['*', '/'] text = text.length) (hp : cs <+: text) :
    sizeThrough ['*', '/'] cs = cs.length := by
  have ⟨rest, he⟩ := hp
  subst he
  clear hp
  induction cs
  case nil => rfl
  case cons c cs hi =>
    simp only [List.cons_append, sizeThrough_cons, List.length_cons] at h ⊢
    cases cs
    case nil => simp [sizeThrough]
    case cons => split_ifs at h ⊢ <;> simp_all

theorem sizeThrough_closed (h : sizeThrough ['*', '/'] (cs ++ rest) = cs.length) (hr : rest ≠ []) :
    cs.getLast? = some '/' := by
  induction cs
  case nil => simp_all [sizeThrough_eq_zero_iff]
  case cons c cs hi =>
    simp only [List.cons_append, sizeThrough_cons, List.length_cons] at h
    cases cs
    case nil => split_ifs at h <;> simp_all [sizeThrough_eq_zero_iff]
    case cons => split_ifs at h <;> simp_all

end Comment
end Lexicon

namespace Lexeme

-- The lexemes that scripts of a dialect are split into, and what follows them.
inductive Begins (d : Dialect) (rest : List Char) : Lexeme → Prop
  | separator : Begins d rest .separator
  | blank {c : Char} (h : isBlank c) : Begins d rest (.blank c)
  | plain {c : Char} (hs : c ≠ ';') (hl : ¬(Lexicon.shared d).startsLineComment c rest)
    (hb : ¬(c = '/' ∧ rest.head? = some '*')) (hq : ¬Reader.isQuote c) (hw : isBlank c = false) :
    Begins d rest (.plain c)
  | quoted {q : Char} {cs : List Char} (hq : Reader.isQuote q)
    (h : (Lexicon.shared d).quotedSize q (cs ++ rest) = cs.length) : Begins d rest (.quoted (q :: cs))
  | lineComment {c : Char} {cs : List Char}
    (hl : (Lexicon.shared d).startsLineComment c (cs ++ rest)) (hn : '\n' ∉ cs)
    (hr : ∀ x ∈ rest.head?, x = '\n') : Begins d rest (.lineComment (c :: cs))
  | blockComment {cs : List Char} (h : Lexicon.sizeThrough ['*', '/'] (cs ++ rest) = cs.length) :
    Begins d rest (.blockComment ('/' :: '*' :: cs))

variable {d : Dialect} {l : Lexeme} {c : Char} {cs rest rest' : List Char}

theorem not_mem_of_isBlank (h : isBlank c) : c ∉ [';', '-', '#', '/', '\'', '"', '`'] := by
  intro hm
  have hd : [';', '-', '#', '/', '\'', '"', '`'].all (!isBlank ·) := by decide
  simpa [h] using List.all_eq_true.mp hd c hm

theorem not_mem_of_isQuote (h : Reader.isQuote c) : c ∉ [';', '-', '#', '/'] := by
  intro hm
  have hd : [';', '-', '#', '/'].all (!Reader.isQuote ·) := by decide
  simpa [h] using List.all_eq_true.mp hd c hm

theorem isBlank_of_isQuote (h : Reader.isQuote c) : isBlank c = false := by
  by_contra hb
  have hn := not_mem_of_isBlank (by simpa using hb)
  simp_all [Reader.isQuote]

theorem begins_first (w : Bool) (c : Char) (cs : List Char) :
    Begins d (cs.drop (((Lexicon.shared d).first w c cs).source.length - 1))
      ((Lexicon.shared d).first w c cs) := by
  have hd : ((Lexicon.shared d).dollarQuotes && !w && decide (c = '$')) = false := rfl
  unfold Lexicon.first
  rw [hd]
  split_ifs with hs hl hb hq hf hw
  case pos => exact .separator
  case pos =>
    have hr : cs.drop (cs.takeWhile (· ≠ '\n')).length = cs.dropWhile (· ≠ '\n') :=
      Reader.drop_length_takeWhile _ cs
    simp only [source, List.length_cons, Nat.add_sub_cancel, hr]
    refine .lineComment ?_ ?_ ?_
    case refine_1 => simpa only [List.takeWhile_append_dropWhile] using hl
    case refine_2 => exact fun hm => by simpa using List.all_eq_true.mp List.all_takeWhile _ hm
    case refine_3 =>
      intro x hx
      have hn := List.head?_dropWhile_not (· ≠ '\n') cs
      simp only [Option.mem_def.mp hx] at hn
      simpa using hn
  case pos =>
    obtain ⟨rfl, hh⟩ : c = '/' ∧ cs.head? = some '*' := by simpa using hb
    obtain ⟨cs', rfl⟩ := List.head?_eq_some_iff.mp hh
    have hz : Lexicon.sizeThrough ['*', '/'] cs' ≤ cs'.length := Lexicon.sizeThrough_le
    simp [source, hz, Begins.blockComment]
  case pos =>
    have hz : (Lexicon.shared d).quotedSize c cs ≤ cs.length := Lexicon.quotedSize_le
    simp [source, hz, hq, Begins.quoted]
  case pos => contradiction
  case pos => exact .blank hw
  case neg => exact .plain hs hl (by simpa [source] using hb) hq (by simpa using hw)

theorem Begins.first_eq (h : Begins d rest l) (w : Bool) :
    ∃ c cs, l.source = c :: cs ∧ (Lexicon.shared d).first w c (cs ++ rest) = l := by
  have hd : ∀ c, ((Lexicon.shared d).dollarQuotes && !w && decide (c = '$')) = false := fun _ => rfl
  cases h
  case separator => exact ⟨';', [], rfl, rfl⟩
  case blank c h =>
    refine ⟨c, [], rfl, ?_⟩
    have hc := not_mem_of_isBlank h
    simp_all [Lexicon.first, Lexicon.startsLineComment, Reader.isQuote]
  case plain c hs hl hb hq hw =>
    refine ⟨c, [], rfl, ?_⟩
    simp [Lexicon.first, hd, hs, hl, hb, hq, hw]
  case quoted q cs hq h =>
    refine ⟨q, cs, rfl, ?_⟩
    have hc := not_mem_of_isQuote hq
    simp_all [Lexicon.first, Lexicon.startsLineComment]
  case lineComment c cs hl hn hr =>
    refine ⟨c, cs, rfl, ?_⟩
    have hs : c ≠ ';' := by
      rintro rfl
      simp [Lexicon.startsLineComment] at hl
    have hm : ∀ x ∈ cs, decide (x ≠ '\n') := fun x hx => decide_eq_true (ne_of_mem_of_not_mem hx hn)
    have ht : (cs ++ rest).takeWhile (· ≠ '\n') = cs :=
      takeWhile_append_of_head hm (by simpa using hr)
    simp only [Lexicon.first, hs, hl, ht, if_true, if_false]
  case blockComment cs h =>
    refine ⟨'/', '*' :: cs, rfl, ?_⟩
    simp [Lexicon.first, Lexicon.startsLineComment, h]

def isBlank : Lexeme → Bool
  | blank _ => true
  | _ => false

def isLineComment : Lexeme → Bool
  | lineComment _ => true
  | _ => false

-- Without blanks at its end, which only an open text or comment has.
def shortened : Lexeme → Lexeme
  | quoted text => quoted (trimEnd text)
  | blockComment text => blockComment (trimEnd text)
  | l => l

-- What a lexeme stands before can change as long as nothing goes on with it.
theorem Begins.replaced (h : Begins d rest l) (hl : l.isLineComment = false)
    (hr : Replaces rest' rest) : Begins d rest' l := by
  have hh : ∀ c, c ≠ ';' → Text.isBlank c = false → rest.head? ≠ some c → rest'.head? ≠ some c := by
    intro c hs hb hc
    cases hr
    case inl hr => rwa [hr]
    case inr hr => exact hr.2.head?_ne hs hb
  cases h
  case separator => exact .separator
  case blank h => exact .blank h
  case plain c hs hl hb hq hw =>
    refine .plain hs ?_ ?_ hq hw
    case refine_1 =>
      have hn := hh '-' (by decide) (by decide)
      simp_all [Lexicon.startsLineComment]
    case refine_2 =>
      have hn := hh '*' (by decide) (by decide)
      simp_all
  case quoted q cs hq h =>
    refine .quoted hq (Lexicon.quotedSize_replaced h ?_)
    have hs : q ≠ ';' := by have := not_mem_of_isQuote hq; simp_all
    exact hr.imp_right (And.imp_right fun ha => ha.head?_ne hs (isBlank_of_isQuote hq))
  case lineComment => contradiction
  case blockComment h =>
    refine .blockComment (Lexicon.sizeThrough_replaced h ?_)
    rintro rfl
    cases hr <;> simp_all

theorem Begins.isBlank_head (h : Begins d rest l) :
    ∀ c ∈ l.source.head?, Text.isBlank c = l.isBlank := by
  cases h
  case lineComment c cs hl hn hr =>
    have hc : c = '-' ∨ c = '#' := by
      simp only [Lexicon.startsLineComment] at hl
      grind
    cases hc <;> simp_all [source, isBlank] <;> decide
  case quoted hq h => simp [source, isBlank, isBlank_of_isQuote hq]
  all_goals simp_all [source, isBlank]
  all_goals decide

-- A closed lexeme ends with what closes it.
theorem Begins.trimEnd_source (h : Begins d rest l) (hb : l.isBlank = false)
    (hl : l.isLineComment = false) (hr : rest ≠ []) : trimEnd l.source = l.source := by
  apply trimEnd_of_last
  cases h
  case separator => simp [source, Text.isBlank]
  case blank => contradiction
  case plain hw => simpa [source] using hw
  case quoted hq h =>
    have hc := Lexicon.quotedSize_closed h hr
    simp [source, List.getLast?_cons, hc, isBlank_of_isQuote hq]
  case lineComment => contradiction
  case blockComment h =>
    have hc := Lexicon.sizeThrough_closed h hr
    simp [source, List.getLast?_cons, hc]
    decide

theorem Begins.shortened (h : Begins d rest l) (hb : l.isBlank = false)
    (hl : l.isLineComment = false) (ha : Apart rest') (hr : rest = [] → rest' = []) :
    Begins d rest' l.shortened := by
  by_cases hn : rest = []
  case neg =>
    have hs := h.trimEnd_source hb hl hn
    have he : l.shortened = l := by cases l <;> simp_all [Lexeme.shortened, source]
    rw [he]
    exact h.replaced hl (.inr ⟨hn, ha⟩)
  case pos =>
    rw [hr hn]
    subst hn
    have hp : ∀ cs, trimEnd cs <+: cs := trimEnd_prefix
    cases h
    case separator => exact .separator
    case blank => contradiction
    case plain hs hc ho hq hw => exact .plain hs hc ho hq hw
    case quoted q cs hq h =>
      have ht : trimEnd ([q] ++ cs) = [q] ++ trimEnd cs :=
        trimEnd_append (by simp [isBlank_of_isQuote hq])
      rw [List.append_nil] at h
      have hz := Lexicon.quotedSize_cut h (hp cs)
      rw [Lexeme.shortened, ← List.singleton_append, ht]
      exact .quoted hq (by simpa using hz)
    case lineComment => simp [isLineComment] at hl
    case blockComment cs h =>
      have ht : trimEnd (['/', '*'] ++ cs) = ['/', '*'] ++ trimEnd cs :=
        trimEnd_append (by simp [Text.isBlank])
      rw [List.append_nil] at h
      have hz := Lexicon.sizeThrough_cut h (hp cs)
      have hj : '/' :: '*' :: cs = ['/', '*'] ++ cs := rfl
      rw [Lexeme.shortened, hj, ht]
      exact .blockComment (by simpa using hz)

end Lexeme
end TypedRows.Ddl.Script
