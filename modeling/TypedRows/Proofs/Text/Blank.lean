import Mathlib.Data.List.Infix
import Mathlib.Data.List.TakeWhile
import Mathlib.Tactic.SplitIfs
import TypedRows.Text.Blank

namespace TypedRows.Text

theorem dropWhile_of_head {cs : List Char} {p : Char → Bool} (h : ∀ c ∈ cs.head?, p c = false) :
    cs.dropWhile p = cs := by
  cases cs
  case nil => rfl
  case cons c cs => exact List.dropWhile_cons_of_neg (by simpa using h)

theorem takeWhile_of_head {cs : List Char} {p : Char → Bool} (h : ∀ c ∈ cs.head?, p c = false) :
    cs.takeWhile p = [] := by
  cases cs
  case nil => rfl
  case cons c cs => exact List.takeWhile_cons_of_neg (by simpa using h)

section Cut

variable {cs rest : List Char} {p : Char → Bool}

-- A text is cut where its characters leave a class.
theorem takeWhile_append_of_head (h : ∀ c ∈ cs, p c) (hr : ∀ c ∈ rest.head?, p c = false) :
    (cs ++ rest).takeWhile p = cs := by
  rw [List.takeWhile_append_of_pos h, takeWhile_of_head hr, List.append_nil]

theorem dropWhile_append_of_head (h : ∀ c ∈ cs, p c) (hr : ∀ c ∈ rest.head?, p c = false) :
    (cs ++ rest).dropWhile p = rest := by
  rw [List.dropWhile_append_of_pos h, dropWhile_of_head hr]

variable {c : Char}

theorem takeWhile_ne_append (h : c ∉ cs) : (cs ++ c :: rest).takeWhile (· ≠ c) = cs :=
  takeWhile_append_of_head (fun _ hd => decide_eq_true fun he => h (he ▸ hd)) (by simp)

theorem dropWhile_ne_append (h : c ∉ cs) : (cs ++ c :: rest).dropWhile (· ≠ c) = c :: rest :=
  dropWhile_append_of_head (fun _ hd => decide_eq_true fun he => h (he ▸ hd)) (by simp)

end Cut

variable {cs w rest before after : List Char} {c : Char}

section Trim

theorem trimChars_of_ends (hh : ∀ c ∈ cs.head?, isBlank c = false)
    (hl : ∀ c ∈ cs.getLast?, isBlank c = false) : trimChars cs = cs := by
  have hr : ∀ c ∈ cs.reverse.head?, isBlank c = false := by simpa using hl
  rw [trimChars, trimStart, dropWhile_of_head hh, trimEnd, dropWhile_of_head hr,
    List.reverse_reverse]

theorem trimChars_of_unblank (h : ∀ c ∈ cs, isBlank c = false) : trimChars cs = cs :=
  trimChars_of_ends (fun c hc => h c (List.mem_of_mem_head? hc))
    fun c hc => h c (List.mem_of_mem_getLast? hc)

theorem trimStart_append (h : ∀ c ∈ before, isBlank c) : trimStart (before ++ cs) = trimStart cs :=
  List.dropWhile_append_of_pos h

theorem trimEnd_blank (h : ∀ c ∈ cs, isBlank c) : trimEnd cs = [] := by
  have hr : cs.reverse.dropWhile isBlank = [] :=
    List.dropWhile_eq_nil_iff.mpr fun c hc => h c (List.mem_reverse.mp hc)
  rw [trimEnd, hr, List.reverse_nil]

-- Trimming stops at the last character that is no blank.
theorem trimEnd_append (hc : ∀ c ∈ cs.getLast?, isBlank c = false) :
    trimEnd (cs ++ rest) = cs ++ trimEnd rest := by
  have hr : cs.reverse.dropWhile isBlank = cs.reverse := dropWhile_of_head (by simpa using hc)
  rw [trimEnd, trimEnd, List.reverse_append, List.dropWhile_append, hr]
  split_ifs with he
  case pos => rw [List.isEmpty_iff.mp he, List.reverse_reverse, List.reverse_nil, List.append_nil]
  case neg => rw [List.reverse_append, List.reverse_reverse]

theorem trimEnd_prefix (cs : List Char) : trimEnd cs <+: cs := by
  rw [trimEnd, ← List.reverse_suffix, List.reverse_reverse]
  exact List.dropWhile_suffix _

theorem trimEnd_of_last (h : ∀ c ∈ cs.getLast?, isBlank c = false) : trimEnd cs = cs := by
  have ha : trimEnd (cs ++ []) = cs ++ trimEnd [] := trimEnd_append h
  simpa [trimEnd] using ha

theorem trimEnd_eq_nil_iff : trimEnd cs = [] ↔ ∀ c ∈ cs, isBlank c := by
  simp [trimEnd, List.dropWhile_eq_nil_iff]

theorem trimEnd_append_eq (before after : List Char) : trimEnd (before ++ after) =
    if trimEnd after = [] then trimEnd before else before ++ trimEnd after := by
  simp only [trimEnd, List.reverse_append, List.dropWhile_append, List.reverse_eq_nil_iff,
    List.isEmpty_iff]
  split_ifs <;> simp

theorem isBlank_head?_trimStart (cs : List Char) : ∀ c ∈ (trimStart cs).head?, isBlank c = false := by
  intro c hc
  have hd := List.head?_dropWhile_not isBlank cs
  simpa only [show cs.dropWhile isBlank = trimStart cs from rfl, Option.mem_def.mp hc] using hd

theorem isBlank_getLast?_trimEnd (cs : List Char) :
    ∀ c ∈ (trimEnd cs).getLast?, isBlank c = false := by
  intro c hc
  refine isBlank_head?_trimStart cs.reverse c ?_
  simpa [trimEnd, trimStart] using hc

theorem trimEnd_trimEnd (cs : List Char) : trimEnd (trimEnd cs) = trimEnd cs :=
  trimEnd_of_last (isBlank_getLast?_trimEnd cs)

theorem trimChars_trimChars (cs : List Char) : trimChars (trimChars cs) = trimChars cs := by
  apply trimChars_of_ends
  case hh =>
    have ⟨rest, hr⟩ := trimEnd_prefix (trimStart cs)
    intro c hc
    refine isBlank_head?_trimStart cs c ?_
    rw [← hr]
    exact List.mem_head?_append_of_mem_head? hc
  case hl => exact isBlank_getLast?_trimEnd (trimStart cs)

theorem trimChars_surrounded (hb : ∀ c ∈ before, isBlank c) (hw : ∀ c ∈ w, isBlank c = false)
    (ha : ∀ c ∈ after, isBlank c) : trimChars (before ++ w ++ after) = w := by
  rw [List.append_assoc, trimChars, trimStart_append hb]
  cases hn : w
  case nil =>
    have hs : trimStart after = [] := List.dropWhile_eq_nil_iff.mpr ha
    rw [List.nil_append, hs]
    rfl
  case cons c cs =>
    have hh : ∀ d ∈ (w ++ after).head?, isBlank d = false := by
      simpa [hn] using hw c (hn ▸ List.mem_cons_self)
    have hl : ∀ d ∈ w.getLast?, isBlank d = false := fun d hd => hw d (List.mem_of_mem_getLast? hd)
    rw [← hn, trimStart, dropWhile_of_head hh, trimEnd_append hl, trimEnd_blank ha,
      List.append_nil]

-- What trimming takes off.
theorem exists_eq_trimEnd (cs : List Char) :
    ∃ after, cs = trimEnd cs ++ after ∧ ∀ c ∈ after, isBlank c := by
  refine ⟨(cs.reverse.takeWhile isBlank).reverse, ?_, ?_⟩
  case refine_1 =>
    rw [trimEnd, ← List.reverse_append, List.takeWhile_append_dropWhile, List.reverse_reverse]
  case refine_2 => exact fun c hc => List.mem_takeWhile_imp (List.mem_reverse.mp hc)

theorem exists_eq_trimChars (cs : List Char) : ∃ before after,
    cs = before ++ trimChars cs ++ after ∧ (∀ c ∈ before, isBlank c) ∧ ∀ c ∈ after, isBlank c := by
  obtain ⟨after, he, ha⟩ := exists_eq_trimEnd (trimStart cs)
  refine ⟨cs.takeWhile isBlank, after, ?_, fun c hc => List.mem_takeWhile_imp hc, ha⟩
  rw [List.append_assoc, trimChars, ← he, trimStart, List.takeWhile_append_dropWhile]

end Trim

section Words

theorem words_blank (h : isBlank c) : words (c :: cs) = words cs := by
  cases cs <;> simp [words, piecesBy, h]

theorem words_append_blanks (h : ∀ c ∈ before, isBlank c) : words (before ++ cs) = words cs := by
  induction before
  case nil => rfl
  case cons c before hi =>
    obtain ⟨hc, hb⟩ := List.forall_mem_cons.mp h
    rw [List.cons_append, words_blank hc, hi hb]

theorem words_cons (h : isBlank c = false) (hr : ∀ d ∈ rest.head?, isBlank d) :
    words (c :: rest) = [c] :: words rest := by
  cases rest
  case nil => simp [words, piecesBy, h]
  case cons d rest =>
    have hd : isBlank d := hr d rfl
    simp [words, piecesBy, h, hd]

theorem words_extend {ws : List (List Char)} {d : Char} (hc : isBlank c = false)
    (hd : isBlank d = false) (h : words (d :: cs) = w :: ws) :
    words (c :: d :: cs) = (c :: w) :: ws := by
  rw [words] at h ⊢
  unfold piecesBy
  simp only [hc, hd, h, Bool.false_eq_true, if_false]

-- A word that ends where a blank or nothing follows.
theorem words_append (hw : ∀ c ∈ w, isBlank c = false) (hn : w ≠ [])
    (hr : ∀ d ∈ rest.head?, isBlank d) : words (w ++ rest) = w :: words rest := by
  induction w
  case nil => exact (hn rfl).elim
  case cons c w hi =>
    obtain ⟨hc, hw⟩ := List.forall_mem_cons.mp hw
    rcases w with _ | ⟨d, w⟩
    case nil => exact words_cons hc hr
    case cons =>
      have hd : isBlank d = false := hw d List.mem_cons_self
      exact words_extend hc hd (hi hw (List.cons_ne_nil d w))

-- A text holds only blanks, or begins with a word.
@[elab_as_elim]
theorem words_induction {motive : List Char → Prop}
    (blanks : ∀ cs, (∀ c ∈ cs, isBlank c) → motive cs)
    (word : ∀ before w rest, (∀ c ∈ before, isBlank c) → (∀ c ∈ w, isBlank c = false) → w ≠ [] →
      (∀ c ∈ rest.head?, isBlank c) → motive rest → motive (before ++ (w ++ rest)))
    (cs : List Char) : motive cs := by
  by_cases h : trimStart cs = []
  case pos => exact blanks cs (List.dropWhile_eq_nil_iff.mp h)
  case neg =>
    have hs : cs.takeWhile isBlank ++ trimStart cs = cs := List.takeWhile_append_dropWhile
    have hw : (trimStart cs).takeWhile (!isBlank ·) ++ (trimStart cs).dropWhile (!isBlank ·) =
      trimStart cs := List.takeWhile_append_dropWhile
    have hn : (trimStart cs).takeWhile (!isBlank ·) ≠ [] := by
      obtain ⟨c, rest, hc⟩ := List.exists_cons_of_ne_nil h
      have hb := isBlank_head?_trimStart cs c (by rw [hc]; rfl)
      simp [hc, hb]
    have hr : ∀ c ∈ ((trimStart cs).dropWhile (!isBlank ·)).head?, isBlank c := by
      intro c hc
      have hd := List.head?_dropWhile_not (!isBlank ·) (trimStart cs)
      simpa [Option.mem_def.mp hc] using hd
    have hl : ((trimStart cs).dropWhile (!isBlank ·)).length < cs.length := by
      have hp := List.length_pos_of_ne_nil hn
      have hs := congrArg List.length hs
      have hw := congrArg List.length hw
      simp only [List.length_append] at hs hw
      omega
    rw [← hs, ← hw]
    exact word _ _ _ (fun c hc => List.mem_takeWhile_imp hc)
      (fun c hc => by simpa using List.mem_takeWhile_imp hc) hn hr (words_induction blanks word _)
termination_by cs.length

theorem words_of_blanks (h : ∀ c ∈ cs, isBlank c) : words cs = [] := by
  rw [← List.append_nil cs, words_append_blanks h]
  rfl

-- No word goes over a blank.
theorem words_append_cons (h : isBlank c) (cs rest : List Char) :
    words (cs ++ c :: rest) = words cs ++ words rest := by
  induction cs using words_induction
  case blanks cs hb =>
    rw [words_append_blanks hb, words_blank h, words_of_blanks hb, List.nil_append]
  case word before w cs hb hw hn hr hi =>
    have hc : ∀ d ∈ (cs ++ c :: rest).head?, isBlank d := by
      cases cs
      case nil => simpa using h
      case cons => simpa using hr
    rw [List.append_assoc, List.append_assoc, words_append_blanks hb, words_append_blanks hb,
      words_append hw hn hc, words_append hw hn hr, hi, List.cons_append]

theorem words_trimStart (cs : List Char) : words (trimStart cs) = words cs := by
  have hb : ∀ c ∈ cs.takeWhile isBlank, isBlank c := fun c hc => List.mem_takeWhile_imp hc
  rw [← words_append_blanks hb, trimStart, List.takeWhile_append_dropWhile]

theorem words_trimEnd (cs : List Char) : words (trimEnd cs) = words cs := by
  obtain ⟨after, he, ha⟩ := exists_eq_trimEnd cs
  conv_rhs => rw [he]
  cases after
  case nil => rw [List.append_nil]
  case cons c after =>
    obtain ⟨hc, ha⟩ := List.forall_mem_cons.mp ha
    rw [words_append_cons hc, words_of_blanks ha, List.append_nil]

theorem words_trimChars (cs : List Char) : words (trimChars cs) = words cs := by
  rw [trimChars, words_trimEnd, words_trimStart]

theorem flatten_words (cs : List Char) : (words cs).flatten = cs.filter (!isBlank ·) := by
  unfold words
  fun_induction piecesBy isBlank cs
  case case1 => rfl
  case case2 c cs hc hi => simp [hc, hi]
  case case3 c hc => simp [hc]
  case case4 c hc d cs hd hi => simp [hc, hi]
  case case5 c hc d cs hd hp hi => simp [hp, hd] at hi
  case case6 c hc d cs hd w ws hp hi =>
    rw [hp] at hi ⊢
    rw [List.flatten_cons, List.cons_append, ← List.flatten_cons, hi]
    simp [hc]

theorem exists_mem_words (hc : isBlank c = false) (h : c ∈ cs) : ∃ w ∈ words cs, c ∈ w := by
  have hf : c ∈ (words cs).flatten := by
    rw [flatten_words]
    exact List.mem_filter.mpr ⟨h, by simp [hc]⟩
  exact List.mem_flatten.mp hf

end Words

end TypedRows.Text
