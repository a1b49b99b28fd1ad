import TypedRows.Text.Escape

namespace TypedRows.Text.Escape

-- A character stands for itself or for a backslash and the letter that reads back as it.
theorem quotedChar_cases (c : Char) :
    (c ∉ ['\\', '\x22', '\n', '\r', '\t'] ∧ quotedChar c = [c]) ∨
      (c ∈ ['\\', '\x22', '\n', '\r', '\t'] ∧
        ∃ x ∈ ['\\', '\x22', 'n', 'r', 't'], quotedChar c = ['\\', x] ∧ unescapedChar x = c) := by
  unfold quotedChar
  split
  case h_1 => exact .inr ⟨by decide, '\\', by decide, rfl, rfl⟩
  case h_2 => exact .inr ⟨by decide, '\x22', by decide, rfl, rfl⟩
  case h_3 => exact .inr ⟨by decide, 'n', by decide, rfl, rfl⟩
  case h_4 => exact .inr ⟨by decide, 'r', by decide, rfl, rfl⟩
  case h_5 => exact .inr ⟨by decide, 't', by decide, rfl, rfl⟩
  case h_6 => exact .inl ⟨by simp_all, rfl⟩

theorem quotedChars_cons (c : Char) (cs : List Char) :
    quotedChars (c :: cs) = quotedChar c ++ quotedChars cs :=
  List.flatMap_cons

theorem head?_quotedChars {c : Char} {cs : List Char} (h : (quotedChars cs).head? = some c)
    (hc : c ≠ '\\') : cs.head? = some c := by
  cases cs
  case nil => exact h
  case cons x cs =>
    rw [quotedChars_cons] at h
    rcases quotedChar_cases x with ⟨_, hx⟩ | ⟨_, y, _, hx, _⟩
    case inl => rw [hx] at h; exact h
    case inr =>
      rw [hx] at h
      cases h
      contradiction

theorem mem_quotedChars {c : Char} (hc : c ∉ ['\\', '\x22', '\n', '\r', '\t', 'n', 'r', 't'])
    (cs : List Char) : c ∈ quotedChars cs ↔ c ∈ cs := by
  have hm : ∀ x, c ∈ quotedChar x ↔ c = x := by
    intro x
    rcases quotedChar_cases x with ⟨_, hx⟩ | ⟨hm, y, hy, hx, _⟩
    case inl => simp [hx]
    case inr => constructor <;> (intro h; simp_all)
  simp [quotedChars, hm]

theorem head?_guardClose (cs : List Char) : (guardClose cs).head? = cs.head? := by
  fun_cases guardClose cs <;> rfl

theorem guardClose_cons {c : Char} {cs : List Char} (h : c = '*' → cs.head? ≠ some '/') :
    guardClose (c :: cs) = c :: guardClose cs := by
  rw [guardClose]
  rintro cs rfl rfl
  exact h rfl rfl

theorem commentChars_close (cs : List Char) :
    commentChars ('*' :: '/' :: cs) = '*' :: '\\' :: '/' :: commentChars cs := rfl

theorem commentChars_cons {c : Char} {cs : List Char} (h : c = '*' → cs.head? ≠ some '/') :
    commentChars (c :: cs) = quotedChar c ++ commentChars cs := by
  unfold commentChars
  rw [quotedChars_cons]
  rcases quotedChar_cases c with ⟨_, hx⟩ | ⟨_, x, hm, hx, _⟩
  case inl =>
    have hg : c = '*' → (quotedChars cs).head? ≠ some '/' :=
      fun hc hq => h hc (head?_quotedChars hq (by decide))
    rw [hx, List.singleton_append, guardClose_cons hg]
    rfl
  case inr =>
    have hb : '\\' ≠ '*' := by decide
    have hs : x ≠ '*' := by rintro rfl; simp at hm
    rw [hx, List.cons_append, List.singleton_append, guardClose_cons fun hc => absurd hc hb,
      guardClose_cons fun hc => absurd hc hs]
    rfl

theorem unescapeChars_quotedChar (c : Char) (cs : List Char) :
    unescapeChars (quotedChar c ++ cs) = c :: unescapeChars cs := by
  rcases quotedChar_cases c with ⟨hc, hx⟩ | ⟨_, x, _, hx, hc⟩
  case inl =>
    have hb : c ≠ '\\' := by rintro rfl; simp at hc
    rw [hx, List.singleton_append, unescapeChars]
    · exact fun hc => absurd hc hb
    · exact fun _ _ hc => absurd hc hb
  case inr => rw [hx, ← hc]; rfl

theorem unescapeChars_quotedChars (cs : List Char) : unescapeChars (quotedChars cs) = cs := by
  induction cs
  case nil => rfl
  case cons c cs hi => rw [quotedChars_cons, unescapeChars_quotedChar, hi]

-- Cases as in the guard of closed comments, since the slash after a star has its own backslash.
theorem unescapeChars_commentChars (cs : List Char) : unescapeChars (commentChars cs) = cs := by
  fun_induction guardClose cs
  case case1 cs hi => rw [commentChars_close]; simp [unescapeChars, unescapedChar, hi]
  case case2 c cs hn hi =>
    have h : c = '*' → cs.head? ≠ some '/' := by
      intro hc hs
      obtain ⟨rest, rfl⟩ := List.head?_eq_some_iff.mp hs
      exact hn rest hc rfl
    rw [commentChars_cons h, unescapeChars_quotedChar, hi]
  case case3 => rfl

section Infixes

variable {a b c : Char}

theorem pair_prefix_cons {cs : List Char} : [a, b] <+: c :: cs ↔ a = c ∧ cs.head? = some b := by
  rw [List.cons_prefix_cons]
  cases cs <;> simp [List.cons_prefix_cons, eq_comm]

theorem mem_guardClose (hc : c ≠ '\\') (cs : List Char) : c ∈ guardClose cs ↔ c ∈ cs := by
  fun_induction guardClose cs
  case case1 cs hi => simp [hi, hc]
  case case2 x cs _ hi => simp [hi]
  case case3 => rfl

theorem mem_commentChars (hc : c ∉ ['\\', '\x22', '\n', '\r', '\t', 'n', 'r', 't'])
    (cs : List Char) : c ∈ commentChars cs ↔ c ∈ cs := by
  have hb : c ≠ '\\' := by rintro rfl; simp at hc
  rw [commentChars, mem_guardClose hb, mem_quotedChars hc]

-- Nothing closes a comment in its text.
theorem not_close_guardClose (cs : List Char) : ¬['*', '/'] <:+: guardClose cs := by
  fun_induction guardClose cs
  case case1 cs hi => simp [List.infix_cons_iff, hi]
  case case2 c cs hn hi =>
    intro h
    rcases List.infix_cons_iff.mp h with h | h
    case inl =>
      obtain ⟨rfl, hs⟩ := pair_prefix_cons.mp h
      obtain ⟨rest, rfl⟩ := List.head?_eq_some_iff.mp (head?_guardClose cs ▸ hs)
      exact hn rest rfl rfl
    case inr => exact hi h
  case case3 => simp

theorem pair_infix_quotedChars {cs : List Char} (ha : a ∉ ['\\', '\x22', 'n', 'r', 't'])
    (hb : b ≠ '\\') (h : [a, b] <:+: quotedChars cs) : [a, b] <:+: cs := by
  induction cs
  case nil => exact h
  case cons c cs hi =>
    rw [quotedChars_cons] at h
    rcases quotedChar_cases c with ⟨_, hx⟩ | ⟨_, y, hy, hx, _⟩
    case inl =>
      rw [hx, List.singleton_append] at h
      rcases List.infix_cons_iff.mp h with h | h
      case inl =>
        obtain ⟨rfl, hs⟩ := pair_prefix_cons.mp h
        exact (pair_prefix_cons.mpr ⟨rfl, head?_quotedChars hs hb⟩).isInfix
      case inr => exact List.infix_cons (hi h)
    case inr =>
      have hya : a ≠ y := by rintro rfl; exact ha hy
      have hba : a ≠ '\\' := by rintro rfl; simp at ha
      rw [hx] at h
      simp only [List.cons_append, List.nil_append, List.infix_cons_iff, pair_prefix_cons, hya, hba,
        false_and, false_or] at h
      exact List.infix_cons (hi h)

theorem pair_infix_guardClose {cs : List Char} (ha : a ∉ ['*', '\\', '/'])
    (h : [a, b] <:+: guardClose cs) : [a, b] <:+: cs := by
  fun_induction guardClose cs
  case case1 cs hi =>
    simp only [List.mem_cons, List.not_mem_nil, or_false, not_or] at ha
    simp only [List.infix_cons_iff, pair_prefix_cons, ha, false_and, false_or] at h
    exact List.infix_cons (List.infix_cons (hi h))
  case case2 c cs _ hi =>
    rcases List.infix_cons_iff.mp h with h | h
    case inl =>
      obtain ⟨rfl, hs⟩ := pair_prefix_cons.mp h
      exact (pair_prefix_cons.mpr ⟨rfl, head?_guardClose cs ▸ hs⟩).isInfix
    case inr => exact List.infix_cons (hi h)
  case case3 => exact h

-- Two characters that need no escape stand together in a comment only if they do in its text.
theorem pair_infix_commentChars {cs : List Char}
    (ha : a ∉ ['*', '\\', '/', '\x22', 'n', 'r', 't']) (hb : b ≠ '\\')
    (h : [a, b] <:+: commentChars cs) : [a, b] <:+: cs := by
  simp only [List.mem_cons, List.not_mem_nil, or_false, not_or] at ha
  apply pair_infix_quotedChars (by simp [ha]) hb
  exact pair_infix_guardClose (by simp [ha]) h

-- Two characters that need no escape stay together.
theorem pair_infix_commentChars_of_infix {cs : List Char}
    (ha : a ∉ ['*', '/', '\\', '\x22', '\n', '\r', '\t']) (hb : b ∉ ['\\', '\x22', '\n', '\r', '\t'])
    (h : [a, b] <:+: cs) : [a, b] <:+: commentChars cs := by
  have hq : quotedChar a = [a] := by
    rcases quotedChar_cases a with ⟨_, hq⟩ | ⟨hm, _⟩
    case inl => exact hq
    case inr => exact (ha (List.mem_cons_of_mem _ (List.mem_cons_of_mem _ hm))).elim
  simp only [List.mem_cons, not_or] at ha
  fun_induction guardClose cs
  case case1 cs hi =>
    simp only [List.infix_cons_iff, pair_prefix_cons, ha, false_and, false_or] at h
    exact List.infix_cons (List.infix_cons (List.infix_cons (hi h)))
  case case2 c cs hn hi =>
    have hc : c = '*' → cs.head? ≠ some '/' := by
      intro hc hs
      obtain ⟨rest, rfl⟩ := List.head?_eq_some_iff.mp hs
      exact hn rest hc rfl
    rw [commentChars_cons hc]
    rcases List.infix_cons_iff.mp h with h | h
    case inl =>
      obtain ⟨rfl, hs⟩ := pair_prefix_cons.mp h
      obtain ⟨rest, rfl⟩ := List.head?_eq_some_iff.mp hs
      have hh : (commentChars (b :: rest)).head? = some b := by
        rcases quotedChar_cases b with ⟨_, hx⟩ | ⟨hm, _⟩
        case inl => rw [commentChars, head?_guardClose, quotedChars_cons, hx]; rfl
        case inr => exact (hb hm).elim
      rw [hq]
      exact (pair_prefix_cons.mpr ⟨rfl, hh⟩).isInfix
    case inr => exact (hi h).trans (List.suffix_append _ _).isInfix
  case case3 => exact h

end Infixes

end TypedRows.Text.Escape
