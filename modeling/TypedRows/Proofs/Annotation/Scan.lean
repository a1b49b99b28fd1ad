import TypedRows.Model.Annotation

namespace TypedRows.ColumnAnnotation.Spelling

-- Pieces of a line between its quotes: a backslash takes the next character with it.
inductive Closed : List Char → Prop
  | nil : Closed []
  | plain {c : Char} {cs : List Char} (hc : c ∉ ['\x22', '\\', '\n', '\r']) (h : Closed cs) :
    Closed (c :: cs)
  | escape {c : Char} {cs : List Char} (hc : c ∉ ['\n', '\r']) (h : Closed cs) :
    Closed ('\\' :: c :: cs)

namespace Closed

variable {a b cs : List Char}

theorem append (ha : Closed a) (hb : Closed b) : Closed (a ++ b) := by
  induction ha
  case nil => exact hb
  case plain hc _ hi => exact hi.plain hc
  case escape hc _ hi => exact hi.escape hc

theorem of_forall (h : ∀ c ∈ cs, c ∉ ['\x22', '\\', '\n', '\r']) : Closed cs := by
  induction cs
  case nil => exact .nil
  case cons c cs hi =>
    have ⟨hc, hcs⟩ := List.forall_mem_cons.mp h
    exact (hi hcs).plain hc

-- The same as a computation, for texts that are known.
def check : List Char → Bool
  | '\\' :: c :: cs => !(['\n', '\r'].contains c) && check cs
  | c :: cs => !(['\x22', '\\', '\n', '\r'].contains c) && check cs
  | [] => true

theorem of_check (h : check cs) : Closed cs := by
  fun_induction check cs
  case case1 c cs hi =>
    have ⟨hc, hcs⟩ := Bool.and_eq_true_iff.mp h
    exact (hi hcs).escape (by simpa using hc)
  case case2 c cs _ hi =>
    have ⟨hc, hcs⟩ := Bool.and_eq_true_iff.mp h
    exact (hi hcs).plain (by simpa using hc)
  case case3 => exact .nil

theorem no_lineBreak (h : Closed cs) : '\n' ∉ cs ∧ '\r' ∉ cs := by
  induction h
  case nil => simp
  case plain hc _ hi =>
    simp only [List.mem_cons, List.not_mem_nil, or_false, not_or] at hc hi ⊢
    exact ⟨⟨Ne.symm hc.2.2.1, hi.1⟩, ⟨Ne.symm hc.2.2.2, hi.2⟩⟩
  case escape hc _ hi =>
    simp only [List.mem_cons, List.not_mem_nil, or_false, not_or] at hc hi ⊢
    exact ⟨⟨by decide, Ne.symm hc.1, hi.1⟩, ⟨by decide, Ne.symm hc.2, hi.2⟩⟩

theorem quotedName_plain {c : Char} (hc : c ∉ ['\x22', '\\', '\n', '\r']) (rest : List Char) :
    quotedName (c :: rest) = (quotedName rest).map fun (name, after) => (c :: name, after) := by
  simp only [List.mem_cons, List.not_mem_nil, or_false, not_or] at hc
  rw [quotedName.eq_def]
  split <;> simp_all

theorem quotedName_escape {c : Char} (hc : c ∉ ['\n', '\r']) (rest : List Char) :
    quotedName ('\\' :: c :: rest) =
      (quotedName rest).map fun (name, after) => ('\\' :: c :: name, after) := by
  simp only [List.mem_cons, List.not_mem_nil, or_false, not_or] at hc
  simp [quotedName, hc.1]

theorem quotedName_append (h : Closed cs) (rest : List Char) :
    quotedName (cs ++ '\x22' :: rest) = some (cs, rest) := by
  induction h
  case nil => rfl
  case plain hc _ hi => rw [List.cons_append, quotedName_plain hc, hi]; rfl
  case escape hc _ hi => rw [List.cons_append, List.cons_append, quotedName_escape hc, hi]; rfl

theorem quotedName_eq_none (h : Closed cs) : quotedName cs = none := by
  induction h
  case nil => rfl
  case plain hc _ hi => rw [quotedName_plain hc, hi]; rfl
  case escape hc _ hi => rw [quotedName_escape hc, hi]; rfl

-- A word before a quote is a whole piece, if it begins where a piece does.
theorem isPrefixOf_append {w : List Char} (hw : ∀ c ∈ w, c ∉ ['\x22', '\\']) (h : Closed cs)
    (rest : List Char) :
    (w ++ ['\x22']).isPrefixOf (cs ++ '\x22' :: rest) ↔ cs = w := by
  induction w generalizing cs
  case nil =>
    cases h
    case nil => simp
    case plain c _ hc _ =>
      have hc : '\x22' ≠ c := by rintro rfl; simp at hc
      simp [List.isPrefixOf, hc]
    case escape => simp [List.isPrefixOf]
  case cons x w hi =>
    have ⟨hx, hw⟩ := List.forall_mem_cons.mp hw
    simp only [List.mem_cons, List.not_mem_nil, or_false, not_or] at hx
    cases h
    case nil => simp [List.isPrefixOf, hx.1]
    case plain c cs _ h =>
      rw [List.cons_append, List.cons_append, List.isPrefixOf_cons_cons, Bool.and_eq_true, hi hw h,
        beq_iff_eq, List.cons.injEq, eq_comm]
    case escape => simp [List.isPrefixOf, hx.2, Ne.symm hx.2]

theorem not_isPrefixOf {w : List Char} (hw : ∀ c ∈ w, c ∉ ['\x22', '\\']) (h : Closed cs) :
    ¬(w ++ ['\x22']).isPrefixOf cs := by
  induction w generalizing cs
  case nil =>
    cases h
    case nil => simp
    case plain c _ hc _ =>
      have hc : '\x22' ≠ c := by rintro rfl; simp at hc
      simp [List.isPrefixOf, hc]
    case escape => simp [List.isPrefixOf]
  case cons x w hi =>
    have ⟨hx, hw⟩ := List.forall_mem_cons.mp hw
    simp only [List.mem_cons, List.not_mem_nil, or_false, not_or] at hx
    cases h
    case nil => simp
    case plain h => simpa [List.isPrefixOf] using fun _ => hi hw h
    case escape => simp [List.isPrefixOf, hx.2]

end Closed

-- What stands before the quote that opens a name.
def word : List Char :=
  "column ".toList

-- The spelling of an annotation from what follows the quote that closes its name.
def typed? (name : List Char) : List Char → Option Spelling
  | ' ' :: rest =>
    let letters := rest.takeWhile isSmall
    if letters.isEmpty then none
    else
      let (arguments, rest) := typeArguments (rest.dropWhile isSmall)
      some ⟨name, letters ++ arguments, leadingFlags rest⟩
  | _ => none

-- The spelling of an annotation from what follows the quote that opens its name.
def named? (cs : List Char) : Option Spelling :=
  (quotedName cs).bind fun (name, rest) => typed? name rest

theorem atStart?_eq (cs : List Char) : atStart? cs = (afterOpening? cs).bind named? := by
  unfold atStart? named?
  cases afterOpening? cs
  case none => rfl
  case some cs =>
    cases quotedName cs
    case none => rfl
    case some p =>
      obtain ⟨name, rest⟩ := p
      simp only [bind, Option.bind]
      unfold typed?
      rfl

variable {x : Char} {cs : List Char}

theorem opening_isPrefixOf (x : Char) (cs : List Char) :
    opening.isPrefixOf (x :: cs) = ('c' == x && ("olumn ".toList ++ ['\x22']).isPrefixOf cs) := rfl

theorem word_tail_plain : ∀ c ∈ "olumn ".toList, c ∉ ['\x22', '\\'] := by simp

theorem atStart?_of_ne (hx : 'c' ≠ x) (cs : List Char) : atStart? (x :: cs) = none := by
  have hn : ¬opening.isPrefixOf (x :: cs) := by simp [opening_isPrefixOf, hx]
  rw [atStart?_eq, afterOpening?, if_neg hn]
  rfl

theorem atStart?_closed (h : Closed cs) : atStart? (x :: cs) = none := by
  have hn : ¬opening.isPrefixOf (x :: cs) := by
    rw [opening_isPrefixOf, Bool.and_eq_true]
    exact fun hp => h.not_isPrefixOf word_tail_plain hp.2
  rw [atStart?_eq, afterOpening?, if_neg hn]
  rfl

-- The first character may be one that a backslash takes with it.
theorem atStart?_closed_append (h : Closed cs) (rest : List Char) :
    atStart? (x :: cs ++ '\x22' :: rest) = if x :: cs = word then named? rest else none := by
  have hp : opening.isPrefixOf (x :: cs ++ '\x22' :: rest) ↔ x :: cs = word := by
    have hw : word = 'c' :: "olumn ".toList := rfl
    rw [List.cons_append, opening_isPrefixOf, Bool.and_eq_true,
      h.isPrefixOf_append word_tail_plain, hw, List.cons.injEq, beq_iff_eq, eq_comm]
  rw [atStart?_eq, afterOpening?]
  by_cases hw : x :: cs = word
  case pos => rw [if_pos (hp.mpr hw), if_pos hw, hw]; rfl
  case neg => rw [if_neg (mt hp.mp hw), if_neg hw]; rfl

theorem first?_closed (h : Closed cs) : first? cs = none := by
  induction h
  case nil => rfl
  case plain h hi => rw [first?, atStart?_closed h, hi]; rfl
  case escape c cs hc h hi =>
    rw [first?, atStart?_of_ne (by decide), first?, atStart?_closed h, hi]
    rfl

theorem word_isSuffixOf_cons (x : Char) (cs : List Char) (hx : x :: cs = word) : ¬word <:+ cs := by
  intro hs
  have hl : word.length ≤ cs.length := hs.length_le
  rw [← hx, List.length_cons] at hl
  omega

-- A quote opens a name if the word stands before it.
theorem first?_closed_append (h : Closed cs) (rest : List Char) :
    first? (cs ++ '\x22' :: rest) =
      (if word <:+ cs then named? rest else none).or (first? rest) := by
  have hc : ∀ (x : Char) {cs : List Char}, Closed cs →
      first? (cs ++ '\x22' :: rest) =
        (if word <:+ cs then named? rest else none).or (first? rest) →
      first? (x :: cs ++ '\x22' :: rest) =
        (if word <:+ x :: cs then named? rest else none).or (first? rest) := by
    intro x cs h hi
    have hf : first? (x :: cs ++ '\x22' :: rest) =
        (atStart? (x :: cs ++ '\x22' :: rest)).or (first? (cs ++ '\x22' :: rest)) := rfl
    rw [hf, atStart?_closed_append h, hi]
    by_cases hx : x :: cs = word
    case pos =>
      rw [if_pos hx, if_neg (word_isSuffixOf_cons x cs hx), if_pos (hx ▸ List.suffix_refl _)]
      rfl
    case neg => simp [hx, List.suffix_cons_iff, Ne.symm hx]
  induction h
  case nil =>
    have hf : first? ([] ++ '\x22' :: rest) = (atStart? ('\x22' :: rest)).or (first? rest) := rfl
    have hw : ¬word <:+ [] := by decide
    rw [hf, atStart?_of_ne (by decide), if_neg hw]
  case plain h hi => exact hc _ h hi
  case escape x cs _ h hi =>
    have hf : first? ('\\' :: x :: cs ++ '\x22' :: rest) =
        (atStart? ('\\' :: (x :: cs ++ '\x22' :: rest))).or (first? (x :: cs ++ '\x22' :: rest)) :=
      rfl
    have hw : word <:+ '\\' :: x :: cs ↔ word <:+ x :: cs := by
      rw [List.suffix_cons_iff, or_iff_right]
      intro hw
      have hh : some 'c' = some '\\' := congrArg List.head? hw
      exact absurd hh (by decide)
    rw [hf, atStart?_of_ne (by decide), Option.none_or, hc x h hi]
    simp only [hw]

-- The text of a line from the pieces between its quotes.
def inQuotes (p : List Char) : List (List Char) → List Char
  | [] => p
  | q :: qs => p ++ '\x22' :: inQuotes q qs

-- The first annotation in such a text.
-- One begins only where a piece ends with the word. Its name is the next piece, and its type
-- stands at the beginning of the one after that.
def firstIn? (p : List Char) : List (List Char) → Option Spelling
  | [] => none
  | [_] => none
  | name :: after :: qs =>
    (if word <:+ p then typed? name (inQuotes after qs) else none).or (firstIn? name (after :: qs))

theorem first?_inQuotes {p : List Char} {ps : List (List Char)} (hp : Closed p)
    (hps : ∀ q ∈ ps, Closed q) : first? (inQuotes p ps) = firstIn? p ps := by
  induction ps generalizing p
  case nil => exact first?_closed hp
  case cons q qs hi =>
    have ⟨hq, hqs⟩ := List.forall_mem_cons.mp hps
    rw [inQuotes, first?_closed_append hp, hi hq hqs]
    cases qs
    case nil =>
      have hn : named? (inQuotes q []) = none := by simp [named?, inQuotes, hq.quotedName_eq_none]
      rw [hn, ite_self]
      rfl
    case cons after qs =>
      have hn : named? (inQuotes q (after :: qs)) = typed? q (inQuotes after qs) := by
        simp [named?, inQuotes, hq.quotedName_append]
      rw [hn, firstIn?]

section Pieces

variable {name after : List Char} {qs : List (List Char)}

theorem typed?_eq_none (h : after.head? ≠ some ' ') : typed? name after = none := by
  unfold typed?
  split
  case h_1 => exact (h rfl).elim
  case h_2 => rfl

theorem typed?_column {s : Spelling} (h : typed? name after = some s) :
    s.column = name := by
  unfold typed? at h
  split at h
  case h_2 => cases h
  dsimp only at h
  split at h
  case isTrue => cases h
  case isFalse => cases h; rfl

-- A type begins with a small letter after a blank.
theorem isSome_typed? (name cs : List Char) :
    (typed? name (' ' :: cs)).isSome = cs.head?.any isSmall := by
  unfold typed?
  dsimp only
  cases cs
  case nil => rfl
  case cons c cs => cases hc : isSmall c <;> simp [hc]

theorem firstIn?_cons_cons (p name after : List Char) (qs : List (List Char)) :
    firstIn? p (name :: after :: qs) =
      (if word <:+ p then typed? name (inQuotes after qs) else none).or
        (firstIn? name (after :: qs)) := rfl

-- No annotation begins before a piece that no blank follows.
theorem firstIn?_of_head (h : (inQuotes after qs).head? ≠ some ' ') (p : List Char) :
    firstIn? p (name :: after :: qs) = firstIn? name (after :: qs) := by
  rw [firstIn?_cons_cons, typed?_eq_none h, ite_self, Option.none_or]

theorem firstIn?_of_not_suffix {p : List Char} (h : ¬word <:+ p) :
    firstIn? p (name :: after :: qs) = firstIn? name (after :: qs) := by
  rw [firstIn?_cons_cons, if_neg h, Option.none_or]

end Pieces

end TypedRows.ColumnAnnotation.Spelling
