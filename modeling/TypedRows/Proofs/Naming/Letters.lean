import TypedRows.Proofs.Naming.Identifier

namespace TypedRows

open Text

namespace Text

theorem forall_ascii {P : Char → Prop} (h : ∀ n < 128, P (Char.ofNat n)) {c : Char}
    (hc : c.toNat < 128) : P c := by
  simpa using h c.toNat hc

theorem lowerChars_ascii {cs : List Char} (h : ∀ c ∈ cs, c.toNat < 128) :
    lowerChars cs = cs.map Char.toLower := by
  have ha : ∀ before, LetterCase.lowerAfter before cs = cs.map Char.toLower := by
    induction cs
    case nil => exact fun _ => rfl
    case cons c cs hi =>
      intro before
      have ⟨hc, hcs⟩ := List.forall_mem_cons.mp h
      have hs : c ≠ 'Σ' := by rintro rfl; exact absurd hc (by decide)
      rw [LetterCase.lowerAfter, if_neg hs, hi hcs, LetterCase.lowerChar, if_pos hc]
      rfl
  exact ha []

end Text

namespace Identifier

-- Without marks and in small letters.
def letters (cs : List Char) : List Char :=
  (cs.filter Char.isAlphanum).map Char.toLower

variable {cs : List Char}

theorem letters_cons (c : Char) (cs : List Char) :
    letters (c :: cs) = (if c.isAlphanum then [c.toLower] else []) ++ letters cs := by
  unfold letters
  split_ifs with h <;> simp [h]

theorem letters_reverse (cs : List Char) : letters cs.reverse = (letters cs).reverse := by
  simp [letters]

theorem letters_dropWhile {p : Char → Bool} (h : ∀ c, p c → c.isAlphanum = false) (cs : List Char) :
    letters (cs.dropWhile p) = letters cs := by
  induction cs
  case nil => rfl
  case cons c cs hi =>
    rw [List.dropWhile_cons]
    split_ifs with hc
    case pos => rw [hi, letters_cons, h c hc]; rfl
    case neg => rfl

theorem letters_trimChars (cs : List Char) : letters (trimChars cs) = letters cs := by
  have hb : ∀ c, isBlank c → c.isAlphanum = false := by
    intro c hc
    cases ha : c.isAlphanum
    case false => rfl
    case true =>
      have hw : isWordChar c := by simp [isWordChar, ha]
      exact absurd hc (Bool.eq_false_iff.mp (not_isBlank_of_isWordChar hw))
  rw [trimChars, trimEnd, letters_reverse, letters_dropWhile hb, letters_reverse,
    List.reverse_reverse, trimStart, letters_dropWhile hb]

theorem letters_sanitizeChars (cs : List Char) : letters (sanitizeChars cs) = letters cs := by
  have hg : ∀ cs, letters (guardDigit cs) = letters cs := by
    intro cs
    unfold guardDigit
    split
    case h_1 => rfl
    case h_2 => split_ifs <;> rfl
  have hm : ∀ cs : List Char,
      letters (cs.map fun c => if isWordChar c then c else '_') = letters cs := by
    intro cs
    induction cs
    case nil => rfl
    case cons c cs hi =>
      rw [List.map_cons, letters_cons, letters_cons, hi]
      cases hw : isWordChar c
      case true => rfl
      case false =>
        have ha : c.isAlphanum = false := (Bool.or_eq_false_iff.mp hw).1
        simp [ha]
  rw [sanitizeChars, hg, hm, letters_trimChars]

end Identifier

namespace Casing

open Identifier

variable {cs : List Char}

theorem isAlphanumeric_of_isWordChar {c : Char} (h : isWordChar c) :
    isAlphanumeric c = c.isAlphanum := by
  have hc : c.toNat < 128 := toNat_lt_of_isWordChar h
  simp [isAlphanumeric, isAlphabetic, isNumeric, hc, Char.isAlphanum]

theorem map_toLower_joined (hcs : ∀ c ∈ cs, isWordChar c) (wordStart : Bool) (last : Char)
    (found : Bool) : (joined wordStart last found cs).map Char.toLower = letters cs := by
  have hu : ∀ {c : Char}, isWordChar c → c.toUpper.toLower = c.toLower := by
    intro c hc
    have hd : ∀ n < 128, (Char.ofNat n).toUpper.toLower = (Char.ofNat n).toLower := by decide
    exact forall_ascii (P := fun c => c.toUpper.toLower = c.toLower) hd (toNat_lt_of_isWordChar hc)
  have hl : ∀ {c : Char}, isWordChar c → c.toLower.toLower = c.toLower := by
    intro c hc
    have hd : ∀ n < 128, (Char.ofNat n).toLower.toLower = (Char.ofNat n).toLower := by decide
    exact forall_ascii (P := fun c => c.toLower.toLower = c.toLower) hd (toNat_lt_of_isWordChar hc)
  induction cs generalizing wordStart last found
  case nil => rfl
  case cons c cs hi =>
    have ⟨hc, hcs⟩ := List.forall_mem_cons.mp hcs
    rw [letters_cons, joined, isAlphanumeric_of_isWordChar hc]
    cases ha : c.isAlphanum
    case false => simpa using hi hcs _ _ _
    case true =>
      simp only [Bool.not_true, Bool.false_eq_true, if_false, if_true, List.singleton_append]
      split_ifs <;> simp only [List.map_cons, hi hcs, hu hc, hl hc]

theorem letters_dropTrailingMarks (cs : List Char) :
    letters (dropTrailingMarks cs) = letters cs := by
  have hn : ∀ c, !isAlphanumeric c → c.isAlphanum = false := by
    intro c hc
    cases ha : c.isAlphanum
    case false => rfl
    case true =>
      have hw : isWordChar c := by simp [isWordChar, ha]
      simp [isAlphanumeric_of_isWordChar hw, ha] at hc
  rw [dropTrailingMarks, letters_reverse, letters_dropWhile hn, letters_reverse,
    List.reverse_reverse]

theorem map_toLower_apply {casing : Casing} (hk : casing = .pascal ∨ casing = .camel)
    (raw : String) :
    (casing.apply (sanitize raw)).toList.map Char.toLower = letters raw.toList := by
  have hs : ∀ c ∈ sanitizeChars raw.toList, isWordChar c := fun _ => isWordChar_of_mem_sanitizeChars
  have hj := map_toLower_joined (dropTrailingMarks_isWordChar hs)
  rw [apply, String.toList_ofList, sanitize, String.toList_ofList,
    ← letters_sanitizeChars raw.toList, ← letters_dropTrailingMarks]
  rcases hk with rfl | rfl
  case inl => exact hj true ' ' false
  case inr => exact hj false ' ' false

end Casing
end TypedRows
