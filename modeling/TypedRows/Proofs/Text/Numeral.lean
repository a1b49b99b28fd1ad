import TypedRows.Proofs.Text.Blank
import TypedRows.Text.Numeral

namespace TypedRows.Text

variable {cs : List Char} {c : Char} {n limit : Nat}

section Digits

theorem toNat_of_isDigit (h : c.isDigit) : 48 ≤ c.toNat ∧ c.toNat ≤ 57 := by
  simpa [Char.isDigit, UInt32.le_iff_toNat_le] using h

theorem isBlank_of_isDigit (h : c.isDigit) : isBlank c = false := by
  have h := toNat_of_isDigit h
  simp only [isBlank, Bool.or_eq_false_iff, Bool.and_eq_false_iff, decide_eq_false_iff_not,
    beq_eq_false_iff_ne]
  omega

end Digits

section Numerals

theorem numeral?_eq_some_iff :
    numeral? cs = some n ↔ (∀ c ∈ cs, c.isDigit) ∧ cs ≠ [] ∧ n = digitsValue cs := by
  unfold numeral?
  split_ifs with h
  case pos =>
    simp only [Bool.or_eq_true, List.isEmpty_iff, Bool.not_eq_true', List.all_eq_false] at h
    constructor
    case mp => exact fun hn => absurd hn (by simp)
    case mpr =>
      intro ⟨hd, hn, _⟩
      rcases h with h | ⟨c, hc, h⟩
      case inl => contradiction
      case inr => exact absurd (hd c hc) h
  case neg =>
    simp only [Bool.or_eq_true, List.isEmpty_iff, Bool.not_eq_true', not_or,
      Bool.not_eq_false, List.all_eq_true] at h
    constructor
    case mp => exact fun hm => ⟨h.2, h.1, (Option.some.inj hm).symm⟩
    case mpr => exact fun hm => congrArg some hm.2.2.symm

theorem dropPlus_digits (h : ∀ c ∈ cs, c.isDigit) : dropPlus cs = cs := by
  unfold dropPlus
  split
  case h_1 => exact absurd (h '+' List.mem_cons_self) (by decide)
  case h_2 => rfl

theorem boundedNumeral?_digits (h : ∀ c ∈ cs, c.isDigit) (hn : cs ≠ []) (limit : Nat) :
    boundedNumeral? limit cs = (some (digitsValue cs)).filter (· < limit) := by
  rw [boundedNumeral?, dropPlus_digits h, numeral?_eq_some_iff.mpr ⟨h, hn, rfl⟩]

end Numerals

section Surrounded

-- A numeral between blanks, which may have a plus sign.
def IsNumeralOf (n : Nat) (cs : List Char) : Prop :=
  ∃ before plus digits after, cs = before ++ (plus ++ digits) ++ after ∧
    (∀ c ∈ before, isBlank c) ∧ (plus = [] ∨ plus = ['+']) ∧ digits ≠ [] ∧
    (∀ c ∈ digits, c.isDigit) ∧ digitsValue digits = n ∧ ∀ c ∈ after, isBlank c

theorem exists_eq_dropPlus (cs : List Char) :
    ∃ plus, cs = plus ++ dropPlus cs ∧ (plus = [] ∨ plus = ['+']) := by
  unfold dropPlus
  split
  case h_1 => exact ⟨['+'], rfl, .inr rfl⟩
  case h_2 => exact ⟨[], rfl, .inl rfl⟩

theorem numeral?_dropPlus_eq_some_iff : numeral? (dropPlus cs) = some n ↔
    ∃ plus digits, cs = plus ++ digits ∧ (plus = [] ∨ plus = ['+']) ∧ digits ≠ [] ∧
      (∀ c ∈ digits, c.isDigit) ∧ digitsValue digits = n := by
  rw [numeral?_eq_some_iff]
  constructor
  case mp =>
    rintro ⟨hd, hn, rfl⟩
    obtain ⟨plus, he, hp⟩ := exists_eq_dropPlus cs
    exact ⟨plus, dropPlus cs, he, hp, hn, hd, rfl⟩
  case mpr =>
    rintro ⟨plus, digits, rfl, rfl | rfl, hn, hd, rfl⟩
    case inl => exact (dropPlus_digits hd).symm ▸ ⟨hd, hn, rfl⟩
    case inr => exact ⟨hd, hn, rfl⟩

theorem boundedNumeral?_trimChars_eq_some_iff :
    boundedNumeral? limit (trimChars cs) = some n ↔ IsNumeralOf n cs ∧ n < limit := by
  rw [boundedNumeral?, Option.filter_eq_some_iff, decide_eq_true_eq, numeral?_dropPlus_eq_some_iff]
  refine and_congr_left fun _ => ⟨?mp, ?mpr⟩
  case mp =>
    rintro ⟨plus, digits, he, hp, hn, hd, hv⟩
    obtain ⟨before, after, hc, hb, ha⟩ := exists_eq_trimChars cs
    exact ⟨before, plus, digits, after, he ▸ hc, hb, hp, hn, hd, hv, ha⟩
  case mpr =>
    rintro ⟨before, plus, digits, after, rfl, hb, hp, hn, hd, hv, ha⟩
    have hw : ∀ c ∈ plus ++ digits, isBlank c = false := by
      intro c hc
      rcases List.mem_append.mp hc with hc | hc
      case inl =>
        rcases hp with rfl | rfl
        case inl => contradiction
        case inr => exact List.mem_singleton.mp hc ▸ rfl
      case inr => exact isBlank_of_isDigit (hd c hc)
    exact ⟨plus, digits, trimChars_surrounded hb hw ha, hp, hn, hd, hv⟩

theorem IsNumeralOf.not_mem (h : IsNumeralOf n cs) {c : Char} (hb : isBlank c = false)
    (hp : c ≠ '+') (hd : c.isDigit = false) : c ∉ cs := by
  obtain ⟨before, plus, digits, after, rfl, hbefore, hplus, -, hdigits, -, hafter⟩ := h
  simp only [List.mem_append, not_or]
  refine ⟨⟨fun hc => ?_, fun hc => ?_, fun hc => ?_⟩, fun hc => ?_⟩
  case refine_1 => simp [hbefore c hc] at hb
  case refine_2 => rcases hplus with rfl | rfl <;> simp [hp] at hc
  case refine_3 => simp [hdigits c hc] at hd
  case refine_4 => simp [hafter c hc] at hb

end Surrounded

section Written

theorem isDigit_of_mem (h : c ∈ Nat.toDigits 10 n) : c.isDigit :=
  Nat.isDigit_of_mem_toDigits (by decide) (by decide) h

theorem isDigit_of_mem_padded {width : Nat} (h : c ∈ (padded width n).toList) : c.isDigit := by
  rw [padded, String.toList_append, String.toList_ofList, Nat.toString_eq_ofList_toDigits,
    String.toList_ofList, List.mem_append] at h
  rcases h with h | h
  case inl => rw [List.eq_of_mem_replicate h]; rfl
  case inr => exact isDigit_of_mem h

theorem isNumeralOf_toDigits (n : Nat) : IsNumeralOf n (Nat.toDigits 10 n) :=
  ⟨[], [], Nat.toDigits 10 n, [], by simp, by simp, .inl rfl, Nat.toDigits_ne_nil,
    fun _ => isDigit_of_mem, Nat.ofDigitChars_ten_toDigits, by simp⟩

end Written

end TypedRows.Text
