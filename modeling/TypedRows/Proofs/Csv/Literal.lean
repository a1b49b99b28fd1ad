import Mathlib.Algebra.Group.Int.Defs
import Mathlib.Tactic.SplitIfs
import TypedRows.Csv.Inference
import TypedRows.Proofs.Text.Numeral

namespace TypedRows.Csv

open Text

def IsSign (cs : List Char) : Prop :=
  cs ∈ [[], ['+'], ['-']]

-- An integer and its value.
inductive IntegerLiteral : List Char → Int → Prop
  | positive {sign digits : List Char} (hs : sign ∈ [[], ['+']]) (hd : ∀ c ∈ digits, c.isDigit)
    (hn : digits ≠ []) : IntegerLiteral (sign ++ digits) (digitsValue digits)
  | negative {digits : List Char} (hd : ∀ c ∈ digits, c.isDigit) (hn : digits ≠ []) :
    IntegerLiteral ('-' :: digits) (-(digitsValue digits))

-- A decimal and its digits before and after the point, which may be missing without the latter.
inductive DecimalLiteral : List Char → List Char → List Char → Prop
  | pointed {sign whole fraction : List Char} (hs : IsSign sign)
    (hw : ∀ c ∈ whole, isDecimalDigit c) (hf : ∀ c ∈ fraction, isDecimalDigit c)
    (hn : fraction ≠ []) : DecimalLiteral (sign ++ whole ++ '.' :: fraction) whole fraction
  | whole {sign whole point : List Char} (hs : IsSign sign) (hw : ∀ c ∈ whole, isDecimalDigit c)
    (hn : whole ≠ []) (hp : point ∈ [[], ['.']]) : DecimalLiteral (sign ++ whole ++ point) whole []

-- Whether a text is an integer that `bits` bits hold with its sign.
def IsInteger (bits : Nat) (cs : List Char) : Prop :=
  ∃ n, IntegerLiteral cs n ∧ -2 ^ (bits - 1) ≤ n ∧ n < 2 ^ (bits - 1)

def IsDecimal (cs : List Char) : Prop :=
  ∃ whole fraction, DecimalLiteral cs whole fraction

section Integers

variable {cs : List Char} {n : Int} {m limit : Nat}

theorem integerLiteral_minus_iff : IntegerLiteral ('-' :: cs) n ↔
    ∃ m, numeral? cs = some m ∧ n = -(m : Int) := by
  constructor
  case mp =>
    intro h
    generalize ht : '-' :: cs = text at h
    cases h
    case positive sign digits hs hd hn =>
      simp only [List.mem_cons, List.not_mem_nil, or_false] at hs
      rcases hs with rfl | rfl
      case inl =>
        rw [List.nil_append] at ht
        exact absurd (hd '-' (ht ▸ List.mem_cons_self)) (by decide)
      case inr => exact absurd (List.cons.inj ht).1 (by decide)
    case negative digits hd hn =>
      obtain rfl := (List.cons.inj ht).2
      exact ⟨_, numeral?_eq_some_iff.mpr ⟨hd, hn, rfl⟩, rfl⟩
  case mpr =>
    rintro ⟨_, hm, rfl⟩
    obtain ⟨hd, hn, rfl⟩ := numeral?_eq_some_iff.mp hm
    exact .negative hd hn

theorem integerLiteral_iff (hc : cs.head? ≠ some '-') : IntegerLiteral cs n ↔
    ∃ m, numeral? (dropPlus cs) = some m ∧ n = (m : Int) := by
  constructor
  case mp =>
    intro h
    cases h
    case positive sign digits hs hd hn =>
      have hp : dropPlus digits = digits := dropPlus_digits hd
      have hm : numeral? digits = some (digitsValue digits) :=
        numeral?_eq_some_iff.mpr ⟨hd, hn, rfl⟩
      simp only [List.mem_cons, List.not_mem_nil, or_false] at hs
      rcases hs with rfl | rfl
      case inl => exact ⟨_, hp.symm ▸ hm, rfl⟩
      case inr => exact ⟨_, hm, rfl⟩
    case negative => exact (hc rfl).elim
  case mpr =>
    rintro ⟨_, hm, rfl⟩
    obtain ⟨hd, hn, rfl⟩ := numeral?_eq_some_iff.mp hm
    have hs : ∃ sign ∈ [[], ['+']], cs = sign ++ dropPlus cs := by
      unfold dropPlus
      split
      case h_1 => exact ⟨['+'], .tail _ (.head _), rfl⟩
      case h_2 => exact ⟨[], .head _, rfl⟩
    obtain ⟨sign, hs, he⟩ := hs
    generalize dropPlus cs = digits at *
    exact he ▸ .positive hs hd hn

theorem integer64?_eq_some_iff : integer64? cs = some n ↔
    IntegerLiteral cs n ∧ -2 ^ 63 ≤ n ∧ n < 2 ^ 63 := by
  have hb : Int64.size / 2 = 2 ^ 63 := by decide
  unfold integer64?
  split
  case h_1 cs =>
    simp only [integerLiteral_minus_iff, Option.map_eq_some_iff, Option.bind_eq_bind,
      Option.bind_eq_some_iff, Option.pure_def, Option.some.injEq, Option.filter_eq_some_iff,
      decide_eq_true_eq, hb]
    constructor
    case mp =>
      rintro ⟨_, ⟨m, ⟨hm, hl⟩, rfl⟩, rfl⟩
      exact ⟨⟨m, hm, rfl⟩, by omega, by omega⟩
    case mpr =>
      rintro ⟨⟨m, hm, rfl⟩, hl, _⟩
      exact ⟨m, ⟨m, ⟨hm, by omega⟩, rfl⟩, rfl⟩
  case h_2 hc =>
    have hh : cs.head? ≠ some '-' := by
      intro h
      obtain ⟨rest, rfl⟩ := List.head?_eq_some_iff.mp h
      exact hc rest rfl
    simp only [integerLiteral_iff hh, boundedNumeral?, Option.map_eq_some_iff, Option.bind_eq_bind,
      Option.bind_eq_some_iff, Option.pure_def, Option.some.injEq, Option.filter_eq_some_iff,
      decide_eq_true_eq, hb]
    constructor
    case mp =>
      rintro ⟨_, ⟨m, ⟨hm, hl⟩, rfl⟩, rfl⟩
      exact ⟨⟨m, hm, rfl⟩, by omega, by omega⟩
    case mpr =>
      rintro ⟨⟨m, hm, rfl⟩, _, hl⟩
      exact ⟨m, ⟨m, ⟨hm, by omega⟩, rfl⟩, rfl⟩

theorem isSome_integer64?_iff : (integer64? cs).isSome ↔ IsInteger 64 cs := by
  rw [Option.isSome_iff_exists]
  exact exists_congr fun _ => integer64?_eq_some_iff

end Integers

section Decimals

variable {cs sign whole fraction rest : List Char}

theorem dropSign_append (hs : IsSign sign) (hr : ∀ c ∈ rest.head?, c ≠ '+' ∧ c ≠ '-') :
    DecimalShape.dropSign (sign ++ rest) = rest := by
  simp only [IsSign, List.mem_cons, List.not_mem_nil, or_false] at hs
  rcases hs with rfl | rfl | rfl
  case inl =>
    cases rest
    case nil => rfl
    case cons c rest => simp [DecimalShape.dropSign, hr c rfl]
  case inr.inl => rfl
  case inr.inr => rfl

theorem sign_append_dropSign (cs : List Char) :
    ∃ sign, IsSign sign ∧ cs = sign ++ DecimalShape.dropSign cs := by
  unfold DecimalShape.dropSign
  split
  case h_1 c cs =>
    split_ifs with h
    case pos =>
      simp only [Bool.or_eq_true, decide_eq_true_eq] at h
      rcases h with rfl | rfl
      case inl => exact ⟨['+'], .tail _ (.head _), rfl⟩
      case inr => exact ⟨['-'], .tail _ (.tail _ (.head _)), rfl⟩
    case neg => exact ⟨[], .head _, rfl⟩
  case h_2 => exact ⟨[], .head _, rfl⟩

-- Where a literal is cut into its parts.
theorem DecimalLiteral.dropSign (h : DecimalLiteral cs whole fraction) :
    ∃ rest, DecimalShape.dropSign cs = whole ++ rest ∧
      (rest = '.' :: fraction ∨ rest = [] ∧ fraction = []) := by
  have hd : ∀ {digits rest : List Char}, (∀ c ∈ digits, isDecimalDigit c) →
      (∀ c ∈ rest.head?, c = '.') → ∀ c ∈ (digits ++ rest).head?, c ≠ '+' ∧ c ≠ '-' := by
    intro digits rest hd hr c hc
    cases digits
    case nil => rw [hr c hc]; decide
    case cons d digits =>
      obtain rfl := Option.some.inj hc
      have hx := hd d List.mem_cons_self
      constructor <;> (rintro rfl; contradiction)
  rcases h with ⟨hs, hw, _, _⟩ | ⟨hs, hw, _, hp⟩
  case pointed =>
    refine ⟨'.' :: fraction, ?_, .inl rfl⟩
    rw [List.append_assoc]
    exact dropSign_append hs (hd hw (by simp))
  case whole =>
    simp only [List.mem_cons, List.not_mem_nil, or_false] at hp
    rw [List.append_assoc]
    rcases hp with rfl | rfl
    case inl => exact ⟨[], dropSign_append hs (hd hw (by simp)), .inr ⟨rfl, rfl⟩⟩
    case inr => exact ⟨['.'], dropSign_append hs (hd hw (by simp)), .inl rfl⟩

theorem DecimalLiteral.digits (h : DecimalLiteral cs whole fraction) :
    (∀ c ∈ whole, isDecimalDigit c) ∧ (∀ c ∈ fraction, isDecimalDigit c) ∧
      (whole ≠ [] ∨ fraction ≠ []) := by
  rcases h with ⟨_, hw, hf, hn⟩ | ⟨_, hw, hn, _⟩
  case pointed => exact ⟨hw, hf, .inr hn⟩
  case whole => exact ⟨hw, by simp, .inl hn⟩

-- Where a literal is cut into its parts.
theorem DecimalLiteral.cut (h : DecimalLiteral cs whole fraction) :
    (DecimalShape.dropSign cs).takeWhile isDecimalDigit = whole ∧
      ((DecimalShape.dropSign cs).dropWhile isDecimalDigit = '.' :: fraction ∨
        (DecimalShape.dropSign cs).dropWhile isDecimalDigit = [] ∧ fraction = []) := by
  obtain ⟨rest, hr, hc⟩ := h.dropSign
  have hw := h.digits.1
  have hh : ∀ c ∈ rest.head?, isDecimalDigit c = false := by
    rcases hc with rfl | ⟨rfl, _⟩
    case inl => intro c hc; obtain rfl := Option.some.inj hc; decide
    case inr => simp
  rw [hr, takeWhile_append_of_head hw hh, dropWhile_append_of_head hw hh]
  exact ⟨rfl, hc⟩

theorem ofChars?_eq_some_iff {s : DecimalShape} : DecimalShape.ofChars? cs = some s ↔
    ∃ whole fraction, DecimalLiteral cs whole fraction ∧ s = .ofParts whole fraction := by
  constructor
  case mp =>
    intro h
    obtain ⟨sign, hs, hc⟩ := sign_append_dropSign cs
    have hd := List.takeWhile_append_dropWhile (p := isDecimalDigit) (l := DecimalShape.dropSign cs)
    have hw : ∀ c ∈ (DecimalShape.dropSign cs).takeWhile isDecimalDigit, isDecimalDigit c :=
      List.all_eq_true.mp List.all_takeWhile
    unfold DecimalShape.ofChars? at h
    dsimp only at h
    generalize DecimalShape.dropSign cs = body at *
    generalize body.takeWhile isDecimalDigit = whole at *
    rw [hc, ← hd, ← List.append_assoc]
    split at h
    case h_1 hr =>
      split_ifs at h with hn
      rw [hr]
      have hn : whole ≠ [] := by simpa using hn
      exact ⟨whole, [], .whole hs hw hn (.head _), (Option.some.inj h).symm⟩
    case h_2 fraction hr =>
      split_ifs at h with hn
      simp only [Bool.and_eq_true, List.all_eq_true, Bool.not_eq_true', Bool.and_eq_false_iff,
        List.isEmpty_eq_false_iff] at hn
      obtain ⟨hf, hn⟩ := hn
      rw [hr]
      refine ⟨whole, fraction, ?_, (Option.some.inj h).symm⟩
      cases fraction
      case nil => exact .whole hs hw (hn.resolve_right (by simp)) (.tail _ (.head _))
      case cons => exact .pointed hs hw hf (List.cons_ne_nil _ _)
    case h_3 => contradiction
  case mpr =>
    rintro ⟨whole, fraction, hl, rfl⟩
    obtain ⟨hw, hc⟩ := hl.cut
    obtain ⟨_, hf, hn⟩ := hl.digits
    unfold DecimalShape.ofChars?
    dsimp only
    rw [hw]
    rcases hc with hc | ⟨hc, rfl⟩
    case inl =>
      have hg : (fraction.all isDecimalDigit && !(whole.isEmpty && fraction.isEmpty)) = true := by
        simp only [Bool.and_eq_true, List.all_eq_true, Bool.not_eq_true', Bool.and_eq_false_iff,
          List.isEmpty_eq_false_iff]
        exact ⟨hf, hn⟩
      rw [hc]
      exact if_pos hg
    case inr =>
      have hg : ¬whole.isEmpty := by simpa using hn
      rw [hc]
      exact if_neg hg

end Decimals

end TypedRows.Csv
