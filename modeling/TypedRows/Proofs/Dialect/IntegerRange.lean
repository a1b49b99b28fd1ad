import Mathlib.Algebra.Group.Int.Defs
import TypedRows.Proofs.Dialect.Spelling

namespace TypedRows

open Text TypeToken

section Range

-- The values of an integer type.
def InRange (bits : Nat) (unsigned : Bool) (n : Int) : Prop :=
  if unsigned then 0 ≤ n ∧ n < 2 ^ bits else -2 ^ (bits - 1) ≤ n ∧ n < 2 ^ (bits - 1)

-- A sign takes one bit.
theorem inRange_subset_iff {bits width : Nat} {unsigned : Bool} (hb : 0 < bits) (hw : 0 < width) :
    (∀ n, InRange bits unsigned n → InRange width false n) ↔ bits + unsigned.toNat ≤ width := by
  have hp : ∀ {a b : Nat}, (2 : Int) ^ a ≤ 2 ^ b ↔ a ≤ b := by
    intro a b
    exact_mod_cast Nat.pow_le_pow_iff_right (n := a) (m := b) (by decide)
  have hone : ∀ a : Nat, (1 : Int) ≤ 2 ^ a := fun a => by exact_mod_cast Nat.one_le_two_pow
  cases unsigned
  case false =>
    simp only [InRange, Bool.false_eq_true, if_false, Bool.toNat_false]
    constructor
    case mp =>
      intro h
      have hl := (h (-2 ^ (bits - 1)) ⟨Int.le_refl _, by have := hone (bits - 1); omega⟩).1
      have := hp.mp (Int.neg_le_neg_iff.mp hl)
      omega
    case mpr =>
      rintro h n ⟨hl, hu⟩
      have hm := hp.mpr (show bits - 1 ≤ width - 1 by omega)
      omega
  case true =>
    simp only [InRange, if_true, Bool.false_eq_true, if_false, Bool.toNat_true]
    constructor
    case mp =>
      intro h
      have hu := (h (2 ^ bits - 1) ⟨by have := hone bits; omega, by omega⟩).2
      have := hp.mp (show (2 : Int) ^ bits ≤ 2 ^ (width - 1) by omega)
      omega
    case mpr =>
      rintro h n ⟨hl, hu⟩
      have hm := hp.mpr (show bits ≤ width - 1 by omega)
      have := hone (width - 1)
      omega

end Range

namespace TypeRule

-- The width that a rule gives to integers, as far as no display width counts.
def width? (r : TypeRule) (unsigned : Bool) : Option UInt8 :=
  match r with
  | exactly (.integer w) => some w
  | integer w => some (if unsigned && w < 64 then w * 2 else w)
  | tinyInteger => some (if unsigned then 16 else 8)
  | _ => none

theorem type_of_width? {r : TypeRule} {t : TypeToken} {w : UInt8}
    (h : r.width? t.unsigned = some w)
    (hd : r = .tinyInteger → t.number? 0 = some 1 → t.unsigned) :
    r.type t = .integer w ∧ r.isLossy = false := by
  cases r
  case exactly c =>
    cases c
    case integer =>
      obtain rfl := Option.some_inj.mp h
      exact ⟨rfl, rfl⟩
    all_goals exact nomatch h
  case integer =>
    obtain rfl := Option.some_inj.mp h
    exact ⟨rfl, rfl⟩
  case tinyInteger =>
    obtain rfl := Option.some_inj.mp h
    refine ⟨?_, rfl⟩
    cases hu : t.unsigned
    case false =>
      have hn : t.number? 0 ≠ some 1 := fun hn => by simpa [hu] using hd rfl hn
      simp [type, widened, hu, hn]
    case true => simp [type, widened, hu]
  all_goals exact nomatch h

end TypeRule

namespace Dialect

-- The integer types of MySQL and their bits.
def integerTypes : List (List Char × Nat) :=
  [("TINYINT".toList, 8), ("SMALLINT".toList, 16), ("MEDIUMINT".toList, 24), ("INT".toList, 32),
    ("INTEGER".toList, 32), ("BIGINT".toList, 64)]

theorem integerTypes_capitals :
    ∀ e ∈ integerTypes, inCapitals e.1 ∧ isModifier e.1 = false := by
  decide

theorem integerTypes_widths : ∀ e ∈ integerTypes, ∃ r ∈ mysql.typeRule? (String.ofList e.1),
    (r = .tinyInteger → e.1 = "TINYINT".toList) ∧
      ∀ unsigned, ∃ w ∈ r.width? unsigned, 0 < e.2 ∧ 0 < w.toNat ∧
        (e.2 + unsigned.toNat ≤ w.toNat ↔ ¬(e.2 = 64 ∧ unsigned)) := by
  decide

-- A name, a display width if there is one, and any number of `UNSIGNED`.
def SpellsInteger (source : String) (name : List Char) (width : Option (List Char))
    (unsigned : Bool) : Prop :=
  ∃ ws, Spells source.toList ws (width.map ([·])) ∧
    (ws.map capitals).filter (· ≠ unsignedWord) = [name] ∧
    (ws.map capitals).contains unsignedWord = unsigned ∧
    ∀ digits ∈ width, digits ≠ [] ∧ ∀ c ∈ digits, c.isDigit

variable {source : String} {name digits : List Char} {bits : Nat} {width : Option (List Char)}
variable {unsigned : Bool}

theorem SpellsInteger.number?_eq (hs : SpellsInteger source name width unsigned) :
    (ofSource source).number? 0 = width.bind numberOf? := by
  obtain ⟨ws, hs, -, -, hw⟩ := hs
  rw [number?]
  cases width
  case none => rw [ofSource, hs.arguments_eq (by simp)]; rfl
  case some digits =>
    have hd : IsNumeral digits := hw digits rfl
    rw [ofSource, hs.arguments_eq (by simpa using hd)]
    rfl

theorem SpellsInteger.token (ht : (name, bits) ∈ integerTypes)
    (hs : SpellsInteger source name width unsigned) :
    (ofSource source).base = String.ofList name ∧ (ofSource source).unsigned = unsigned := by
  obtain ⟨hc, hm⟩ := integerTypes_capitals _ ht
  obtain ⟨ws, hs, hn, rfl, -⟩ := hs
  have hu : upperChars name = name := upperChars_of_inCapitals hc
  have hname : (Wording.of ws (width.map ([·]))).name = [name] := by
    have hf : ∀ w : List Char, (!isModifier w) = (!isModifier w && decide (w ≠ unsignedWord)) := by
      intro w
      cases hw : isModifier w
      case true => rfl
      case false => simp [ne_unsignedWord hw]
    rw [Wording.of, List.filter_congr fun w _ => hf w, ← List.filter_filter, hn]
    simp [hm]
  rw [ofSource, hs.ofChars_eq, Wording.token, hname]
  constructor
  case left => simp [hu, hm, joinWords]
  case right => simp [hu, Wording.of, (ne_unsignedWord hm).symm]

-- A display width leaves the type as it is, unless a boolean is asked for.
-- There is no wider type beyond 64 bits, and no note says so.
theorem resolve_integer_lossless_iff (ht : (name, bits) ∈ integerTypes)
    (hs : SpellsInteger source name width unsigned)
    (hb : name = "TINYINT".toList → width.map digitsValue = some 1 → unsigned) :
    ∃ w, mysql.resolve source = ⟨.integer w, none⟩ ∧
      ((∀ n, InRange bits unsigned n → InRange w.toNat false n) ↔ ¬(bits = 64 ∧ unsigned)) := by
  obtain ⟨hbase, hu⟩ := hs.token ht
  obtain ⟨r, hr, htiny, hwidth⟩ := integerTypes_widths _ ht
  obtain ⟨w, hw, hbits, hpos, hfits⟩ := hwidth unsigned
  have hd : r = .tinyInteger → (ofSource source).number? 0 = some 1 →
      (ofSource source).unsigned := by
    intro hr h
    obtain ⟨digits, rfl, hv⟩ := Option.bind_eq_some_iff.mp (hs.number?_eq ▸ h)
    obtain ⟨_, _, _, _, hdigits⟩ := hs
    have hd : IsNumeral digits := hdigits digits rfl
    rw [hd.numberOf?_eq] at hv
    rw [hu]
    exact hb (htiny hr) (Option.filter_eq_some_iff.mp hv).1
  obtain ⟨htype, hlossy⟩ := TypeRule.type_of_width? (hu ▸ hw) hd
  refine ⟨w, ?_, (inRange_subset_iff hbits hpos).trans hfits⟩
  rw [resolve_of_typeRule? hbase hr]
  simp [Resolution.ofRule, htype, hlossy, Resolution.noteClamped, Resolution.isDecimal]

theorem resolve_integer_lossless_unsigned :
    SpellsInteger "Unsigned\tINT( 010)" "INT".toList (some "010".toList) true ∧
      ∃ w, mysql.resolve "Unsigned\tINT( 010)" = ⟨.integer w, none⟩ ∧
        ∀ n, InRange 32 true n → InRange w.toNat false n := by
  have h : Spells ([] ++ "Unsigned".toList ++ (['\t'] ++ "INT".toList ++ ([] ++ '(' ::
      (" 010".toList ++ ')' :: []))))
      ["Unsigned".toList, "INT".toList] (some ["010".toList]) :=
    .word (by decide) (by decide) (by decide) <| .word (by decide) (by decide) (by decide) <|
      .list (by decide) (.last ⟨[' '], [], rfl, by decide, by decide, by decide⟩) <|
        .blanks (by decide)
  have hs : SpellsInteger "Unsigned\tINT( 010)" "INT".toList (some "010".toList) true :=
    ⟨_, h, by decide +kernel, by decide +kernel, by simp⟩
  have ht : ("INT".toList, 32) ∈ integerTypes := by decide
  obtain ⟨w, hr, hl⟩ := resolve_integer_lossless_iff ht hs (by decide)
  exact ⟨hs, w, hr, hl.mpr (by decide)⟩

theorem resolve_bigint_unsigned_loses :
    SpellsInteger "BIGINT UNSIGNED" "BIGINT".toList none true ∧
      ¬∃ w, (mysql.resolve "BIGINT UNSIGNED").canonical = .integer w ∧
        ((∀ n, InRange 64 true n → InRange w.toNat false n) ∨
          (mysql.resolve "BIGINT UNSIGNED").note.isSome) := by
  have hs : Spells ([] ++ "BIGINT".toList ++ ([' '] ++ "UNSIGNED".toList ++ []))
      ["BIGINT".toList, "UNSIGNED".toList] none :=
    .word (by decide) (by decide) (by decide) <| .word (by decide) (by decide) (by decide) <|
      .blanks (by decide)
  have hr : mysql.resolve "BIGINT UNSIGNED" = ⟨.integer 64, none⟩ := by decide +kernel
  refine ⟨⟨_, hs, by decide +kernel, by decide +kernel, by decide⟩, ?_⟩
  rw [hr]
  rintro ⟨w, hw, hn | hn⟩
  case inl =>
    obtain rfl := CanonicalType.integer.inj hw
    have hl := (inRange_subset_iff (by decide) (by decide)).mp hn
    exact absurd hl (by decide)
  case inr => exact absurd hn (by decide)

end Dialect
end TypedRows
