import TypedRows.Proofs.Dialect.Spelling

namespace TypedRows

open Text TypeToken

namespace TypeRule

theorem toNat_narrow (n : Nat) : (narrow n).toNat = min n 65535 := by
  rw [narrow]
  split
  case isTrue h =>
    have hn : n < 65536 := h
    rw [Nat.toUInt16_eq, UInt16.toNat_ofNat_of_lt' h]
    omega
  case isFalse h =>
    have hn : ¬n < 65536 := h
    have hm : min n 65535 = 65535 := by omega
    rw [hm]
    rfl

end TypeRule

namespace Resolution

-- The decimal of the given numbers, as far as 16 bits go, and a note exactly where they do not.
def Clamps (r : Resolution) (precision : Nat) (scale : Option Nat) : Prop :=
  (∃ p s, r.canonical = .decimal p s ∧ p.toNat = min precision 65535 ∧
    s.toNat = min (scale.getD 0) 65535) ∧
  (r.note.isSome ↔ 65535 < precision ∨ ∃ n ∈ scale, 65535 < n)

def ofDecimal (t : TypeToken) (precision scale : UInt16) : Resolution :=
  let c := TypeRule.decimalOf t precision scale
  ⟨c, if hasWideArgument t then
    some (t.base ++ " arguments are out of range and clamped to " ++ c.render) else none⟩

variable {t : TypeToken} {p : Nat} {s : Option Nat} {precision scale : UInt16}

theorem noteClamped_ofRule (t : TypeToken) (precision scale : UInt16) :
    (ofRule (.decimal precision scale) t).noteClamped t = ofDecimal t precision scale := by
  have hd : isDecimal (TypeRule.decimalOf t precision scale) := by
    rw [TypeRule.decimalOf]
    split <;> rfl
  rw [ofDecimal, noteClamped]
  cases hw : hasWideArgument t <;> simp [ofRule, TypeRule.type, TypeRule.isLossy, hd]

theorem filter_lt {limit n : Nat} (h : n < limit) : (some n).filter (· < limit) = some n := by
  rw [Option.filter_some, if_pos (decide_eq_true h)]

theorem filter_not_lt {limit n : Nat} (h : ¬n < limit) : (some n).filter (· < limit) = none := by
  rw [Option.filter_some, if_neg (by simpa using h)]

theorem clamps_ofDecimal (hp : t.number? 0 = some p) (hs : t.number? 1 = s) :
    (ofDecimal t precision scale).Clamps p s := by
  constructor
  case left =>
    refine ⟨TypeRule.narrow p, (s.map TypeRule.narrow).getD 0, ?_, TypeRule.toNat_narrow p, ?_⟩
    case refine_1 => rw [ofDecimal, TypeRule.decimalOf, hp, hs]
    case refine_2 =>
      cases s
      case none => rfl
      case some => exact TypeRule.toNat_narrow _
  case right =>
    have hw : hasWideArgument t ↔ 65535 < p ∨ ∃ n ∈ s, 65535 < n := by
      cases s <;> simp [hasWideArgument, hp, hs]
    rw [← hw, ofDecimal]
    cases hasWideArgument t <;> simp

-- A default is narrower than what a number beyond 64 bits is cut to.
-- Such a number counts as absent, and no note tells of the default in its place.
theorem clamps_ofDecimal_iff (hp : t.number? 0 = (some p).filter (· < UInt64.size))
    (hs : t.number? 1 = s.filter (· < UInt64.size)) (hd : precision.toNat < 65535) :
    (ofDecimal t precision scale).Clamps p s ↔ p < UInt64.size ∧ ∀ n ∈ s, n < UInt64.size := by
  have hsize : 65535 < UInt64.size := by decide
  constructor
  case mp =>
    rintro ⟨⟨p', s', hc, hpc, hsc⟩, -⟩
    rw [ofDecimal, TypeRule.decimalOf] at hc
    dsimp only at hc
    have hpf : p < UInt64.size := by
      by_contra hn
      rw [hp, filter_not_lt hn] at hc
      obtain ⟨rfl, -⟩ := CanonicalType.decimal.inj hc
      omega
    refine ⟨hpf, ?_⟩
    rintro n rfl
    by_contra hn
    rw [hp, hs, filter_lt hpf, filter_not_lt hn] at hc
    obtain ⟨-, rfl⟩ := CanonicalType.decimal.inj hc
    have hz : 0 = min n 65535 := hsc
    omega
  case mpr =>
    rintro ⟨hpf, hsf⟩
    have hs : t.number? 1 = s := by
      rw [hs]
      cases s
      case none => rfl
      case some n => exact filter_lt (hsf n rfl)
    exact clamps_ofDecimal (hp.trans (filter_lt hpf)) hs

end Resolution

namespace Dialect

-- The decimal types of a dialect.
def decimalTypes : Dialect → List (List Char)
  | mysql => ["DECIMAL".toList, "NUMERIC".toList, "DEC".toList, "FIXED".toList]
  | postgresql => ["NUMERIC".toList, "DECIMAL".toList]
  | sqlite => ["NUMERIC".toList, "DECIMAL".toList]

-- The decimal of such a type without a precision.
def unstatedDecimal : Dialect → UInt16 × UInt16
  | mysql => (10, 0)
  | postgresql => (38, 10)
  | sqlite => (18, 6)

theorem decimalTypes_rule (d : Dialect) : ∀ name ∈ d.decimalTypes,
    d.typeRule? (String.ofList name) =
      some (.decimal d.unstatedDecimal.1 d.unstatedDecimal.2) := by
  cases d <;> decide

-- A name, the digits of a precision and of a scale if there is one, and any modifiers.
def SpellsDecimal (source : String) (name precision : List Char) (scale : Option (List Char)) :
    Prop :=
  ∃ ws, Spells source.toList ws (some (precision :: scale.toList)) ∧
    (ws.map upperChars).filter (!isModifier ·) = [name] ∧
    ∀ digits ∈ precision :: scale.toList, IsNumeral digits

variable {d : Dialect} {source : String} {name precision : List Char} {scale : Option (List Char)}

theorem SpellsDecimal.base_eq (hs : SpellsDecimal source name precision scale) :
    (ofSource source).base = String.ofList name := by
  obtain ⟨ws, hs, hn, -⟩ := hs
  rw [ofSource, hs.ofChars_words]
  dsimp only
  rw [hn]
  simp [joinWords]

theorem SpellsDecimal.number?_eq (hs : SpellsDecimal source name precision scale) :
    (ofSource source).number? 0 = (some (digitsValue precision)).filter (· < UInt64.size) ∧
      (ofSource source).number? 1 = (scale.map digitsValue).filter (· < UInt64.size) := by
  obtain ⟨ws, hs, -, hd⟩ := hs
  obtain ⟨hp, hd'⟩ := List.forall_mem_cons.mp hd
  have ha : (ofSource source).arguments = precision :: scale.toList := hs.arguments_eq hd
  rw [number?, number?, ha]
  constructor
  case left => exact hp.numberOf?_eq
  case right =>
    cases scale
    case none => rfl
    case some digits => exact (hd' digits List.mem_cons_self).numberOf?_eq

theorem resolve_decimal (hname : name ∈ d.decimalTypes)
    (hs : SpellsDecimal source name precision scale) :
    d.resolve source =
      .ofDecimal (ofSource source) d.unstatedDecimal.1 d.unstatedDecimal.2 := by
  rw [resolve_of_typeRule? hs.base_eq (d.decimalTypes_rule name hname)]
  exact Resolution.noteClamped_ofRule _ _ _

-- The numbers of a decimal type are kept or cut with a note, unless one is beyond 64 bits.
theorem resolve_decimal_clamps_iff (hname : name ∈ d.decimalTypes)
    (hs : SpellsDecimal source name precision scale) :
    (d.resolve source).Clamps (digitsValue precision) (scale.map digitsValue) ↔
      digitsValue precision < UInt64.size ∧
        ∀ n ∈ scale.map digitsValue, n < UInt64.size := by
  have hd : d.unstatedDecimal.1.toNat < 65535 := by cases d <;> decide
  obtain ⟨hp, hsc⟩ := hs.number?_eq
  rw [resolve_decimal hname hs]
  exact Resolution.clamps_ofDecimal_iff hp hsc hd

theorem resolve_decimal_clamps_unsigned :
    SpellsDecimal "unsigned decimal( 070000 ,2)" "DECIMAL".toList "070000".toList
        (some "2".toList) ∧
      (mysql.resolve "unsigned decimal( 070000 ,2)").Clamps 70000 (some 2) := by
  have h : Spells ([] ++ "unsigned".toList ++ ([' '] ++ "decimal".toList ++ ([] ++ '(' ::
      ((" 070000 ".toList ++ ',' :: "2".toList) ++ ')' :: []))))
      ["unsigned".toList, "decimal".toList] (some ["070000".toList, "2".toList]) :=
    .word (by decide) (by decide) (by decide) <| .word (by decide) (by decide) (by decide) <|
      .list (by decide) (.cons ⟨[' '], [' '], rfl, by decide, by decide, by decide⟩ <|
        .last ⟨[], [], rfl, by decide, by decide, by decide⟩) <|
        .blanks (by decide)
  have hs : SpellsDecimal "unsigned decimal( 070000 ,2)" "DECIMAL".toList "070000".toList
      (some "2".toList) := ⟨_, h, by decide, by decide⟩
  exact ⟨hs, (resolve_decimal_clamps_iff (by decide) hs).mpr (by decide)⟩

theorem resolve_decimal_beyond_64_bits :
    SpellsDecimal "DECIMAL(18446744073709551616,2)" "DECIMAL".toList
        "18446744073709551616".toList (some "2".toList) ∧
      mysql.resolve "DECIMAL(18446744073709551616,2)" = ⟨.decimal 10 0, none⟩ ∧
      ¬(mysql.resolve "DECIMAL(18446744073709551616,2)").Clamps UInt64.size (some 2) := by
  have h : Spells ([] ++ "DECIMAL".toList ++ ([] ++ '(' ::
      (("18446744073709551616".toList ++ ',' :: "2".toList) ++ ')' :: [])))
      ["DECIMAL".toList] (some ["18446744073709551616".toList, "2".toList]) :=
    .word (by decide) (by decide) (by decide) <|
      .list (by decide) (.cons ⟨[], [], rfl, by decide, by decide, by decide⟩ <|
        .last ⟨[], [], rfl, by decide, by decide, by decide⟩) <|
        .blanks (by decide)
  have hr : mysql.resolve "DECIMAL(18446744073709551616,2)" = ⟨.decimal 10 0, none⟩ := by
    decide
  refine ⟨⟨_, h, by decide, by decide⟩, hr, ?_⟩
  rw [hr]
  rintro ⟨-, hn⟩
  exact absurd (hn.mpr (.inl (by decide))) (by decide)

end Dialect
end TypedRows
