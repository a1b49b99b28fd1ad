import TypedRows.Proofs.Csv.CellShape
import TypedRows.Proofs.Csv.Inference

namespace TypedRows.Csv

open Text

-- The order in which inferred types widen.
inductive Widens : CanonicalType → CanonicalType → Prop
  | same (t : CanonicalType) : Widens t t
  | integer : Widens (.integer 32) (.integer 64)
  | decimal {width : UInt8} {p s : UInt16} (hw : width = 32 ∨ width = 64) :
    Widens (.integer width) (.decimal p s)
  | digits {p s p' s' : UInt16} (hs : s ≤ s')
    (hw : p.toNat - s.toNat ≤ p'.toNat - s'.toNat) : Widens (.decimal p s) (.decimal p' s')
  | dateTime : Widens .date .datetime
  | text (t : CanonicalType) : Widens t (.text none)

theorem widens_decimal_iff {p s p' s' : UInt16} : Widens (.decimal p s) (.decimal p' s') ↔
    s ≤ s' ∧ p.toNat - s.toNat ≤ p'.toNat - s'.toNat := by
  constructor
  case mp =>
    intro h
    cases h
    case same => exact ⟨UInt16.le_refl s, Nat.le_refl _⟩
    case digits hs hw => exact ⟨hs, hw⟩
  case mpr => exact fun ⟨hs, hw⟩ => .digits hs hw

section Narrowest

variable {size : List Char → Nat} {values values' : List (List Char)} {t t' : CanonicalType}

-- Whether a precision can count the digits before and after the point, where it has to.
def HasRoom (size : List Char → Nat) (values : List (List Char)) : Prop :=
  (∀ v ∈ values, IsDecimal v) →
    ∀ whole fraction, Widest size values whole fraction → whole + fraction ≤ 65535

theorem HasRoom.congr {size' : List Char → Nat} (h : HasRoom size values)
    (ha : (∀ v ∈ values, IsDecimal v) → AlikeOn size size' values) : HasRoom size' values :=
  fun hd whole fraction hw => h hd whole fraction ((ha hd).symm.widest hw)

theorem not_numeric_of_dated (hv : values ≠ [])
    (h : ∀ v ∈ values, Calendar.isDateText v ∨ Calendar.isDateTimeText v) :
    (¬∀ v ∈ values, IsInteger 32 v) ∧ (¬∀ v ∈ values, IsInteger 64 v) ∧
      ¬∀ v ∈ values, IsDecimal v := by
  obtain ⟨v, hm⟩ := List.exists_mem_of_ne_nil values hv
  have hn : ¬IsDecimal v := fun hd => hd.not_dated (h v hm)
  exact ⟨fun hi => hn (hi v hm).isDecimal, fun hi => hn (hi v hm).isDecimal, fun hd => hn (hd v hm)⟩

-- Whatever all later values allow, the earlier ones among them did. So the later type decides which
-- types may come before it.
theorem Narrowest.widens (hm : values ⊆ values') (hv : values ≠ []) (hr : HasRoom size values')
    (h : Narrowest size values t) (h' : Narrowest size values' t') : Widens t t' := by
  have hall : ∀ {p : List Char → Prop}, (∀ v ∈ values', p v) → ∀ v ∈ values, p v :=
    fun hp v hv => hp v (hm hv)
  cases h'
  case blank hb => exact (hv (List.subset_nil.mp (hb ▸ hm))).elim
  case narrow _ hi =>
    have hi := hall hi
    have hw : ∀ v ∈ values, IsInteger 64 v := fun v hv => (hi v hv).widen
    cases h
    case narrow => exact .same _
    all_goals contradiction
  case wide _ hi =>
    have hi := hall hi
    cases h
    case narrow => exact .integer
    case wide => exact .same _
    all_goals contradiction
  case decimal whole' fraction' _ _ _ hd hw' hp' hs' =>
    have hl := hr hd whole' fraction' hw'
    have hd := hall hd
    cases h
    case narrow => exact .decimal (.inl rfl)
    case wide => exact .decimal (.inr rfl)
    case decimal hw hp hs =>
      obtain ⟨hle, hlf⟩ := hw.le hm hw'
      exact .digits (UInt16.le_iff_toNat_le.mpr (by omega)) (by omega)
    all_goals contradiction
  case date _ _ ht =>
    have ht := hall ht
    have hb : ∀ v ∈ values, Calendar.isDateText v ∨ Calendar.isDateTimeText v :=
      fun v hv => .inl (ht v hv)
    obtain ⟨hn, hi, hd⟩ := not_numeric_of_dated hv hb
    cases h
    case date => exact .same _
    all_goals contradiction
  case dateTime _ _ _ hb =>
    have hb := hall hb
    obtain ⟨hn, hi, hd⟩ := not_numeric_of_dated hv hb
    cases h
    case date => exact .dateTime
    case dateTime => exact .same _
    all_goals contradiction
  case text => exact .text t

end Narrowest

namespace Evidence

theorem add_right_comm (e : Evidence) (s s' : CellShape) :
    (e.add s).add s' = (e.add s').add s := by
  simp only [add, Bool.and_right_comm, Bool.or_right_comm, Nat.max_right_comm]

theorem observe_blank {cell : List Char} (h : trimChars cell = []) (e : Evidence) :
    e.observe cell = e := by
  rw [observe, h]

theorem observe_right_comm (e : Evidence) (a b : List Char) :
    (e.observe a).observe b = (e.observe b).observe a := by
  cases ha : trimChars a
  case nil => rw [observe_blank ha, observe_blank ha]
  case cons c cs =>
    cases hb : trimChars b
    case nil => rw [observe_blank hb, observe_blank hb]
    case cons d ds =>
      simp only [observe, ha, hb]
      exact add_right_comm e _ _

theorem Tells.hasRoom {e : Evidence} {values : List (List Char)} (h : e.Tells values)
    (hl : e.whole + e.fraction ≤ 65535) : HasRoom Utf8.size values := by
  intro hd whole fraction hw
  obtain ⟨v, hv, _⟩ := hw.whole_mem
  obtain ⟨rfl, rfl⟩ := (h.widest (List.ne_nil_of_mem hv) hd).unique hw
  exact hl

theorem ofCells_perm {cells cells' : List (List Char)} (h : cells.Perm cells') :
    ofCells cells = ofCells cells' :=
  h.foldl_eq' (fun a _ b _ e => observe_right_comm e a b) none

theorem ofCells_blank {cell : List Char} (h : trimChars cell = [])
    (before after : List (List Char)) :
    ofCells (before ++ cell :: after) = ofCells (before ++ after) := by
  rw [ofCells, ofCells, List.foldl_append, List.foldl_append, List.foldl_cons, observe_blank h]

-- A type widens with every cell that comes after the first value, as long as the precision has room
-- for the digits of all decimals. These count by their bytes; their number itself tells this only
-- if, where all values are decimals, they are written in ASCII.
theorem ofCells_widens (cells : List (List Char)) :
    (∀ cells', cells.Perm cells' → (ofCells cells').canonical = (ofCells cells).canonical) ∧
    (∀ before blank after, trimChars blank = [] → cells = before ++ after →
      (ofCells (before ++ blank :: after)).canonical = (ofCells cells).canonical) ∧
    ∀ more, valuesOf cells ≠ [] →
      HasRoom Utf8.size (valuesOf (cells ++ more)) ∨
        HasRoom List.length (valuesOf (cells ++ more)) ∧
          ((∀ v ∈ valuesOf (cells ++ more), IsDecimal v) →
            ∀ v ∈ valuesOf (cells ++ more), ∀ c ∈ v, c.toNat < 128) →
      Widens (ofCells cells).canonical (ofCells (cells ++ more)).canonical := by
  refine ⟨?perm, ?blank, ?widens⟩
  case perm => exact fun cells' h => congrArg canonical (ofCells_perm h.symm)
  case blank =>
    rintro before blank after h rfl
    exact congrArg canonical (ofCells_blank h before after)
  case widens =>
    intro more hv hr
    have hm : valuesOf cells ⊆ valuesOf (cells ++ more) := by
      rw [valuesOf_append]
      exact List.subset_append_left _ _
    have hr : HasRoom Utf8.size (valuesOf (cells ++ more)) := by
      rcases hr with hr | ⟨hr, ha⟩
      case inl => exact hr
      case inr => exact hr.congr fun hd => (alikeOn_ascii (ha hd)).symm
    exact (tells_ofCells cells).narrowest.widens hm hv hr (tells_ofCells (cells ++ more)).narrowest

theorem ofCells_widens_prices :
    let cells := ["7".toList, " 1.5".toList]
    let more := ["12.25".toList]
    HasRoom List.length (valuesOf (cells ++ more)) ∧
      (ofCells cells.reverse).canonical = .decimal 2 1 ∧
      (ofCells ("7".toList :: " ".toList :: [" 1.5".toList])).canonical = .decimal 2 1 ∧
      Widens (.decimal 2 1) (ofCells (cells ++ more)).canonical := by
  intro cells more
  have hc : (ofCells cells).canonical = .decimal 2 1 := by decide
  have hl : (ofCells (cells ++ more)).whole + (ofCells (cells ++ more)).fraction ≤ 65535 := by
    decide
  have ha : (valuesOf (cells ++ more)).all fun v => v.all fun c => c.toNat < 128 := by decide
  simp only [List.all_eq_true, decide_eq_true_eq] at ha
  have hr : HasRoom List.length (valuesOf (cells ++ more)) :=
    ((tells_ofCells _).hasRoom hl).congr fun _ => alikeOn_ascii ha
  obtain ⟨hp, hb, hw⟩ := ofCells_widens cells
  refine ⟨hr, (hp _ cells.reverse_perm.symm).trans hc, ?_, ?_⟩
  case refine_1 => exact (hb ["7".toList] " ".toList [" 1.5".toList] (by decide) rfl).trans hc
  case refine_2 => exact hc ▸ hw more (by decide) (.inr ⟨hr, fun _ => ha⟩)

section Digits

variable {digits : List Char}

theorem literal_whole (hd : ∀ c ∈ digits, isDecimalDigit c) (hn : digits ≠ []) :
    DecimalLiteral digits digits [] := by
  have h : DecimalLiteral ([] ++ digits ++ []) digits [] := .whole (.head _) hd hn (.head _)
  rwa [List.nil_append, List.append_nil] at h

theorem literal_fraction (hd : ∀ c ∈ digits, isDecimalDigit c) (hn : digits ≠ []) :
    DecimalLiteral ('.' :: digits) [] digits :=
  .pointed (.head _) (List.forall_mem_nil _) hd hn

-- The widths of digits before a point, and of the same digits after one.
theorem widest_digits (size : List Char → Nat) (hd : ∀ c ∈ digits, isDecimalDigit c)
    (hz : ∀ c ∈ digits.head?, c ≠ '0') (hs : 0 < size digits) (h0 : size [] = 0) :
    Widest size [digits] (size digits) 0 ∧
      Widest size [digits, '.' :: digits] (size digits) (size digits) := by
  have hn : digits ≠ [] := by
    rintro rfl
    exact (h0 ▸ hs).ne rfl
  have hw := literal_whole hd hn
  have hf := literal_fraction hd hn
  have hww : wholeWidth size digits = size digits := by
    rw [wholeWidth, dropWhile_of_head fun c hc => decide_eq_false (hz c hc)]
    exact max_eq_right hs
  have hwf : wholeWidth size [] ≤ size digits := by
    rw [wholeWidth, List.dropWhile_nil, h0]
    exact hs
  have hb : ∀ w f, DecimalLiteral digits w f → wholeWidth size w ≤ size digits ∧ size f ≤ 0 := by
    intro w f hl
    obtain ⟨rfl, rfl⟩ := hl.unique hw
    exact ⟨hww.le, h0.le⟩
  have hp : ∀ w f, DecimalLiteral ('.' :: digits) w f →
      wholeWidth size w ≤ size digits ∧ size f ≤ size digits := by
    intro w f hl
    obtain ⟨rfl, rfl⟩ := hl.unique hf
    exact ⟨hwf, Nat.le_refl _⟩
  constructor
  case left =>
    exact ⟨List.forall_mem_singleton.mpr hb, ⟨_, .head _, _, _, hw, hww⟩,
      ⟨_, .head _, _, _, hw, h0⟩⟩
  case right =>
    refine ⟨List.forall_mem_cons.mpr ⟨?_, List.forall_mem_singleton.mpr hp⟩,
      ⟨_, .head _, _, _, hw, hww⟩, ⟨_, .tail _ (.head _), _, _, hf, rfl⟩⟩
    exact fun w f hl => ⟨(hb w f hl).1, (hb w f hl).2.trans (Nat.zero_le _)⟩

theorem not_isInteger (bits : Nat) (h : ∀ c ∈ digits, c.isDigit = false) :
    ¬IsInteger bits digits := by
  have ha : ∀ sign ds : List Char, ds ≠ [] → (∀ c ∈ ds, c.isDigit) →
      ¬∀ c ∈ sign ++ ds, c.isDigit = false := by
    intro sign ds hn hd h
    obtain ⟨c, hc⟩ := List.exists_mem_of_ne_nil ds hn
    exact absurd (hd c hc) (Bool.eq_false_iff.mp (h c (List.mem_append_right sign hc)))
  rintro ⟨n, hl, -⟩
  cases hl
  case positive sign ds _ hd hn => exact ha sign ds hn hd h
  case negative ds hd hn => exact ha ['-'] ds hn hd h

end Digits

-- Two bytes a digit: 16384 digits before the point and as many after it take up 65536 bytes.
theorem ofCells_not_widened :
    let digits := List.replicate 16384 '\u0663'
    Widest List.length (valuesOf [digits, '.' :: digits]) 16384 16384 ∧
      (ofCells [digits]).canonical = .decimal 32768 0 ∧
      (ofCells [digits, '.' :: digits]).canonical = .decimal 65535 32768 ∧
      ¬Widens (ofCells [digits]).canonical (ofCells [digits, '.' :: digits]).canonical := by
  intro digits
  have hm : ∀ c ∈ digits, c = '\u0663' := fun c hc => List.eq_of_mem_replicate hc
  have hd : ∀ c ∈ digits, isDecimalDigit c := fun c hc => hm c hc ▸ by decide +kernel
  have hz : ∀ c ∈ digits.head?, c ≠ '0' := fun c hc => hm c (List.mem_of_mem_head? hc) ▸ by decide
  have hn : ¬IsInteger 64 digits := not_isInteger 64 fun c hc => hm c hc ▸ by decide
  have hb : ∀ c ∈ digits, isBlank c = false := fun c hc => hm c hc ▸ by decide
  have hl : digits.length = 16384 := List.length_replicate
  have hs : Utf8.size digits = 32768 := by rw [Utf8.size_replicate]; decide
  clear_value digits
  have ht : trimChars digits = digits := trimChars_of_unblank hb
  have hp : trimChars ('.' :: digits) = '.' :: digits :=
    trimChars_of_unblank (List.forall_mem_cons.mpr ⟨by decide, hb⟩)
  have he : digits ≠ [] := List.ne_nil_of_length_pos (hl ▸ by decide)
  have hv : valuesOf [digits] = [digits] := by simp [valuesOf, ht, he]
  have hw : valuesOf [digits, '.' :: digits] = [digits, '.' :: digits] := by
    simp [valuesOf, ht, hp, he]
  have hi : ∀ rest, ¬∀ v ∈ digits :: rest, IsInteger 64 v :=
    fun rest h => hn (h digits List.mem_cons_self)
  have hdw : IsDecimal digits := ⟨_, _, literal_whole hd he⟩
  have hdf : IsDecimal ('.' :: digits) := ⟨_, _, literal_fraction hd he⟩
  have hb := widest_digits Utf8.size hd hz (hs ▸ by decide) rfl
  have hc := widest_digits List.length hd hz (hl ▸ by decide) rfl
  rw [hs] at hb
  rw [hl] at hc
  have h : (ofCells [digits]).canonical = .decimal 32768 0 := by
    apply (tells_ofCells _).canonical_of_narrowest
    rw [hv]
    exact .decimal (hi []) (List.forall_mem_singleton.mpr hdw) hb.1 (by decide) (by decide)
  have h' : (ofCells [digits, '.' :: digits]).canonical = .decimal 65535 32768 := by
    apply (tells_ofCells _).canonical_of_narrowest
    rw [hw]
    have ha : ∀ v ∈ [digits, '.' :: digits], IsDecimal v :=
      List.forall_mem_cons.mpr ⟨hdw, List.forall_mem_singleton.mpr hdf⟩
    exact .decimal (hi _) ha hb.2 (by decide) (by decide)
  refine ⟨hw.symm ▸ hc.2, h, h', ?_⟩
  rw [h, h', widens_decimal_iff]
  decide

end Evidence
end TypedRows.Csv
