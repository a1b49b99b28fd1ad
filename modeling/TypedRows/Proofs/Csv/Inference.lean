import TypedRows.Proofs.Csv.Literal

namespace TypedRows

open Text

namespace Text.Utf8

variable {c : Char} {cs : List Char}

theorem size_cons (c : Char) (cs : List Char) : size (c :: cs) = c.utf8Size + size cs := by
  have hf : ∀ (cs : List Char) (n : Nat),
      cs.foldl (fun n c => n + c.utf8Size) n = n + size cs := by
    intro cs
    induction cs
    case nil => exact fun _ => rfl
    case cons c cs hi =>
      intro n
      rw [size, List.foldl_cons, List.foldl_cons, hi, hi, Nat.zero_add, Nat.add_assoc]
  rw [size, List.foldl_cons, hf, Nat.zero_add]

theorem length_le_size (cs : List Char) : cs.length ≤ size cs := by
  induction cs
  case nil => exact Nat.zero_le _
  case cons c cs hi =>
    have hc : 1 ≤ c.utf8Size := c.utf8Size_pos
    rw [size_cons, List.length_cons]
    omega

theorem size_replicate (n : Nat) (c : Char) : size (List.replicate n c) = n * c.utf8Size := by
  induction n
  case zero => rw [Nat.zero_mul]; rfl
  case succ n hi => rw [List.replicate_succ, size_cons, hi, Nat.succ_mul, Nat.add_comm]

theorem size_ascii (h : ∀ c ∈ cs, c.toNat < 128) : size cs = cs.length := by
  induction cs
  case nil => rfl
  case cons c cs hi =>
    have ⟨hc, hcs⟩ := List.forall_mem_cons.mp h
    have hs : c.utf8Size = 1 :=
      Char.utf8Size_eq_one_iff.mpr (UInt32.le_iff_toNat_le.mpr (Nat.le_of_lt_succ hc))
    rw [size_cons, hi hcs, hs, List.length_cons, Nat.add_comm]

end Text.Utf8

namespace Csv

-- What the cells say, without the blanks around it.
def valuesOf (cells : List (List Char)) : List (List Char) :=
  (cells.map trimChars).filter (!·.isEmpty)

theorem valuesOf_append (cells more : List (List Char)) :
    valuesOf (cells ++ more) = valuesOf cells ++ valuesOf more := by
  simp only [valuesOf, List.map_append, List.filter_append]

section Widths

variable (size : List Char → Nat)

-- The digits before a point, without leading zeros and at least one.
def wholeWidth (whole : List Char) : Nat :=
  max 1 (size (whole.dropWhile (· = '0')))

-- The most digits that any of the decimals has before its point, and after it.
structure Widest (values : List (List Char)) (whole fraction : Nat) : Prop where
  bound : ∀ v ∈ values, ∀ w f, DecimalLiteral v w f →
    wholeWidth size w ≤ whole ∧ size f ≤ fraction
  whole_mem : ∃ v ∈ values, ∃ w f, DecimalLiteral v w f ∧ wholeWidth size w = whole
  fraction_mem : ∃ v ∈ values, ∃ w f, DecimalLiteral v w f ∧ size f = fraction

-- The first of these types that all values allow.
inductive Narrowest (values : List (List Char)) : CanonicalType → Prop
  | blank (h : values = []) : Narrowest values (.text none)
  | narrow (hv : values ≠ []) (h : ∀ v ∈ values, IsInteger 32 v) : Narrowest values (.integer 32)
  | wide (hn : ¬∀ v ∈ values, IsInteger 32 v) (h : ∀ v ∈ values, IsInteger 64 v) :
    Narrowest values (.integer 64)
  | decimal {whole fraction : Nat} {precision scale : UInt16}
    (hi : ¬∀ v ∈ values, IsInteger 64 v) (h : ∀ v ∈ values, IsDecimal v)
    (hw : Widest size values whole fraction) (hp : precision.toNat = min (whole + fraction) 65535)
    (hs : scale.toNat = min fraction 65535) : Narrowest values (.decimal precision scale)
  | date (hi : ¬∀ v ∈ values, IsInteger 64 v) (hd : ¬∀ v ∈ values, IsDecimal v)
    (h : ∀ v ∈ values, Calendar.isDateText v) : Narrowest values .date
  | dateTime (hi : ¬∀ v ∈ values, IsInteger 64 v) (hd : ¬∀ v ∈ values, IsDecimal v)
    (ht : ¬∀ v ∈ values, Calendar.isDateText v)
    (h : ∀ v ∈ values, Calendar.isDateText v ∨ Calendar.isDateTimeText v) :
    Narrowest values .datetime
  | text (hi : ¬∀ v ∈ values, IsInteger 64 v) (hd : ¬∀ v ∈ values, IsDecimal v)
    (ht : ¬∀ v ∈ values, Calendar.isDateText v ∨ Calendar.isDateTimeText v) :
    Narrowest values (.text none)

end Widths

section Literals

variable {size size' : List Char → Nat} {values : List (List Char)} {v w w' f f' : List Char}

theorem DecimalLiteral.unique (h : DecimalLiteral v w f) (h' : DecimalLiteral v w' f') :
    w = w' ∧ f = f' := by
  obtain ⟨hw, hf⟩ := h.cut
  obtain ⟨hw', hf'⟩ := h'.cut
  refine ⟨hw.symm.trans hw', ?_⟩
  rcases hf with hf | ⟨hf, rfl⟩ <;> rcases hf' with hf' | ⟨hf', rfl⟩
  case inl.inl => exact (List.cons.inj (hf.symm.trans hf')).2
  case inl.inr => exact absurd (hf.symm.trans hf') (List.cons_ne_nil _ _)
  case inr.inl => exact absurd (hf'.symm.trans hf) (List.cons_ne_nil _ _)
  case inr.inr => rfl

theorem IsInteger.widen (h : IsInteger 32 v) : IsInteger 64 v := by
  obtain ⟨n, hn, hl, hu⟩ := h
  exact ⟨n, hn, by omega, by omega⟩

theorem isInteger_narrow_iff : IsInteger 32 v ↔ ∃ n, integer64? v = some n ∧ fits32 n := by
  have hf : ∀ n : Int, fits32 n ↔ -2 ^ 31 ≤ n ∧ n < 2 ^ 31 := by
    intro n
    have hl : Int32.minValue.toInt = -2 ^ 31 := by decide
    have hu : Int32.maxValue.toInt = 2 ^ 31 - 1 := by decide
    rw [fits32, hl, hu, Bool.and_eq_true, decide_eq_true_eq, decide_eq_true_eq]
    omega
  constructor
  case mp =>
    rintro ⟨n, hn, hl, hu⟩
    exact ⟨n, integer64?_eq_some_iff.mpr ⟨hn, by omega, by omega⟩, (hf n).mpr ⟨hl, hu⟩⟩
  case mpr =>
    rintro ⟨n, hn, h⟩
    exact ⟨n, (integer64?_eq_some_iff.mp hn).1, (hf n).mp h⟩

theorem isSome_decimal_iff : (DecimalShape.ofChars? v).isSome ↔ IsDecimal v := by
  rw [Option.isSome_iff_exists]
  constructor
  case mp =>
    rintro ⟨s, hs⟩
    obtain ⟨w, f, hl, _⟩ := ofChars?_eq_some_iff.mp hs
    exact ⟨w, f, hl⟩
  case mpr => exact fun ⟨w, f, hl⟩ => ⟨_, ofChars?_eq_some_iff.mpr ⟨w, f, hl, rfl⟩⟩

end Literals

theorem ne_nil_of_not_forall {values : List (List Char)} {p : List Char → Prop}
    (h : ¬∀ v ∈ values, p v) : values ≠ [] := by
  rintro rfl
  exact h (List.forall_mem_nil p)

section Widths

variable {size size' : List Char → Nat} {values : List (List Char)} {w w' f f' : Nat}

theorem Widest.le {values' : List (List Char)} (h : Widest size values w f)
    (hs : values ⊆ values') (h' : Widest size values' w' f') : w ≤ w' ∧ f ≤ f' := by
  obtain ⟨v, hv, a, b, hl, rfl⟩ := h.whole_mem
  obtain ⟨u, hu, c, d, hm, rfl⟩ := h.fraction_mem
  exact ⟨(h'.bound v (hs hv) a b hl).1, (h'.bound u (hs hu) c d hm).2⟩

theorem Widest.unique (h : Widest size values w f) (h' : Widest size values w' f') :
    w = w' ∧ f = f' := by
  obtain ⟨hw, hf⟩ := h.le (List.Subset.refl values) h'
  obtain ⟨hw', hf'⟩ := h'.le (List.Subset.refl values) h
  exact ⟨Nat.le_antisymm hw hw', Nat.le_antisymm hf hf'⟩

-- Sizes that agree on the digits of all decimals.
def AlikeOn (size size' : List Char → Nat) (values : List (List Char)) : Prop :=
  ∀ v ∈ values, ∀ w f, DecimalLiteral v w f →
    wholeWidth size w = wholeWidth size' w ∧ size f = size' f

theorem AlikeOn.symm (h : AlikeOn size size' values) : AlikeOn size' size values := by
  intro v hv w f hl
  exact ⟨(h v hv w f hl).1.symm, (h v hv w f hl).2.symm⟩

theorem AlikeOn.widest (h : AlikeOn size size' values) (hw : Widest size values w f) :
    Widest size' values w f := by
  constructor
  case bound =>
    intro v hv a b hl
    rw [← (h v hv a b hl).1, ← (h v hv a b hl).2]
    exact hw.bound v hv a b hl
  case whole_mem =>
    obtain ⟨v, hv, a, b, hl, he⟩ := hw.whole_mem
    exact ⟨v, hv, a, b, hl, (h v hv a b hl).1.symm.trans he⟩
  case fraction_mem =>
    obtain ⟨v, hv, a, b, hl, he⟩ := hw.fraction_mem
    exact ⟨v, hv, a, b, hl, (h v hv a b hl).2.symm.trans he⟩

theorem AlikeOn.narrowest {ty : CanonicalType}
    (h : (∀ v ∈ values, IsDecimal v) → AlikeOn size size' values)
    (hn : Narrowest size values ty) : Narrowest size' values ty := by
  cases hn
  case blank hv => exact .blank hv
  case narrow hv hi => exact .narrow hv hi
  case wide hn hi => exact .wide hn hi
  case decimal hi hd hw hp hs => exact .decimal hi hd ((h hd).widest hw) hp hs
  case date hi hd ht => exact .date hi hd ht
  case dateTime hi hd ht hb => exact .dateTime hi hd ht hb
  case text hi hd hb => exact .text hi hd hb

theorem alikeOn_ascii (h : ∀ v ∈ values, ∀ c ∈ v, c.toNat < 128) :
    AlikeOn Utf8.size List.length values := by
  intro v hv w f hl
  have hd : ∀ c ∈ w ++ f, c ∈ v := by
    intro c hc
    cases hl
    case pointed => grind
    case whole => grind
  have hw : ∀ c ∈ w.dropWhile (· = '0'), c.toNat < 128 := fun c hc =>
    h v hv c (hd c (List.mem_append_left f ((List.dropWhile_sublist _).subset hc)))
  have hf : ∀ c ∈ f, c.toNat < 128 := fun c hc => h v hv c (hd c (List.mem_append_right w hc))
  rw [wholeWidth, wholeWidth, Utf8.size_ascii hw, Utf8.size_ascii hf]
  exact ⟨rfl, rfl⟩

end Widths

namespace Evidence

variable {e : Evidence} {values cells : List (List Char)} {v : List Char}

-- What a decimal counts for; other values count for nothing.
def wholeOf (v : List Char) : Nat :=
  ((DecimalShape.ofChars? v).map DecimalShape.whole).getD 0

def fractionOf (v : List Char) : Nat :=
  ((DecimalShape.ofChars? v).map DecimalShape.fraction).getD 0

-- What evidence tells of the values that it was gathered from.
-- Digits are counted by their bytes, which are the digits themselves only if these are ASCII ones.
structure Tells (e : Evidence) (values : List (List Char)) : Prop where
  seen : e.seen = values.length
  allInteger : e.allInteger ↔ ∀ v ∈ values, IsInteger 64 v
  allNarrow : e.allNarrow ↔ ∀ v ∈ values, ∀ n ∈ integer64? v, fits32 n
  allDecimal : e.allDecimal ↔ ∀ v ∈ values, IsDecimal v
  whole : e.whole = (values.map wholeOf).foldl max 0
  fraction : e.fraction = (values.map fractionOf).foldl max 0
  allDate : e.allDate ↔ ∀ v ∈ values, Calendar.isDateText v
  allTemporal : e.allTemporal ↔ ∀ v ∈ values, Calendar.isDateText v ∨ Calendar.isDateTimeText v
  anyDateTime : e.anyDateTime ↔ ∃ v ∈ values, Calendar.isDateTimeText v

theorem Tells.none : none.Tells [] := by
  constructor <;> simp [Evidence.none]

theorem Tells.add (h : e.Tells values) (v : List Char) :
    (e.add (.ofChars v)).Tells (values ++ [v]) := by
  have hi : (CellShape.ofChars v).integer.isSome ↔ IsInteger 64 v := isSome_integer64?_iff
  have hd : (CellShape.ofChars v).decimal.isSome ↔ IsDecimal v := isSome_decimal_iff
  constructor
  case seen => simp [Evidence.add, h.seen]
  case allInteger =>
    simp only [Evidence.add, Bool.and_eq_true, h.allInteger, hi, List.forall_mem_append,
      List.forall_mem_singleton]
  case allNarrow =>
    have hn : (CellShape.ofChars v).integer.all fits32 ↔ ∀ n ∈ integer64? v, fits32 n := by
      rw [CellShape.ofChars]
      cases integer64? v <;> simp
    simp only [Evidence.add, Bool.and_eq_true, h.allNarrow, hn, List.forall_mem_append,
      List.forall_mem_singleton]
  case allDecimal =>
    simp only [Evidence.add, Bool.and_eq_true, h.allDecimal, hd, List.forall_mem_append,
      List.forall_mem_singleton]
  case whole =>
    rw [List.map_append, List.foldl_append, ← h.whole]
    rfl
  case fraction =>
    rw [List.map_append, List.foldl_append, ← h.fraction]
    rfl
  case allDate =>
    simp only [Evidence.add, CellShape.ofChars, Bool.and_eq_true, h.allDate,
      List.forall_mem_append, List.forall_mem_singleton]
  case allTemporal =>
    simp only [Evidence.add, CellShape.ofChars, Bool.and_eq_true, Bool.or_eq_true, h.allTemporal,
      List.forall_mem_append, List.forall_mem_singleton]
  case anyDateTime =>
    simp only [Evidence.add, CellShape.ofChars, Bool.or_eq_true, h.anyDateTime, List.mem_append,
      List.mem_singleton, or_and_right, exists_or, exists_eq_left]

theorem Tells.observe (h : e.Tells (valuesOf cells)) (cell : List Char) :
    (e.observe cell).Tells (valuesOf (cells ++ [cell])) := by
  rw [valuesOf_append]
  unfold Evidence.observe
  split
  case h_1 hb =>
    have hc : valuesOf [cell] = [] := by simp [valuesOf, hb]
    rwa [hc, List.append_nil]
  case h_2 hb =>
    have hc : valuesOf [cell] = [trimChars cell] := by simpa [valuesOf] using hb
    rw [hc]
    exact h.add _

theorem tells_ofCells (cells : List (List Char)) : (ofCells cells).Tells (valuesOf cells) := by
  have hf : ∀ (e : Evidence) (before : List (List Char)), e.Tells (valuesOf before) →
      (cells.foldl Evidence.observe e).Tells (valuesOf (before ++ cells)) := by
    induction cells
    case nil => exact fun e before h => (List.append_nil before).symm ▸ h
    case cons cell cells hi =>
      intro e before h
      rw [← List.singleton_append, ← List.append_assoc]
      exact hi _ _ (h.observe cell)
  exact hf none [] .none

theorem foldl_max_greatest {l : List Nat} (h : l ≠ []) :
    l.foldl max 0 ∈ l ∧ ∀ n ∈ l, n ≤ l.foldl max 0 := by
  obtain ⟨n, hn⟩ := List.exists_mem_of_ne_nil l h
  obtain ⟨m, hm⟩ := Option.isSome_iff_exists.mp (List.isSome_max?_of_mem hn)
  rw [List.foldl_max, hm, Option.getD_some, Nat.zero_max]
  exact List.max?_eq_some_iff.mp hm

theorem literal_widths {w f : List Char} (hl : DecimalLiteral v w f) :
    wholeOf v = wholeWidth Utf8.size w ∧ fractionOf v = Utf8.size f := by
  have hs : DecimalShape.ofChars? v = some (.ofParts w f) :=
    ofChars?_eq_some_iff.mpr ⟨w, f, hl, rfl⟩
  rw [wholeOf, fractionOf, hs]
  exact ⟨rfl, rfl⟩

theorem Tells.widest (h : e.Tells values) (hv : values ≠ []) (hd : ∀ v ∈ values, IsDecimal v) :
    Widest Utf8.size values e.whole e.fraction := by
  have hw := foldl_max_greatest (l := values.map wholeOf) (by simpa using hv)
  have hf := foldl_max_greatest (l := values.map fractionOf) (by simpa using hv)
  rw [← h.whole] at hw
  rw [← h.fraction] at hf
  constructor
  case bound =>
    intro v hv w f hvl
    rw [← (literal_widths hvl).1, ← (literal_widths hvl).2]
    exact ⟨hw.2 _ (List.mem_map_of_mem hv), hf.2 _ (List.mem_map_of_mem hv)⟩
  case whole_mem =>
    obtain ⟨v, hv, he⟩ := List.mem_map.mp hw.1
    obtain ⟨w, f, hvl⟩ := hd v hv
    exact ⟨v, hv, w, f, hvl, (literal_widths hvl).1.symm.trans he⟩
  case fraction_mem =>
    obtain ⟨v, hv, he⟩ := List.mem_map.mp hf.1
    obtain ⟨w, f, hvl⟩ := hd v hv
    exact ⟨v, hv, w, f, hvl, (literal_widths hvl).2.symm.trans he⟩

theorem toNat_clamp (n : Nat) : (clamp n).toNat = min n 65535 := by
  rw [clamp, Nat.toUInt16, UInt16.toNat_ofNat']
  omega

section Canonical

variable {ty : CanonicalType}

theorem Tells.narrow_iff (h : e.Tells values) (hi : ∀ v ∈ values, IsInteger 64 v) :
    e.allNarrow ↔ ∀ v ∈ values, IsInteger 32 v := by
  rw [h.allNarrow]
  refine forall₂_congr fun v hv => ?_
  obtain ⟨n, hn⟩ := hi v hv
  rw [isInteger_narrow_iff, integer64?_eq_some_iff.mpr hn]
  simp

theorem Tells.temporal_iff (h : e.Tells values) (ht : ¬∀ v ∈ values, Calendar.isDateText v) :
    (e.allTemporal && e.anyDateTime) = true ↔
      ∀ v ∈ values, Calendar.isDateText v ∨ Calendar.isDateTimeText v := by
  rw [Bool.and_eq_true, h.allTemporal, h.anyDateTime, and_iff_left_iff_imp]
  intro hb
  simp only [Classical.not_forall] at ht
  obtain ⟨v, hv, ht⟩ := ht
  exact ⟨v, hv, (hb v hv).resolve_left ht⟩

theorem Tells.seen_eq_zero_iff (h : e.Tells values) : e.seen = 0 ↔ values = [] := by
  rw [h.seen, List.length_eq_zero_iff]

theorem Tells.narrowest (h : e.Tells values) : Narrowest Utf8.size values e.canonical := by
  have hn := not_congr h.allInteger
  have hm := not_congr h.allDecimal
  unfold canonical
  split_ifs with hv hi hw hd ht hb
  case pos => exact .blank (h.seen_eq_zero_iff.mp hv)
  case pos =>
    have hi := h.allInteger.mp hi
    exact .narrow ((not_congr h.seen_eq_zero_iff).mp hv) ((h.narrow_iff hi).mp hw)
  case neg =>
    have hi := h.allInteger.mp hi
    exact .wide ((not_congr (h.narrow_iff hi)).mp hw) hi
  case pos =>
    have hd := h.allDecimal.mp hd
    have hv := (not_congr h.seen_eq_zero_iff).mp hv
    exact .decimal (hn.mp hi) hd (h.widest hv hd) (toNat_clamp _) (toNat_clamp _)
  case pos => exact .date (hn.mp hi) (hm.mp hd) (h.allDate.mp ht)
  case pos =>
    have ht := (not_congr h.allDate).mp ht
    exact .dateTime (hn.mp hi) (hm.mp hd) ht ((h.temporal_iff ht).mp hb)
  case neg =>
    have ht := (not_congr h.allDate).mp ht
    exact .text (hn.mp hi) (hm.mp hd) ((not_congr (h.temporal_iff ht)).mp hb)

theorem Tells.canonical_of_narrowest (h : e.Tells values) (hn : Narrowest Utf8.size values ty) :
    e.canonical = ty := by
  have hs : ∀ {p : List Char → Prop}, (¬∀ v ∈ values, p v) → e.seen ≠ 0 :=
    fun hp => (not_congr h.seen_eq_zero_iff).mpr (ne_nil_of_not_forall hp)
  have hni := (not_congr h.allInteger).mpr
  have hnd := (not_congr h.allDecimal).mpr
  have hnt := (not_congr h.allDate).mpr
  unfold canonical
  cases hn
  case blank hb => rw [if_pos (h.seen_eq_zero_iff.mpr hb)]
  case narrow hb hi =>
    have hw : ∀ v ∈ values, IsInteger 64 v := fun v hv => (hi v hv).widen
    rw [if_neg ((not_congr h.seen_eq_zero_iff).mpr hb), if_pos (h.allInteger.mpr hw),
      if_pos ((h.narrow_iff hw).mpr hi)]
  case wide hn hi =>
    rw [if_neg (hs hn), if_pos (h.allInteger.mpr hi),
      if_neg ((not_congr (h.narrow_iff hi)).mpr hn)]
  case decimal whole fraction precision scale hi hd hw hp hf =>
    obtain ⟨rfl, rfl⟩ := hw.unique (h.widest (ne_nil_of_not_forall hi) hd)
    rw [if_neg (hs hi), if_neg (hni hi), if_pos (h.allDecimal.mpr hd)]
    congr 1
    case e_precision => exact UInt16.toNat_inj.mp ((toNat_clamp _).trans hp.symm)
    case e_scale => exact UInt16.toNat_inj.mp ((toNat_clamp _).trans hf.symm)
  case date hi hd ht =>
    rw [if_neg (hs hi), if_neg (hni hi), if_neg (hnd hd), if_pos (h.allDate.mpr ht)]
  case dateTime hi hd ht hb =>
    rw [if_neg (hs hi), if_neg (hni hi), if_neg (hnd hd), if_neg (hnt ht),
      if_pos ((h.temporal_iff ht).mpr hb)]
  case text hi hd hb =>
    have ht : ¬∀ v ∈ values, Calendar.isDateText v := fun ht => hb fun v hv => .inl (ht v hv)
    rw [if_neg (hs hi), if_neg (hni hi), if_neg (hnd hd), if_neg (hnt ht),
      if_neg ((not_congr (h.temporal_iff ht)).mpr hb)]

-- Precision and scale leave room for every decimal, whatever script its digits are of.
theorem Tells.room {precision scale : UInt16} (h : e.Tells values)
    (hc : e.canonical = .decimal precision scale) (hl : e.whole + e.fraction ≤ 65535) :
    ∀ v ∈ values, ∃ w f, DecimalLiteral v w f ∧ f.length ≤ scale.toNat ∧
      wholeWidth List.length w ≤ precision.toNat - scale.toNat := by
  have hn : Narrowest Utf8.size values (.decimal precision scale) := hc ▸ h.narrowest
  rcases hn with _ | _ | _ | ⟨hi, hd, hw, hp, hs⟩
  case decimal =>
    obtain ⟨rfl, rfl⟩ := hw.unique (h.widest (ne_nil_of_not_forall hi) hd)
    intro v hv
    obtain ⟨w, f, hvl⟩ := hd v hv
    obtain ⟨hbw, hbf⟩ := hw.bound v hv w f hvl
    have hlw := Utf8.length_le_size (w.dropWhile (· = '0'))
    have hlf := Utf8.length_le_size f
    unfold wholeWidth at *
    exact ⟨w, f, hvl, by omega, by omega⟩

end Canonical

-- By bytes the type is always the first that all values allow. By digits it is so if, where all
-- values are decimals, these are written in ASCII.
theorem ofCells_narrowest (cells : List (List Char)) :
    (∀ ty, (ofCells cells).canonical = ty ↔ Narrowest Utf8.size (valuesOf cells) ty) ∧
    (((∀ v ∈ valuesOf cells, IsDecimal v) → ∀ v ∈ valuesOf cells, ∀ c ∈ v, c.toNat < 128) →
      ∀ ty, (ofCells cells).canonical = ty ↔ Narrowest List.length (valuesOf cells) ty) ∧
    ∀ precision scale whole fraction, (ofCells cells).canonical = .decimal precision scale →
      Widest Utf8.size (valuesOf cells) whole fraction → whole + fraction ≤ 65535 →
      ∀ v ∈ valuesOf cells, ∃ w f, DecimalLiteral v w f ∧ f.length ≤ scale.toNat ∧
        wholeWidth List.length w ≤ precision.toNat - scale.toNat := by
  have ht := tells_ofCells cells
  have hb : ∀ ty, (ofCells cells).canonical = ty ↔ Narrowest Utf8.size (valuesOf cells) ty :=
    fun ty => ⟨fun he => he ▸ ht.narrowest, ht.canonical_of_narrowest⟩
  refine ⟨hb, ?_, ?_⟩
  case refine_1 =>
    intro ha ty
    have hd : (∀ v ∈ valuesOf cells, IsDecimal v) →
        AlikeOn Utf8.size List.length (valuesOf cells) := fun hd => alikeOn_ascii (ha hd)
    rw [hb]
    exact ⟨AlikeOn.narrowest hd, AlikeOn.narrowest fun h => (hd h).symm⟩
  case refine_2 =>
    intro precision scale whole fraction hc hw hl
    have hn : Narrowest Utf8.size (valuesOf cells) (.decimal precision scale) := (hb _).mp hc
    rcases hn with _ | _ | _ | ⟨hi, hd, _, _, _⟩
    case decimal =>
      obtain ⟨rfl, rfl⟩ := hw.unique (ht.widest (ne_nil_of_not_forall hi) hd)
      exact ht.room hc hl

theorem ofCells_narrowest_prices :
    let cells := ["1.5".toList, " 12.25 ".toList, "".toList, "007".toList]
    Narrowest List.length (valuesOf cells) (.decimal 4 2) ∧
      ∀ v ∈ valuesOf cells, ∃ w f, DecimalLiteral v w f ∧ f.length ≤ 2 ∧
        wholeWidth List.length w ≤ 2 := by
  intro cells
  have hc : (ofCells cells).canonical = .decimal 4 2 := by decide
  have ha : (valuesOf cells).all fun v => v.all fun c => c.toNat < 128 := by decide
  simp only [List.all_eq_true, decide_eq_true_eq] at ha
  obtain ⟨hb, hl, hr⟩ := ofCells_narrowest cells
  refine ⟨(hl (fun _ => ha) _).mp hc, ?_⟩
  rcases (hb _).mp hc with _ | _ | _ | ⟨_, _, hw, hp, _⟩
  case decimal =>
    have hs : (4 : UInt16).toNat = 4 := rfl
    exact hr 4 2 _ _ hc hw (by omega)

-- Two digits that take two bytes each.
theorem ofCells_not_narrowest :
    let cells := ["\u0663.\u0665".toList]
    (ofCells cells).canonical = .decimal 4 2 ∧
      Narrowest List.length (valuesOf cells) (.decimal 2 1) ∧
      ¬Narrowest List.length (valuesOf cells) (ofCells cells).canonical := by
  intro cells
  have hc : (ofCells cells).canonical = .decimal 4 2 := by decide +kernel
  have hv : valuesOf cells = [['\u0663', '.', '\u0665']] := by decide
  have hl : DecimalLiteral ([] ++ ['\u0663'] ++ ['.', '\u0665']) ['\u0663'] ['\u0665'] :=
    .pointed (.head _) (List.forall_mem_singleton.mpr (by decide +kernel))
      (List.forall_mem_singleton.mpr (by decide +kernel)) (List.cons_ne_nil _ _)
  have hw : Widest List.length [['\u0663', '.', '\u0665']] 1 1 := by
    refine ⟨?_, ⟨_, .head _, _, _, hl, by decide⟩, ⟨_, .head _, _, _, hl, rfl⟩⟩
    intro v hv w f h
    obtain rfl := List.mem_singleton.mp hv
    obtain ⟨rfl, rfl⟩ := h.unique hl
    decide
  have hi : ¬∀ v ∈ [['\u0663', '.', '\u0665']], IsInteger 64 v := by
    rw [List.forall_mem_singleton, ← isSome_integer64?_iff]
    decide
  have hd : ∀ v ∈ [['\u0663', '.', '\u0665']], IsDecimal v :=
    List.forall_mem_singleton.mpr ⟨_, _, hl⟩
  refine ⟨hc, hv ▸ .decimal hi hd hw (by decide) (by decide), ?_⟩
  rw [hc, hv]
  intro hn
  rcases hn with _ | _ | _ | ⟨_, _, hw', _, hs⟩
  case decimal =>
    obtain ⟨rfl, rfl⟩ := hw'.unique hw
    exact absurd hs (by decide)

end Evidence
end Csv
end TypedRows
