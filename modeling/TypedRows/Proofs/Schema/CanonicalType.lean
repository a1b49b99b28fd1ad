import Mathlib.Data.List.Forall2
import TypedRows.Proofs.Text.Lines
import TypedRows.Proofs.Text.Numeral
import TypedRows.Schema.CanonicalType

namespace TypedRows

open Text

namespace CanonicalType

-- A name that a parenthesis follows directly.
def applied (name : String) (inner : List Char) : List Char :=
  name.toList ++ '(' :: (inner ++ [')'])

-- What spells a type. A numeral is bounded by the words that hold its value in the type.
inductive Spells : List Char → CanonicalType → Prop
  | unboundedText : Spells "text".toList (.text none)
  | unboundedBinary : Spells "binary".toList (.binary none)
  | boolean : Spells "boolean".toList .boolean
  | date : Spells "date".toList .date
  | datetime : Spells "datetime".toList .datetime
  | unknown : Spells "unknown".toList .unknown
  | integer {width : UInt8} {w : List Char} (hw : IsNumeralOf width.toNat w) :
    Spells (applied "integer" w) (.integer width)
  | float {width : UInt8} {w : List Char} (hw : IsNumeralOf width.toNat w) :
    Spells (applied "float" w) (.float width)
  | text {length : UInt64} {n : List Char} (hn : IsNumeralOf length.toNat n) :
    Spells (applied "text" n) (.text (some length))
  | binary {length : UInt64} {n : List Char} (hn : IsNumeralOf length.toNat n) :
    Spells (applied "binary" n) (.binary (some length))
  | decimal {precision scale : UInt16} {p s : List Char} (hp : IsNumeralOf precision.toNat p)
    (hs : IsNumeralOf scale.toNat s) :
    Spells (applied "decimal" (p ++ ',' :: s)) (.decimal precision scale)

variable {cs before inner : List Char} {name : String} {ns : List Nat} {c : CanonicalType}

section Arguments

theorem arguments?_eq_some_iff : arguments? inner = some ns ↔
    List.Forall₂ (fun piece n => IsNumeralOf n piece ∧ n < UInt64.size) (splitAtChar ',' inner) ns := by
  rw [arguments?]
  induction splitAtChar ',' inner generalizing ns
  case nil => cases ns <;> simp
  case cons piece pieces hi =>
    simp only [List.mapM_cons, Option.bind_eq_bind, Option.bind_eq_some_iff, hi,
      boundedNumeral?_trimChars_eq_some_iff, List.forall₂_cons_left_iff, Option.pure_def,
      Option.some.injEq]
    constructor
    case mp =>
      rintro ⟨n, hn, ns', hns, rfl⟩
      exact ⟨n, ns', hn, hns, rfl⟩
    case mpr =>
      rintro ⟨n, ns', hn, hns, rfl⟩
      exact ⟨n, hn, ns', hns, rfl⟩

theorem arguments?_one_iff {n : Nat} :
    arguments? inner = some [n] ↔ IsNumeralOf n inner ∧ n < UInt64.size := by
  rw [arguments?_eq_some_iff]
  constructor
  case mp =>
    intro h
    have he : [','].intercalate (splitAtChar ',' inner) = inner := intercalate_splitAtChar inner
    generalize splitAtChar ',' inner = pieces at h he
    rcases h with _ | ⟨hn, ⟨⟩⟩
    exact he ▸ by simpa using hn
  case mpr =>
    intro h
    rw [splitAtChar_of_not_mem (h.1.not_mem rfl (by decide) rfl)]
    exact .cons h .nil

theorem arguments?_two_iff {m n : Nat} : arguments? inner = some [m, n] ↔
    ∃ p s, inner = p ++ ',' :: s ∧ (IsNumeralOf m p ∧ m < UInt64.size) ∧
      IsNumeralOf n s ∧ n < UInt64.size := by
  rw [arguments?_eq_some_iff]
  constructor
  case mp =>
    intro h
    have he : [','].intercalate (splitAtChar ',' inner) = inner := intercalate_splitAtChar inner
    generalize splitAtChar ',' inner = pieces at h he
    rcases h with _ | ⟨hm, _ | ⟨hn, ⟨⟩⟩⟩
    exact ⟨_, _, by simpa [List.intercalate_cons_cons] using he.symm, hm, hn⟩
  case mpr =>
    rintro ⟨p, s, rfl, hm, hn⟩
    rw [splitAtChar_append, splitAtChar_of_not_mem (hm.1.not_mem rfl (by decide) rfl),
      splitAtChar_of_not_mem (hn.1.not_mem rfl (by decide) rfl)]
    exact .cons hm (.cons hn .nil)

end Arguments

section Parts

theorem splitArguments_of_not_mem (h : '(' ∉ cs) : splitArguments cs = some (cs, none) := by
  have hd : cs.dropWhile (· ≠ '(') = [] :=
    List.dropWhile_eq_nil_iff.mpr fun c hc => decide_eq_true fun he => h (he ▸ hc)
  rw [splitArguments, hd]

theorem splitArguments_append (h : '(' ∉ before) :
    splitArguments (before ++ '(' :: cs) =
      if cs.getLast? = some ')' then some (before, some cs.dropLast) else none := by
  rw [splitArguments, dropWhile_ne_append h, takeWhile_ne_append h]

theorem splitArguments_applied (h : '(' ∉ name.toList) :
    splitArguments (applied name inner) = some (name.toList, some inner) := by
  rw [applied, splitArguments_append h, List.getLast?_concat, if_pos rfl, List.dropLast_concat]

theorem splitArguments_cases (cs : List Char) :
    splitArguments cs = some (cs, none) ∨ splitArguments cs = none ∨
      ∃ name inner, cs = applied name inner ∧
        splitArguments cs = some (name.toList, some inner) := by
  by_cases hm : '(' ∈ cs
  case neg => exact .inl (splitArguments_of_not_mem hm)
  case pos =>
    obtain ⟨name, rest, rfl, hn⟩ := List.eq_append_cons_of_mem hm
    rw [splitArguments_append hn]
    split
    case isFalse => exact .inr (.inl rfl)
    case isTrue hl =>
      refine .inr (.inr ⟨String.ofList name, rest.dropLast, ?_, by rw [String.toList_ofList]⟩)
      rw [applied, String.toList_ofList, List.dropLast_append_getLast? ')' hl]

theorem spells_of_name (h : ofParts? name none = some c) : Spells name.toList c := by
  unfold ofParts? at h
  split at h
  case h_4 => exact Option.some.inj h ▸ .unboundedText
  case h_6 => exact Option.some.inj h ▸ .unboundedBinary
  case h_8 => exact Option.some.inj h ▸ .boolean
  case h_9 => exact Option.some.inj h ▸ .date
  case h_10 => exact Option.some.inj h ▸ .datetime
  case h_11 => exact Option.some.inj h ▸ .unknown
  all_goals contradiction

theorem spells_of_arguments (h : ofParts? name (some ns) = some c)
    (ha : arguments? inner = some ns) : Spells (applied name inner) c := by
  unfold ofParts? at h
  split at h
  case h_1 w hn =>
    obtain rfl := Option.some.inj hn
    obtain ⟨hw, rfl⟩ : w < UInt8.size ∧ integer w.toUInt8 = c := by simpa using h
    have hv : w.toUInt8.toNat = w := UInt8.toNat_ofNat_of_lt' hw
    exact .integer (hv.symm ▸ (arguments?_one_iff.mp ha).1)
  case h_2 w hn =>
    obtain rfl := Option.some.inj hn
    obtain ⟨hw, rfl⟩ : w < UInt8.size ∧ float w.toUInt8 = c := by simpa using h
    have hv : w.toUInt8.toNat = w := UInt8.toNat_ofNat_of_lt' hw
    exact .float (hv.symm ▸ (arguments?_one_iff.mp ha).1)
  case h_3 p s hn =>
    obtain rfl := Option.some.inj hn
    obtain ⟨⟨hp, hs⟩, rfl⟩ :
        (p < UInt16.size ∧ s < UInt16.size) ∧ decimal p.toUInt16 s.toUInt16 = c := by
      simpa using h
    have hpv : p.toUInt16.toNat = p := UInt16.toNat_ofNat_of_lt' hp
    have hsv : s.toUInt16.toNat = s := UInt16.toNat_ofNat_of_lt' hs
    obtain ⟨_, _, rfl, hpn, hsn⟩ := arguments?_two_iff.mp ha
    exact .decimal (hpv.symm ▸ hpn.1) (hsv.symm ▸ hsn.1)
  case h_5 n hn =>
    obtain rfl := Option.some.inj hn
    obtain rfl := Option.some.inj h
    obtain ⟨hi, hn⟩ := arguments?_one_iff.mp ha
    have hv : n.toUInt64.toNat = n := UInt64.toNat_ofNat_of_lt' hn
    exact .text (hv.symm ▸ hi)
  case h_7 n hn =>
    obtain rfl := Option.some.inj hn
    obtain rfl := Option.some.inj h
    obtain ⟨hi, hn⟩ := arguments?_one_iff.mp ha
    have hv : n.toUInt64.toNat = n := UInt64.toNat_ofNat_of_lt' hn
    exact .binary (hv.symm ▸ hi)
  all_goals contradiction

theorem ofChars?_applied (hn : '(' ∉ name.toList) (ht : trimChars cs = applied name inner)
    (ha : arguments? inner = some ns) : ofChars? cs = ofParts? name (some ns) := by
  rw [ofChars?, ht, splitArguments_applied hn]
  dsimp only
  rw [ha, String.ofList_toList]

end Parts

theorem ofChars?_eq_some_iff : ofChars? cs = some c ↔ Spells (trimChars cs) c := by
  constructor
  case mp =>
    intro h
    rw [ofChars?] at h
    rcases splitArguments_cases (trimChars cs) with hs | hs | ⟨name, inner, he, hs⟩
    case inl =>
      rw [hs] at h
      simpa using spells_of_name h
    case inr.inl => simp [hs] at h
    case inr.inr =>
      rw [hs] at h
      dsimp only at h
      cases ha : arguments? inner
      case none => simp [ha] at h
      case some ns =>
        rw [ha, String.ofList_toList] at h
        exact he ▸ spells_of_arguments h ha
  case mpr =>
    intro h
    generalize ht : trimChars cs = t at h
    cases h
    case integer width w hw =>
      have hb : width.toNat < UInt8.size := width.toNat_lt
      have ha := arguments?_one_iff.mpr ⟨hw, Nat.lt_trans hb (by decide)⟩
      simp [ofChars?_applied (by decide) ht ha, ofParts?, hb]
    case float width w hw =>
      have hb : width.toNat < UInt8.size := width.toNat_lt
      have ha := arguments?_one_iff.mpr ⟨hw, Nat.lt_trans hb (by decide)⟩
      simp [ofChars?_applied (by decide) ht ha, ofParts?, hb]
    case text length n hn =>
      have ha := arguments?_one_iff.mpr ⟨hn, length.toNat_lt⟩
      simp [ofChars?_applied (by decide) ht ha, ofParts?]
    case binary length n hn =>
      have ha := arguments?_one_iff.mpr ⟨hn, length.toNat_lt⟩
      simp [ofChars?_applied (by decide) ht ha, ofParts?]
    case decimal precision scale p s hp hs =>
      have hb : precision.toNat < UInt16.size := precision.toNat_lt
      have hc : scale.toNat < UInt16.size := scale.toNat_lt
      have ha := arguments?_two_iff.mpr ⟨p, s, rfl, ⟨hp, Nat.lt_trans hb (by decide)⟩, hs,
        Nat.lt_trans hc (by decide)⟩
      simp [ofChars?_applied (by decide) ht ha, ofParts?, hb, hc]
    all_goals rw [ofChars?, ht]; rfl

section Rendered

theorem toList_withArguments (name : String) (ns : List Nat) :
    (withArguments name ns).toList =
      name.toList ++ '(' :: [','].intercalate (ns.map (Nat.toDigits 10)) ++ [')'] := by
  have hm : ns.map (fun n => (toString n).toList) = ns.map (Nat.toDigits 10) := by
    apply List.map_congr_left
    intro n _
    rw [Nat.toString_eq_ofList_toDigits, String.toList_ofList]
  rw [← hm]
  simp [withArguments, String.toList_intercalate, Function.comp_def]

theorem toList_withArguments_eq_applied (name : String) (ns : List Nat) :
    (withArguments name ns).toList =
      applied name ([','].intercalate (ns.map (Nat.toDigits 10))) := by
  rw [toList_withArguments, applied, List.append_assoc, List.cons_append]

theorem spells_render (c : CanonicalType) : Spells c.render.toList c := by
  have hn := isNumeralOf_toDigits
  cases c
  case integer w => exact toList_withArguments_eq_applied _ _ ▸ .integer (by simpa using hn w.toNat)
  case float w => exact toList_withArguments_eq_applied _ _ ▸ .float (by simpa using hn w.toNat)
  case decimal p s =>
    have hi : [','].intercalate ([p.toNat, s.toNat].map (Nat.toDigits 10)) =
        Nat.toDigits 10 p.toNat ++ ',' :: Nat.toDigits 10 s.toNat := by
      simp [List.intercalate_cons_cons]
    rw [render, toList_withArguments_eq_applied, hi]
    exact .decimal (hn p.toNat) (hn s.toNat)
  case text length =>
    cases length
    case none => exact .unboundedText
    case some n => exact toList_withArguments_eq_applied _ _ ▸ .text (by simpa using hn n.toNat)
  case binary length =>
    cases length
    case none => exact .unboundedBinary
    case some n => exact toList_withArguments_eq_applied _ _ ▸ .binary (by simpa using hn n.toNat)
  case boolean => exact .boolean
  case date => exact .date
  case datetime => exact .datetime
  case unknown => exact .unknown

theorem trimChars_name (hb : name.toList.all (!isBlank ·)) :
    trimChars name.toList = name.toList :=
  trimChars_of_unblank (by simpa using hb)

theorem trimChars_applied (hb : name.toList.head?.all (!isBlank ·)) :
    trimChars (applied name inner) = applied name inner := by
  apply trimChars_of_ends
  case hh =>
    cases hc : name.toList
    case nil => simp [applied, hc]; decide
    case cons c cs => simpa [applied, hc] using hb
  case hl =>
    intro c hc
    rw [applied, ← List.cons_append, ← List.append_assoc, List.getLast?_concat] at hc
    cases hc
    rfl

-- Nothing is left to trim of a spelling.
theorem Spells.trimChars_eq (h : Spells cs c) : trimChars cs = cs := by
  cases h
  case integer | float | text | binary | decimal => exact trimChars_applied (by decide)
  all_goals exact trimChars_name (by decide)

theorem ofChars?_render (c : CanonicalType) : ofChars? c.render.toList = some c :=
  ofChars?_eq_some_iff.mpr ((spells_render c).trimChars_eq.symm ▸ spells_render c)

end Rendered

-- A type is read back from its text form, and a text is read exactly if it spells a type.
theorem ofText_accepts :
    (∀ c : CanonicalType, ofText c.render = .ok c) ∧
      ∀ (s : String) (c : CanonicalType), ofText s = .ok c ↔ Spells (trimChars s.toList) c := by
  have ho : ∀ s c, ofText s = .ok c ↔ ofChars? s.toList = some c := by
    intro s c
    rw [ofText]
    cases ofChars? s.toList <;> simp
  exact ⟨fun c => (ho _ c).mpr (ofChars?_render c), fun s c => (ho s c).trans ofChars?_eq_some_iff⟩

end CanonicalType
end TypedRows
