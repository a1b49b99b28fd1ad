import TypedRows.Proofs.Naming.Letters
import TypedRows.Text.LetterCase

namespace TypedRows.Text

-- The tables are read as lists of characters, for no proof can run through the bytes of a text.
theorem partsAt_ofList (mark : Char) (cs : List Char) :
    partsAt mark (String.ofList cs) = (cs.splitOn mark).map String.ofList := by
  rw [partsAt, String.toList_ofList]

namespace CharSet

def valueOfHex (cs : List Char) : Nat :=
  cs.foldl (fun n c => 16 * n + hexDigit c) 0

def boundsOf (cs : List Char) : Nat × Nat :=
  match cs.splitOn '-' with
  | [first, last] => (valueOfHex first, valueOfHex last)
  | _ => (valueOfHex cs, valueOfHex cs)

theorem hexValue_ofList (cs : List Char) : hexValue (String.ofList cs) = valueOfHex cs := by
  rw [hexValue, String.toList_ofList, valueOfHex]

theorem rangeOfHex_ofList (cs : List Char) : rangeOfHex (String.ofList cs) = boundsOf cs := by
  rw [rangeOfHex, partsAt_ofList, boundsOf]
  rcases cs.splitOn '-' with _ | ⟨first, _ | ⟨last, _ | ⟨_, _⟩⟩⟩ <;>
    simp only [List.map_nil, List.map_cons, hexValue_ofList]

end CharSet

namespace LetterCase

open CharSet

section Lines

namespace Shift

def ofRun (run : List Char) (distance : Int) : Shift :=
  match run.splitOn '/' with
  | [b, _] => ⟨(boundsOf b).1, (boundsOf b).2, 2, distance⟩
  | _ => ⟨(boundsOf run).1, (boundsOf run).2, 1, distance⟩

def ofChars (cs : List Char) : Shift :=
  match cs.splitOn '+', cs.splitOn '~' with
  | [r, d], _ => ofRun r (valueOfHex d)
  | _, [r, d] => ofRun r (-valueOfHex d)
  | _, _ => ofRun cs 0

theorem ofText_ofList (cs : List Char) : ofText (String.ofList cs) = ofChars cs := by
  rw [ofText, ofChars, partsAt_ofList, partsAt_ofList]
  rcases cs.splitOn '+' with _ | ⟨r, _ | ⟨d, _ | ⟨_, _⟩⟩⟩ <;>
    rcases cs.splitOn '~' with _ | ⟨r', _ | ⟨d', _ | ⟨_, _⟩⟩⟩ <;>
      simp only [List.map_nil, List.map_cons, hexValue_ofList, partsAt_ofList, ofRun]
  all_goals
    generalize List.splitOn '/' _ = pieces
    rcases pieces with _ | ⟨b, _ | ⟨_, _ | ⟨_, _⟩⟩⟩ <;>
      simp only [List.map_nil, List.map_cons, rangeOfHex_ofList]

theorem ofLines_cons (line : List Char) (lines : List String) :
    ofLines (String.ofList line :: lines) =
      (line.splitOn ' ').map ofChars ++ ofLines lines := by
  have hw : (line.splitOn ' ').map (ofText ∘ String.ofList) = (line.splitOn ' ').map ofChars :=
    List.map_congr_left fun word _ => ofText_ofList word
  rw [ofLines, lineWords, List.flatMap_cons, partsAt_ofList, List.map_append, List.map_map, hw]
  rfl

end Shift

def expansionOf? (cs : List Char) : Option (Nat × List Char) :=
  match cs.splitOn '=' with
  | [code, images] =>
    some (valueOfHex code, (images.splitOn '+').map fun h => Char.ofNat (valueOfHex h))
  | _ => none

theorem expansionsOfLines_cons (line : List Char) (lines : List String) :
    expansionsOfLines (String.ofList line :: lines) =
      (line.splitOn ' ').filterMap expansionOf? ++ expansionsOfLines lines := by
  rw [expansionsOfLines, lineWords, List.flatMap_cons, partsAt_ofList, List.filterMap_append,
    List.filterMap_map]
  congr 2
  funext word
  rw [Function.comp_apply, partsAt_ofList, expansionOf?]
  rcases word.splitOn '=' with _ | ⟨code, _ | ⟨images, _ | ⟨_, _⟩⟩⟩ <;>
    simp [partsAt_ofList, hexValue_ofList]

end Lines

section Marks

-- What tells a list of arguments from the words around it.
def isMark (c : Char) : Bool :=
  isBlank c || ['(', ')', ','].contains c

theorem isMark_eq_false_iff {c : Char} :
    isMark c = false ↔ isBlank c = false ∧ c ≠ '(' ∧ c ≠ ')' ∧ c ≠ ',' := by
  simp [isMark]

-- Runs of code points without a mark, which hold all that the tables map and map it to.
def gaps : List (Int × Int) :=
  [(0x2D, 0x84), (0xA1, 0x167F), (0x1681, 0x1FFF), (0x2060, 0x2FFF), (0x3001, 0x10FFFF)]

def InGap (first last : Int) : Prop :=
  ∃ g ∈ gaps, g.1 ≤ first ∧ last ≤ g.2

instance (first last : Int) : Decidable (InGap first last) :=
  inferInstanceAs (Decidable (∃ g ∈ gaps, g.1 ≤ first ∧ last ≤ g.2))

theorem upperShifts_inGap : ∀ s ∈ upperShifts,
    InGap s.first s.last ∧ InGap (s.first + s.distance) (s.last + s.distance) := by
  unfold upperShifts
  repeat rw [Shift.ofLines_cons]
  decide +kernel

theorem upperExpansions_inGap : ∀ e ∈ upperExpansions,
    InGap e.1 e.1 ∧ e.2 ≠ [] ∧ e.2.all (!isMark ·) := by
  unfold upperExpansions
  repeat rw [expansionsOfLines_cons]
  decide +kernel

variable {c : Char}

theorem isMark_of_inGap (h : InGap c.toNat c.toNat) : isMark c = false := by
  have hp : ∀ g ∈ gaps, ∀ n ∈ ['(', ')', ','].map Char.toNat, ¬(g.1 ≤ n ∧ n ≤ g.2) := by decide
  obtain ⟨g, hg, hl, hu⟩ := h
  rw [isMark, Bool.or_eq_false_iff, List.contains_eq_mem, decide_eq_false_iff_not]
  constructor
  case left =>
    simp only [gaps, List.mem_cons, List.not_mem_nil, or_false] at hg
    simp only [isBlank, Bool.or_eq_false_iff, Bool.and_eq_false_iff, decide_eq_false_iff_not,
      beq_eq_false_iff_ne]
    rcases hg with rfl | rfl | rfl | rfl | rfl <;> omega
  case right => exact fun hc => hp g hg c.toNat (List.mem_map_of_mem hc) ⟨hl, hu⟩

theorem isMark_ofNat {n : Nat} (h : InGap n n) : isMark (Char.ofNat n) = false := by
  by_cases hv : n.isValidChar
  case pos =>
    have hn : (Char.ofNat n).toNat = n := by rw [Char.ofNat, dif_pos hv]; rfl
    exact isMark_of_inGap (hn.symm ▸ h)
  case neg =>
    rw [Char.ofNat, dif_neg hv]
    decide

theorem InGap.within {first last n : Int} (h : InGap first last) (hl : first ≤ n) (hu : n ≤ last) :
    InGap n n := by
  obtain ⟨g, hg, hf, ht⟩ := h
  exact ⟨g, hg, Int.le_trans hf hl, Int.le_trans hu ht⟩

theorem InGap.nonneg {first last : Int} (h : InGap first last) : 0 ≤ first := by
  have hp : ∀ g ∈ gaps, (0 : Int) ≤ g.1 := by decide
  obtain ⟨g, hg, hf, -⟩ := h
  exact Int.le_trans (hp g hg) hf

theorem inGap_of_applies {s : Shift} (hs : s ∈ upperShifts) (h : s.applies c.toNat) :
    InGap c.toNat c.toNat ∧ InGap (c.toNat + s.distance) (c.toNat + s.distance) := by
  obtain ⟨hc, hd⟩ := upperShifts_inGap s hs
  simp only [Shift.applies, Bool.and_eq_true, decide_eq_true_eq] at h
  exact ⟨hc.within (by omega) (by omega), hd.within (by omega) (by omega)⟩

theorem mem_of_lookup {l : List (Nat × List Char)} {n : Nat} {cs : List Char}
    (h : l.lookup n = some cs) : (n, cs) ∈ l := by
  obtain ⟨before, after, rfl, _⟩ := List.lookup_eq_some_iff.mp h
  exact List.mem_append_right before List.mem_cons_self

theorem upperChar_of_isMark (h : isMark c) : upperChar c = [c] := by
  have ha : ∀ n < 128, isMark (Char.ofNat n) → (Char.ofNat n).toUpper = Char.ofNat n := by decide
  rw [upperChar]
  split_ifs with hc
  case pos => rw [forall_ascii (P := fun c => isMark c → c.toUpper = c) ha hc h]
  case neg =>
    have hn : ¬InGap c.toNat c.toNat := fun hg =>
      absurd h (Bool.eq_false_iff.mp (isMark_of_inGap hg))
    split
    case h_1 hl => exact (hn (upperExpansions_inGap _ (mem_of_lookup hl)).1).elim
    case h_2 =>
      rw [shiftBy]
      split
      case h_1 s hs =>
        have hm := List.mem_of_find?_eq_some hs
        have ha := List.find?_some hs
        exact (hn (inGap_of_applies hm ha).1).elim
      case h_2 => rfl

theorem upperChar_of_unmarked (h : isMark c = false) :
    upperChar c ≠ [] ∧ ∀ d ∈ upperChar c, isMark d = false := by
  have ha : ∀ n < 128, isMark (Char.ofNat n) = false →
      isMark (Char.ofNat n).toUpper = false := by decide
  rw [upperChar]
  split_ifs with hc
  case pos =>
    have hu := forall_ascii (P := fun c => isMark c = false → isMark c.toUpper = false) ha hc h
    exact ⟨List.cons_ne_nil _ _, List.forall_mem_singleton.mpr hu⟩
  case neg =>
    split
    case h_1 hl =>
      obtain ⟨-, hn, ha⟩ := upperExpansions_inGap _ (mem_of_lookup hl)
      exact ⟨hn, by simpa using ha⟩
    case h_2 =>
      refine ⟨List.cons_ne_nil _ _, List.forall_mem_singleton.mpr ?_⟩
      rw [shiftBy]
      split
      case h_1 s hs =>
        have hm := List.mem_of_find?_eq_some hs
        have ha := List.find?_some hs
        have hg := (inGap_of_applies hm ha).2
        exact isMark_ofNat ((Int.toNat_of_nonneg hg.nonneg).symm ▸ hg)
      case h_2 => exact h

end Marks

theorem upperChar_toUpper (c : Char) : upperChar c.toUpper = upperChar c := by
  have ha : ∀ n < 128, (Char.ofNat n).toUpper.toNat < 128 ∧
      (Char.ofNat n).toUpper.toUpper = (Char.ofNat n).toUpper := by decide
  by_cases hc : c.toNat < 128
  case pos =>
    obtain ⟨hu, he⟩ :=
      forall_ascii (P := fun c => c.toUpper.toNat < 128 ∧ c.toUpper.toUpper = c.toUpper) ha hc
    rw [upperChar, upperChar, if_pos hu, if_pos hc, he]
  case neg =>
    have hl : ¬(c.val ≥ 'a'.val ∧ c.val ≤ 'z'.val) := fun h =>
      hc (Nat.lt_of_le_of_lt (UInt32.le_iff_toNat_le.mp h.2) (by decide))
    have hu : c.toUpper = c := dif_neg hl
    rw [hu]

end LetterCase

section Chars

open LetterCase

variable {cs rest : List Char} {c : Char}

theorem upperChars_append (cs rest : List Char) :
    upperChars (cs ++ rest) = upperChars cs ++ upperChars rest :=
  List.flatMap_append

theorem upperChars_cons_of_isMark (h : isMark c) : upperChars (c :: cs) = c :: upperChars cs := by
  rw [upperChars, List.flatMap_cons, upperChar_of_isMark h]
  rfl

theorem upperChars_of_marks (h : ∀ c ∈ cs, isMark c) : upperChars cs = cs := by
  induction cs
  case nil => rfl
  case cons c cs hi =>
    obtain ⟨hc, h⟩ := List.forall_mem_cons.mp h
    rw [upperChars_cons_of_isMark hc, hi h]

theorem mem_upperChars_of_isMark (h : isMark c) : c ∈ upperChars cs ↔ c ∈ cs := by
  rw [upperChars, List.mem_flatMap]
  constructor
  case mp =>
    rintro ⟨d, hd, hc⟩
    cases hm : isMark d
    case true => exact List.mem_singleton.mp (upperChar_of_isMark hm ▸ hc) ▸ hd
    case false =>
      have hf : isMark c = false := (upperChar_of_unmarked hm).2 c hc
      exact absurd h (Bool.eq_false_iff.mp hf)
  case mpr => exact fun hc => ⟨c, hc, by simp [upperChar_of_isMark h]⟩

theorem upperChars_ne_nil (h : cs ≠ []) : upperChars cs ≠ [] := by
  obtain ⟨c, cs, rfl⟩ := List.exists_cons_of_ne_nil h
  have hc : upperChar c ≠ [] := by
    cases hm : isMark c
    case true => simp [upperChar_of_isMark hm]
    case false => exact (upperChar_of_unmarked hm).1
  rw [upperChars, List.flatMap_cons]
  exact List.append_ne_nil_of_left_ne_nil hc _

theorem upperChars_ascii (h : ∀ c ∈ cs, c.toNat < 128) : upperChars cs = cs.map Char.toUpper := by
  induction cs
  case nil => rfl
  case cons c cs hi =>
    obtain ⟨hc, h⟩ := List.forall_mem_cons.mp h
    rw [upperChars, List.flatMap_cons, upperChar, if_pos hc, ← upperChars, hi h]
    rfl

def inCapitals (cs : List Char) : Bool :=
  cs.all fun c => c.toNat < 128 && c.toUpper == c

theorem upperChars_of_inCapitals (h : inCapitals cs) : upperChars cs = cs := by
  simp only [inCapitals, List.all_eq_true, Bool.and_eq_true, decide_eq_true_eq, beq_iff_eq] at h
  rw [upperChars_ascii fun c hc => (h c hc).1]
  exact (List.map_congr_left fun c hc => (h c hc).2).trans (List.map_id cs)

theorem upperChars_map_toUpper (cs : List Char) :
    upperChars (cs.map Char.toUpper) = upperChars cs := by
  simp only [upperChars, List.flatMap_map, upperChar_toUpper]

end Chars

end TypedRows.Text
