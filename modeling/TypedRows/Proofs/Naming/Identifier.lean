import Mathlib.Tactic.SplitIfs
import TypedRows.Model.Names

namespace TypedRows

namespace Identifier

open Text

-- Letters, digits and marks that casings and languages put between or around them.
def isNameChar (c : Char) : Bool :=
  isWordChar c || c = '-' || c = '#'

theorem isNameChar_of_isWordChar {c : Char} (h : isWordChar c) : isNameChar c := by
  simp [isNameChar, h]

-- Texts that are words in every target language.
structure IsWord (s : String) : Prop where
  ne_empty : s ≠ ""
  isWordChar : ∀ c ∈ s.toList, isWordChar c

theorem IsWord.append_left {p s : String} (h : IsWord s)
    (hp : ∀ c ∈ p.toList, Identifier.isWordChar c) : IsWord (p ++ s) where
  ne_empty := by simp [h.ne_empty]
  isWordChar := by rw [String.toList_append]; exact List.forall_mem_append.mpr ⟨hp, h.isWordChar⟩

theorem IsWord.append_right {p s : String} (h : IsWord s)
    (hp : ∀ c ∈ p.toList, Identifier.isWordChar c) : IsWord (s ++ p) where
  ne_empty := by simp [h.ne_empty]
  isWordChar := by rw [String.toList_append]; exact List.forall_mem_append.mpr ⟨h.isWordChar, hp⟩

theorem toNat_lt_of_isWordChar {c : Char} (h : isWordChar c) : c.toNat < 128 := by
  rcases Bool.or_eq_true_iff.mp h with h | h
  case inl =>
    delta Char.isAlphanum Char.isAlpha Char.isUpper Char.isLower Char.isDigit at h
    simp [UInt32.le_iff_toNat_le] at h
    omega
  case inr =>
    have hc : c = '_' := by simpa using h
    simp [hc]

theorem isWordChar_toUpper {c : Char} (h : isWordChar c) : isWordChar c.toUpper := by
  have hd : ∀ n < 128, isWordChar (Char.ofNat n) → isWordChar (Char.ofNat n).toUpper := by decide
  simpa using hd c.toNat (toNat_lt_of_isWordChar h) (by simpa using h)

theorem isWordChar_toLower {c : Char} (h : isWordChar c) : isWordChar c.toLower := by
  have hd : ∀ n < 128, isWordChar (Char.ofNat n) → isWordChar (Char.ofNat n).toLower := by decide
  simpa using hd c.toNat (toNat_lt_of_isWordChar h) (by simpa using h)

theorem not_isBlank_of_isWordChar {c : Char} (h : isWordChar c) : isBlank c = false := by
  have hd : ∀ n < 128, isWordChar (Char.ofNat n) → isBlank (Char.ofNat n) = false := by decide
  simpa using hd c.toNat (toNat_lt_of_isWordChar h) (by simpa using h)

theorem isWordChar_of_mem_sanitizeChars {c : Char} {cs : List Char} (h : c ∈ sanitizeChars cs) :
    isWordChar c := by
  have hm : ∀ c ∈ (trimChars cs).map fun c => if isWordChar c then c else '_', isWordChar c := by
    intro c hc
    obtain ⟨x, _, rfl⟩ := List.mem_map.mp hc
    split_ifs with hx
    · exact hx
    · rfl
  have hg : ∀ cs : List Char, (∀ c ∈ cs, isWordChar c) → ∀ c ∈ guardDigit cs, isWordChar c := by
    intro cs hcs
    unfold guardDigit
    split
    case h_1 => exact hcs
    case h_2 =>
      split_ifs
      · exact List.forall_mem_cons.mpr ⟨rfl, hcs⟩
      · exact hcs
  exact hg _ hm c h

end Identifier

namespace Casing

open Identifier

variable {cs : List Char}

theorem separated_forall (P : Char → Bool) {sep : Char} {letter : Char → Char} (hs : P sep)
    (hl : ∀ c, isWordChar c → P (letter c)) (hcs : ∀ c ∈ cs, isWordChar c)
    (whole : List Char) (fresh : Bool) (offset : Nat) :
    ∀ c ∈ separated sep letter whole fresh offset cs, P c := by
  induction cs generalizing fresh offset
  case nil => simp [separated]
  case cons c cs hi =>
    have ⟨hc, hcs⟩ := List.forall_mem_cons.mp hcs
    have hn : P (letter c) := hl c hc
    unfold separated
    split_ifs
    · simpa using hi hcs _ _
    · exact List.forall_mem_cons.mpr ⟨hs, hi hcs _ _⟩
    · exact List.forall_mem_cons.mpr ⟨hs, List.forall_mem_cons.mpr ⟨hn, hi hcs _ _⟩⟩
    · exact List.forall_mem_cons.mpr ⟨hn, hi hcs _ _⟩

theorem joined_isWordChar (hcs : ∀ c ∈ cs, isWordChar c) (wordStart : Bool) (last : Char)
    (found : Bool) : ∀ c ∈ joined wordStart last found cs, isWordChar c := by
  induction cs generalizing wordStart last found
  case nil => simp [joined]
  case cons c cs hi =>
    have ⟨hc, hcs⟩ := List.forall_mem_cons.mp hcs
    unfold joined
    split_ifs
    · exact hi hcs _ _ _
    · exact List.forall_mem_cons.mpr ⟨hc, hi hcs _ _ _⟩
    · exact List.forall_mem_cons.mpr ⟨isWordChar_toUpper hc, hi hcs _ _ _⟩
    · exact List.forall_mem_cons.mpr ⟨isWordChar_toLower hc, hi hcs _ _ _⟩

theorem dropTrailingMarks_isWordChar (hcs : ∀ c ∈ cs, isWordChar c) :
    ∀ c ∈ dropTrailingMarks cs, isWordChar c := by
  intro c hc
  have hr : c ∈ cs.reverse := (List.dropWhile_sublist _).mem (List.mem_reverse.mp hc)
  exact hcs c (List.mem_reverse.mp hr)

theorem applyChars_isWordChar {casing : Casing} (hk : casing ≠ .kebab)
    (hcs : ∀ c ∈ cs, isWordChar c) : ∀ c ∈ casing.applyChars cs, isWordChar c := by
  have hd := dropTrailingMarks_isWordChar hcs
  have hu : isWordChar '_' := rfl
  cases casing
  case snake =>
    exact separated_forall isWordChar hu (fun _ => isWordChar_toLower) hd cs true 0
  case camel => exact joined_isWordChar hd false ' ' false
  case pascal => exact joined_isWordChar hd true ' ' false
  case kebab => contradiction
  case screamingSnake =>
    exact separated_forall isWordChar hu (fun _ => isWordChar_toUpper) hd cs true 0

theorem applyChars_isNameChar (casing : Casing) (hcs : ∀ c ∈ cs, isWordChar c) :
    ∀ c ∈ casing.applyChars cs, isNameChar c := by
  by_cases hk : casing = .kebab
  case pos =>
    have hh : isNameChar '-' := rfl
    subst hk
    exact separated_forall isNameChar hh
      (fun _ h => isNameChar_of_isWordChar (isWordChar_toLower h))
      (dropTrailingMarks_isWordChar hcs) cs true 0
  case neg => exact fun c hc => isNameChar_of_isWordChar (applyChars_isWordChar hk hcs c hc)

theorem apply_isWordChar {casing : Casing} (hk : casing ≠ .kebab) {name : String}
    (h : ∀ c ∈ name.toList, isWordChar c) : ∀ c ∈ (casing.apply name).toList, isWordChar c := by
  rw [apply, String.toList_ofList]
  exact applyChars_isWordChar hk h

theorem apply_isNameChar (casing : Casing) {name : String} (h : ∀ c ∈ name.toList, isWordChar c) :
    ∀ c ∈ (casing.apply name).toList, isNameChar c := by
  rw [apply, String.toList_ofList]
  exact casing.applyChars_isNameChar h

theorem guardDigit_eq (casing : Casing) (name : String) :
    ∃ p ∈ ["", "N", "n", "n-", "n_"], casing.guardDigit name = p ++ name ∧
      (casing ≠ .kebab → p ≠ "n-") := by
  unfold guardDigit
  split
  case h_1 => exact ⟨"", by simp⟩
  case h_2 =>
    split_ifs
    case pos => exact ⟨"", by simp⟩
    case neg =>
      cases casing
      case pascal => exact ⟨"N", by simp⟩
      case camel => exact ⟨"n", by simp⟩
      case kebab => exact ⟨"n-", by simp⟩
      case snake => exact ⟨"n_", by simp⟩
      case screamingSnake => exact ⟨"n_", by simp⟩

theorem guardDigit_isNameChar (casing : Casing) {name : String}
    (h : ∀ c ∈ name.toList, isNameChar c) :
    ∀ c ∈ (casing.guardDigit name).toList, isNameChar c := by
  obtain ⟨p, hp, he, _⟩ := casing.guardDigit_eq name
  have hd : ∀ p ∈ ["", "N", "n", "n-", "n_"], p.toList.all isNameChar := by decide
  rw [he, String.toList_append]
  exact List.forall_mem_append.mpr ⟨List.all_eq_true.mp (hd p hp), h⟩

theorem guardDigit_isWord {casing : Casing} (hk : casing ≠ .kebab) {name : String}
    (h : IsWord name) : IsWord (casing.guardDigit name) := by
  obtain ⟨p, hp, he, hn⟩ := casing.guardDigit_eq name
  have hd : ∀ p ∈ ["", "N", "n", "n-", "n_"], p ≠ "n-" → p.toList.all isWordChar := by decide
  rw [he]
  exact h.append_left (List.all_eq_true.mp (hd p hp (hn hk)))

end Casing

namespace Language

open Identifier

theorem escapeKeyword_eq (l : Language) (name : String) :
    l.escapeKeyword name = name ∨ (l.escapeKeyword name = "r#" ++ name ∧ l = .rust) ∨
      l.escapeKeyword name = name ++ "_" := by
  unfold escapeKeyword
  split_ifs with _ hr
  case pos => exact .inl rfl
  case pos =>
    simp only [Bool.and_eq_true, decide_eq_true_eq] at hr
    exact .inr (.inl ⟨rfl, hr.1⟩)
  case neg => exact .inr (.inr rfl)

theorem escapeKeyword_isNameChar (l : Language) {name : String}
    (h : ∀ c ∈ name.toList, isNameChar c) : ∀ c ∈ (l.escapeKeyword name).toList, isNameChar c := by
  rcases l.escapeKeyword_eq name with he | ⟨he, _⟩ | he
  case inl => rwa [he]
  case inr.inl =>
    rw [he, String.toList_append]
    exact List.forall_mem_append.mpr ⟨List.all_eq_true.mp rfl, h⟩
  case inr.inr =>
    rw [he, String.toList_append]
    exact List.forall_mem_append.mpr ⟨h, List.all_eq_true.mp rfl⟩

theorem sanitize_isWordChar (raw : String) : ∀ c ∈ (sanitize raw).toList, isWordChar c := by
  rw [sanitize, String.toList_ofList]
  exact fun c => isWordChar_of_mem_sanitizeChars

theorem identifier_isNameChar (l : Language) (casing : Casing) (raw : String) :
    ∀ c ∈ (l.identifier casing raw).toList, isNameChar c := by
  unfold identifier
  apply escapeKeyword_isNameChar
  apply Casing.guardDigit_isNameChar
  split_ifs
  case pos => exact casing.apply_isNameChar (List.all_eq_true.mp rfl)
  case neg => exact casing.apply_isNameChar (sanitize_isWordChar raw)

theorem identifier_eq_guardDigit (l : Language) {casing : Casing} (hk : casing ≠ .kebab)
    (raw : String) : ∃ name, IsWord name ∧
      l.identifier casing raw = l.escapeKeyword (casing.guardDigit name) := by
  refine ⟨_, ?_, rfl⟩
  split_ifs with hn
  case pos =>
    have hf : casing.apply "field" ≠ "" := by cases casing <;> decide
    exact ⟨hf, Casing.apply_isWordChar hk (List.all_eq_true.mp rfl)⟩
  case neg => exact ⟨hn, Casing.apply_isWordChar hk (sanitize_isWordChar raw)⟩

-- An identifier is a word that a language can need to escape.
theorem identifier_eq (l : Language) {casing : Casing} (hk : casing ≠ .kebab) (raw : String) :
    ∃ name, IsWord name ∧ l.identifier casing raw = l.escapeKeyword name := by
  obtain ⟨name, hn, he⟩ := l.identifier_eq_guardDigit hk raw
  exact ⟨_, Casing.guardDigit_isWord hk hn, he⟩

-- Stems of files are words but in the language that writes them with hyphens.
theorem fileStem_eq (l : Language) (t : Table) : ∃ name,
    (∀ c ∈ name.toList, isNameChar c) ∧ (l ≠ .typescript → IsWord name) ∧
      l.fileStem t = if l = .python then l.escapeKeyword name else name := by
  refine ⟨_, ?_, ?_, rfl⟩
  case refine_1 =>
    apply Casing.guardDigit_isNameChar
    split_ifs
    case pos => exact List.all_eq_true.mp rfl
    case neg => exact Casing.apply_isNameChar _ (sanitize_isWordChar t.name)
  case refine_2 =>
    intro hl
    have hk : l.fileCasing ≠ .kebab := by cases l <;> first | contradiction | decide
    apply Casing.guardDigit_isWord hk
    split_ifs with hn
    case pos => exact ⟨by decide, List.all_eq_true.mp rfl⟩
    case neg => exact ⟨hn, Casing.apply_isWordChar hk (sanitize_isWordChar t.name)⟩

end Language
end TypedRows
