import TypedRows.Proofs.Dialect.Spelling

namespace TypedRows

open Text LetterCase TypeToken

theorem mem_intercalate {sep : List Char} {c : Char} (hc : c ∉ sep) {pieces : List (List Char)} :
    c ∈ sep.intercalate pieces ↔ ∃ p ∈ pieces, c ∈ p := by
  induction pieces
  case nil => simp
  case cons p pieces hi =>
    rcases pieces with _ | ⟨q, pieces⟩
    case nil => simp
    case cons => simp [List.intercalate_cons_cons, hi, hc]

namespace TypeToken

variable {cs : List Char}

theorem mem_joinWords {c : Char} (hc : c ≠ ' ') {ws : List (List Char)} :
    c ∈ joinWords ws ↔ ∃ w ∈ ws, c ∈ w :=
  mem_intercalate (by simpa using hc)

-- A closing parenthesis that is left in the text becomes part of the name.
theorem mem_base_of_mem_splitList (h : ')' ∈ (splitList (upperChars (trimChars cs))).1) :
    ')' ∈ (ofChars cs).base.toList := by
  obtain ⟨w, hw, hc⟩ := exists_mem_words (by decide) h
  have hm : isModifier w = false := by
    refine Bool.eq_false_iff.mpr fun hm => ?_
    rcases isModifier_iff.mp hm with rfl | rfl | rfl <;> exact absurd hc (by decide)
  simp only [ofChars, String.toList_ofList]
  exact (mem_joinWords (by decide)).mpr ⟨w, List.mem_filter.mpr ⟨hw, by simp [hm]⟩, hc⟩

end TypeToken

namespace Dialect

def quotedLabel (label : String) : List Char :=
  '\x27' :: (doubled '\x27' label.toList ++ ['\x27'])

def labelList (labels : List String) : List Char :=
  [',', ' '].intercalate (labels.map quotedLabel)

def labelType (name : String) (labels : List String) : String :=
  String.ofList (name.toList ++ '(' :: (labelList labels ++ [')']))

variable {name base : String} {labels : List String}

theorem mem_labelList : ')' ∈ labelList labels ↔ ∃ l ∈ labels, ')' ∈ l.toList := by
  have hd : ∀ cs : List Char, ')' ∈ doubled '\x27' cs ↔ ')' ∈ cs := by
    intro cs
    simp only [doubled, List.mem_flatMap]
    constructor
    case mp =>
      rintro ⟨c, hc, hm⟩
      split at hm
      case isTrue => simp at hm
      case isFalse => exact List.mem_singleton.mp hm ▸ hc
    case mpr => exact fun h => ⟨')', h, by simp⟩
  rw [labelList, mem_intercalate (by decide)]
  simp [quotedLabel, hd]

-- No name of a type holds a parenthesis.
theorem typeRule?_of_mem (d : Dialect) (h : ')' ∈ base.toList) : d.typeRule? base = none := by
  have hn : ∀ e ∈ d.typeRules, ∀ n ∈ e.1, ')' ∉ n.toList := by cases d <;> decide +kernel
  rw [typeRule?, Option.map_eq_none_iff, List.find?_eq_none]
  intro e he hc
  exact hn e he base (List.contains_iff_mem.mp hc) h

theorem labelNames : ∀ n ∈ ["ENUM", "SET"], IsWord n.toList ∧ inCapitals n.toList ∧
    isModifier n.toList = false ∧ mysql.typeRule? n = some (.asText none) := by
  decide

theorem upperChars_labelType (hn : name ∈ ["ENUM", "SET"]) :
    upperChars (trimChars (labelType name labels).toList) =
      name.toList ++ '(' :: (upperChars (labelList labels) ++ [')']) := by
  obtain ⟨hw, hc, -, -⟩ := labelNames name hn
  have ht : ∀ c ∈ (name.toList ++ '(' :: (labelList labels ++ [')'])).getLast?,
      isBlank c = false := by
    rw [← List.cons_append, ← List.append_assoc, List.getLast?_concat]
    exact fun c hc => Option.some_inj.mp hc ▸ rfl
  rw [labelType, String.toList_ofList, trimChars_of_ends (hw.isBlank_head _) ht, upperChars_append,
    upperChars_cons_of_isMark rfl, upperChars_append, upperChars_of_inCapitals hc]
  rfl

-- The name of a type with labels is read where none of them holds a closing parenthesis.
theorem base_labelType (hn : name ∈ ["ENUM", "SET"]) (h : ')' ∉ labelList labels) :
    (ofSource (labelType name labels)).base = name := by
  obtain ⟨hw, -, hm, -⟩ := labelNames name hn
  have hi : ')' ∉ upperChars (labelList labels) := (mem_upperChars_of_isMark rfl).not.mpr h
  have hwords : words (name.toList ++ [' ']) = [name.toList] := by
    rw [words_append (fun c hc => (hw.2 c hc).1) hw.1 (by simp [isBlank])]
    rfl
  simp only [ofSource, ofChars, upperChars_labelType hn, splitList_append hw.not_mem hi, hwords]
  simp [hm, joinWords]

theorem mem_base_labelType (hn : name ∈ ["ENUM", "SET"]) (h : ')' ∈ labelList labels) :
    ')' ∈ (ofSource (labelType name labels)).base.toList := by
  obtain ⟨hw, -, -, -⟩ := labelNames name hn
  have hi : ')' ∈ upperChars (labelList labels) := (mem_upperChars_of_isMark rfl).mpr h
  obtain ⟨inner, after, he, hn'⟩ := List.eq_append_cons_of_mem hi
  refine mem_base_of_mem_splitList ?_
  rw [upperChars_labelType hn, he, List.append_assoc, List.cons_append,
    splitList_append hw.not_mem hn']
  simp

-- A list ends at its first closing parenthesis, also where a label holds it. What is left then
-- counts as part of the name, which no entry has.
theorem resolve_labels (hn : name ∈ ["ENUM", "SET"]) :
    mysql.resolve (labelType name labels) =
      if ∃ l ∈ labels, ')' ∈ l.toList then .unknown
      else ⟨.text none, some (name ++ " is represented as text")⟩ := by
  by_cases hl : ∃ l ∈ labels, ')' ∈ l.toList
  case pos =>
    have hb := mem_base_labelType hn (mem_labelList.mpr hl)
    have hne : (ofSource (labelType name labels)).base ≠ "" := by
      intro he
      rw [he] at hb
      contradiction
    rw [if_pos hl, resolve, Resolution.ofToken, if_neg hne, typeRule?_of_mem mysql hb]
    rfl
  case neg =>
    obtain ⟨-, -, -, hr⟩ := labelNames name hn
    have hb := base_labelType hn (mem_labelList.not.mpr hl)
    rw [if_neg hl, resolve_of_typeRule? hb hr]
    simp [Resolution.ofRule, TypeRule.type, TypeRule.isLossy, Resolution.noteClamped,
      Resolution.isDecimal, hb]

theorem resolve_labels_quoted :
    "SET" ∈ ["ENUM", "SET"] ∧ mysql.resolve (labelType "SET" ["it's", "UNSIGNED", "a, (b"]) =
      ⟨.text none, some "SET is represented as text"⟩ := by
  have hn : "SET" ∈ ["ENUM", "SET"] := by decide
  have hl : ¬∃ l ∈ ["it's", "UNSIGNED", "a, (b"], ')' ∈ l.toList := by decide
  exact ⟨hn, (resolve_labels hn).trans (if_neg hl)⟩

theorem resolve_labels_parenthesis :
    mysql.resolve (labelType "ENUM" ["a)b"]) ≠
      ⟨.text none, some "ENUM is represented as text"⟩ := by
  decide +kernel

end Dialect
end TypedRows
