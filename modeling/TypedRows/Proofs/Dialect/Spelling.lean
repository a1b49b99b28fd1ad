import TypedRows.Dialect.Resolution
import TypedRows.Proofs.Text.Blank
import TypedRows.Proofs.Text.LetterCase
import TypedRows.Proofs.Text.Lines
import TypedRows.Proofs.Text.Numeral

namespace TypedRows

open Text LetterCase

namespace TypeToken

section Grammar

def Blanks (cs : List Char) : Prop :=
  ∀ c ∈ cs, isBlank c

def IsWord (w : List Char) : Prop :=
  w ≠ [] ∧ ∀ c ∈ w, isBlank c = false ∧ c ≠ '(' ∧ c ≠ ')'

def IsArgument (argument : List Char) : Prop :=
  ∀ c ∈ argument, isMark c = false

-- A word may end where the list begins, else a blank or nothing follows.
def EndsWord (rest : List Char) : Prop :=
  ∀ c ∈ rest.head?, isBlank c ∨ c = '('

instance (cs : List Char) : Decidable (Blanks cs) :=
  decidable_of_iff (cs.all isBlank) List.all_eq_true

instance (w : List Char) : Decidable (IsWord w) :=
  decidable_of_iff (w ≠ [] ∧ w.all fun c => !isBlank c && c ≠ '(' && c ≠ ')')
    (by simp [IsWord, and_assoc])

instance (argument : List Char) : Decidable (IsArgument argument) :=
  decidable_of_iff (argument.all (!isMark ·)) (by simp [IsArgument])

instance (rest : List Char) : Decidable (EndsWord rest) :=
  decidable_of_iff (rest.head?.all fun c => isBlank c || c = '(')
    (by cases rest <;> simp [EndsWord])

-- An argument and the blanks around it.
def Pads (piece argument : List Char) : Prop :=
  ∃ before after, piece = before ++ argument ++ after ∧ Blanks before ∧ IsArgument argument ∧
    Blanks after

inductive Lists : List Char → List (List Char) → Prop
  | last {piece argument : List Char} (hp : Pads piece argument) : Lists piece [argument]
  | cons {piece argument inner : List Char} {arguments : List (List Char)}
      (hp : Pads piece argument) (hi : Lists inner arguments) :
      Lists (piece ++ ',' :: inner) (argument :: arguments)

inductive Spells : List Char → List (List Char) → Option (List (List Char)) → Prop
  | blanks {before : List Char} (hb : Blanks before) : Spells before [] none
  | word {before w rest : List Char} {ws : List (List Char)} {list : Option (List (List Char))}
      (hb : Blanks before) (hw : IsWord w) (he : EndsWord rest) (hr : Spells rest ws list) :
      Spells (before ++ w ++ rest) (w :: ws) list
  | list {before inner rest : List Char} {ws arguments : List (List Char)}
      (hb : Blanks before) (hi : Lists inner arguments) (hr : Spells rest ws none) :
      Spells (before ++ '(' :: (inner ++ ')' :: rest)) ws (some arguments)

end Grammar

variable {cs before inner after rest piece argument w : List Char}
variable {ws arguments : List (List Char)} {list : Option (List (List Char))}

section Parentheses

theorem Blanks.not_mem (h : Blanks cs) {c : Char} (hb : isBlank c = false) : c ∉ cs :=
  fun hc => Bool.eq_false_iff.mp hb (h c hc)

theorem IsWord.not_mem (h : IsWord w) : '(' ∉ w :=
  fun hc => (h.2 _ hc).2.1 rfl

theorem Pads.not_mem (h : Pads piece argument) {c : Char} (hm : isMark c) (hb : isBlank c = false) :
    c ∉ piece := by
  obtain ⟨before, after, rfl, hbefore, ha, hafter⟩ := h
  have harg : c ∉ argument := fun hc => Bool.eq_false_iff.mp (ha c hc) hm
  simp [hbefore.not_mem hb, harg, hafter.not_mem hb]

theorem Lists.not_mem (h : Lists inner arguments) : ')' ∉ inner := by
  induction h
  case last hp => exact hp.not_mem rfl rfl
  case cons hp _ hi =>
    have hn : ')' ∉ _ := hp.not_mem rfl rfl
    simp [hn, hi]

end Parentheses

section Capitals

theorem Blanks.upperChars_eq (h : Blanks cs) : upperChars cs = cs :=
  upperChars_of_marks fun c hc => by simp [isMark, h c hc]

theorem IsWord.upper (h : IsWord w) : IsWord (upperChars w) := by
  refine ⟨upperChars_ne_nil h.1, fun c hc => ?_⟩
  cases hm : isMark c
  case true => exact h.2 c ((mem_upperChars_of_isMark hm).mp hc)
  case false =>
    obtain ⟨hb, hl, hr, -⟩ := isMark_eq_false_iff.mp hm
    exact ⟨hb, hl, hr⟩

theorem Pads.upper (h : Pads piece argument) : Pads (upperChars piece) (upperChars argument) := by
  obtain ⟨before, after, rfl, hb, ha, hf⟩ := h
  refine ⟨before, after, ?_, hb, fun c hc => ?_, hf⟩
  case refine_1 => simp only [upperChars_append, hb.upperChars_eq, hf.upperChars_eq]
  case refine_2 =>
    cases hm : isMark c
    case true => exact hm.symm.trans (ha c ((mem_upperChars_of_isMark hm).mp hc))
    case false => rfl

theorem Lists.upper (h : Lists inner arguments) :
    Lists (upperChars inner) (arguments.map upperChars) := by
  induction h
  case last hp => exact .last hp.upper
  case cons hp _ hi =>
    rw [upperChars_append, upperChars_cons_of_isMark rfl]
    exact .cons hp.upper hi

theorem Spells.upper (h : Spells cs ws list) :
    Spells (upperChars cs) (ws.map upperChars) (list.map (·.map upperChars)) := by
  induction h
  case blanks hb => exact hb.upperChars_eq.symm ▸ .blanks hb
  case word rest _ _ hb hw he _ hi =>
    have hu : EndsWord (upperChars rest) := by
      rcases rest with _ | ⟨c, rest⟩
      case nil => exact he
      case cons =>
        have hm : isMark c := by
          rcases he c rfl with hc | rfl
          case inl => simp [isMark, hc]
          case inr => rfl
        rw [upperChars_cons_of_isMark hm]
        exact he
    rw [upperChars_append, upperChars_append, hb.upperChars_eq]
    exact .word hb hw.upper hu hi
  case list hb hl _ hi =>
    rw [upperChars_append, hb.upperChars_eq, upperChars_cons_of_isMark rfl,
      upperChars_append, upperChars_cons_of_isMark rfl]
    exact .list hb hl.upper hi

end Capitals

section Trim

theorem IsWord.isBlank_head (h : IsWord w) (rest : List Char) :
    ∀ c ∈ (w ++ rest).head?, isBlank c = false := by
  obtain ⟨c, w, rfl⟩ := List.exists_cons_of_ne_nil h.1
  simpa using (h.2 c List.mem_cons_self).1

theorem IsWord.isBlank_getLast (h : IsWord w) (before : List Char) :
    ∀ c ∈ (before ++ w).getLast?, isBlank c = false := by
  rw [List.getLast?_append_of_ne_nil before h.1]
  exact fun c hc => (h.2 c (List.mem_of_mem_getLast? hc)).1

theorem Spells.trimmedStart (h : Spells cs ws list) : Spells (trimStart cs) ws list := by
  have hn : Blanks [] := by decide
  cases h
  case blanks hb =>
    have ht : trimStart cs = [] := List.dropWhile_eq_nil_iff.mpr hb
    exact ht ▸ .blanks hn
  case word hb hw he hr =>
    rw [List.append_assoc, trimStart_append hb, trimStart, dropWhile_of_head (hw.isBlank_head _)]
    exact .word hn hw he hr
  case list hb hi hr =>
    rw [trimStart_append hb, trimStart, List.dropWhile_cons_of_neg (by decide)]
    exact .list hn hi hr

theorem Spells.trimmedEnd (h : Spells cs ws list) : Spells (trimEnd cs) ws list := by
  induction h
  case blanks hb => exact trimEnd_blank hb ▸ .blanks (by decide)
  case word rest _ _ hb hw he _ hi =>
    have ht : EndsWord (trimEnd rest) := by
      obtain ⟨after, ha⟩ := trimEnd_prefix rest
      intro c hc
      refine he c ?_
      rw [← ha, List.head?_append, hc]
      rfl
    rw [trimEnd_append (hw.isBlank_getLast _)]
    exact .word hb hw ht hi
  case list before inner rest _ _ hb hl _ hi =>
    have hc : before ++ '(' :: (inner ++ ')' :: rest) =
        before ++ '(' :: (inner ++ [')']) ++ rest := by
      simp
    have hg : ∀ c ∈ (before ++ '(' :: (inner ++ [')'])).getLast?, isBlank c = false := by
      rw [← List.cons_append, ← List.append_assoc, List.getLast?_concat]
      exact fun c hc => Option.some_inj.mp hc ▸ rfl
    have ht := Spells.list hb hl hi
    rw [hc, trimEnd_append hg]
    simpa using ht

end Trim

section Reading

theorem Pads.trimmed (h : Pads piece argument) : trimChars piece = argument := by
  obtain ⟨before, after, rfl, hb, ha, hf⟩ := h
  exact trimChars_surrounded hb (fun c hc => (isMark_eq_false_iff.mp (ha c hc)).1) hf

theorem Lists.pieces (h : Lists inner arguments) :
    (splitAtChar ',' inner).map trimChars = arguments := by
  induction h
  case last hp => rw [splitAtChar_of_not_mem (hp.not_mem rfl rfl), List.map_singleton, hp.trimmed]
  case cons hp _ hi =>
    rw [splitAtChar_append, splitAtChar_of_not_mem (hp.not_mem rfl rfl), List.map_append,
      List.map_singleton, hp.trimmed, hi]
    rfl

theorem Spells.words_eq (h : Spells cs ws list) (hl : list = none) :
    '(' ∉ cs ∧ words cs = ws := by
  induction h
  case blanks before hb =>
    refine ⟨hb.not_mem rfl, ?_⟩
    rw [← List.append_nil before, words_append_blanks hb]
    rfl
  case word before w rest ws list hb hw he _ hi =>
    obtain ⟨hn, hr⟩ := hi hl
    have hbefore : '(' ∉ before := hb.not_mem rfl
    have hb' : ∀ c ∈ rest.head?, isBlank c := by
      intro c hc
      refine (he c hc).resolve_right ?_
      rintro rfl
      exact hn (List.mem_of_mem_head? hc)
    refine ⟨by simp [hbefore, hw.not_mem, hn], ?_⟩
    rw [List.append_assoc, words_append_blanks hb,
      words_append (fun c hc => (hw.2 c hc).1) hw.1 hb', hr]
  case list => contradiction

theorem Spells.split (h : Spells cs ws list) (hl : list = some arguments) :
    ∃ before inner after, cs = before ++ '(' :: (inner ++ ')' :: after) ∧ '(' ∉ before ∧
      Lists inner arguments ∧ words (before ++ ' ' :: after) = ws := by
  induction h
  case blanks => contradiction
  case word before w rest ws list hb hw he _ hi =>
    obtain ⟨name, inner, after, rfl, hn, hi, hws⟩ := hi hl
    have hbefore : '(' ∉ before := hb.not_mem rfl
    have hb' : ∀ c ∈ (name ++ ' ' :: after).head?, isBlank c := by
      rcases name with _ | ⟨c, name⟩
      case nil => exact fun c hc => Option.some_inj.mp hc ▸ rfl
      case cons =>
        have hc : c ≠ '(' := fun hc => hn (hc ▸ List.mem_cons_self)
        simpa using (he c rfl).resolve_right hc
    refine ⟨before ++ w ++ name, inner, after, by simp, by simp [hbefore, hw.not_mem, hn], hi, ?_⟩
    rw [List.append_assoc, List.append_assoc, words_append_blanks hb,
      words_append (fun c hc => (hw.2 c hc).1) hw.1 hb', hws]
  case list before inner rest _ _ hb hi hr _ =>
    obtain rfl := Option.some_inj.mp hl
    refine ⟨before, inner, rest, rfl, hb.not_mem rfl, hi, ?_⟩
    rw [words_append_blanks hb, words_blank rfl]
    exact (hr.words_eq rfl).2

theorem splitList_of_not_mem (h : '(' ∉ cs) : splitList cs = (cs, none) := by
  have hd : cs.dropWhile (· ≠ '(') = [] := by
    simpa [List.dropWhile_eq_nil_iff] using fun c hc (he : c = '(') => h (he ▸ hc)
  rw [splitList, hd]

theorem splitList_append (hb : '(' ∉ before) (hi : ')' ∉ inner) :
    splitList (before ++ '(' :: (inner ++ ')' :: after)) =
      (before ++ ' ' :: after, some inner) := by
  simp only [splitList, dropWhile_ne_append hb, dropWhile_ne_append hi, takeWhile_ne_append hb,
    takeWhile_ne_append hi]

-- What is left of a spelling when its list is taken out.
theorem Spells.splitList_eq (h : Spells cs ws list) :
    words (splitList cs).1 = ws ∧
      ((splitList cs).2.map listItems).getD [] = (list.getD []).filter (!·.isEmpty) := by
  cases list
  case none =>
    obtain ⟨hn, hws⟩ := h.words_eq rfl
    rw [splitList_of_not_mem hn]
    exact ⟨hws, rfl⟩
  case some arguments =>
    obtain ⟨before, inner, after, rfl, hb, hi, hws⟩ := h.split rfl
    rw [splitList_append hb hi.not_mem]
    refine ⟨hws, ?_⟩
    rw [Option.map_some, Option.getD_some, listItems, hi.pieces, Option.getD_some]

end Reading

section Wording

-- In capitals, as far as ASCII goes.
def capitals (cs : List Char) : List Char :=
  cs.map Char.toUpper

structure Wording where
  name : List (List Char)
  unsigned : Bool
  arguments : Option (List (List Char))
  deriving DecidableEq

namespace Wording

def of (ws : List (List Char)) (list : Option (List (List Char))) : Wording :=
  { name := (ws.map capitals).filter (!isModifier ·)
    unsigned := (ws.map capitals).contains unsignedWord
    arguments := list.map (·.map capitals) }

-- A word beyond ASCII may become a modifier in capitals.
def token (w : Wording) : TypeToken :=
  let ws := w.name.map upperChars
  { base := String.ofList (joinWords (ws.filter (!isModifier ·)))
    arguments := ((w.arguments.getD []).map upperChars).filter (!·.isEmpty)
    unsigned := w.unsigned || ws.contains unsignedWord }

end Wording

theorem isModifier_iff :
    isModifier w ↔ w = unsignedWord ∨ w = "SIGNED".toList ∨ w = "ZEROFILL".toList := by
  simp only [isModifier, Bool.or_eq_true, decide_eq_true_eq, or_assoc]

theorem ne_unsignedWord (h : isModifier w = false) : w ≠ unsignedWord := fun he =>
  absurd (isModifier_iff.mpr (.inl he)) (Bool.eq_false_iff.mp h)

theorem upperChars_of_isModifier (h : isModifier (capitals w)) : upperChars w = capitals w := by
  have hu : ∀ m ∈ [unsignedWord, "SIGNED".toList, "ZEROFILL".toList],
      inCapitals m := by decide
  have hm : capitals w ∈ [unsignedWord, "SIGNED".toList, "ZEROFILL".toList] := by
    simp only [List.mem_cons, List.not_mem_nil, or_false]
    exact isModifier_iff.mp h
  rw [← upperChars_map_toUpper, ← capitals, upperChars_of_inCapitals (hu (capitals w) hm)]

theorem filter_upperChars (ws : List (List Char)) :
    ((((ws.map capitals).filter (!isModifier ·)).map upperChars).filter (!isModifier ·)) =
      (ws.map upperChars).filter (!isModifier ·) := by
  induction ws
  case nil => rfl
  case cons w ws hi =>
    have hu : upperChars (capitals w) = upperChars w := upperChars_map_toUpper w
    cases hm : isModifier (capitals w)
    case true => simp [hm, hi, upperChars_of_isModifier hm]
    case false => simp [hm, hi, hu, List.filter_cons]

theorem contains_upperChars (ws : List (List Char)) :
    ((ws.map capitals).contains unsignedWord ||
        (((ws.map capitals).filter (!isModifier ·)).map upperChars).contains unsignedWord) =
      (ws.map upperChars).contains unsignedWord := by
  induction ws
  case nil => rfl
  case cons w ws hi =>
    have hu : upperChars (capitals w) = upperChars w := upperChars_map_toUpper w
    simp only [List.map_cons, List.contains_cons, ← hi]
    cases hm : isModifier (capitals w)
    case true => simp [hm, upperChars_of_isModifier hm, Bool.or_assoc]
    case false =>
      have hn : (unsignedWord == capitals w) = false :=
        beq_eq_false_iff_ne.mpr (ne_unsignedWord hm).symm
      simp only [hm, hn, hu, List.filter_cons, Bool.not_false, if_true, List.map_cons,
        List.contains_cons, Bool.false_or, Bool.or_left_comm]

theorem Spells.ofChars_words (h : Spells cs ws list) :
    ofChars cs =
      { base := String.ofList (joinWords ((ws.map upperChars).filter (!isModifier ·)))
        arguments := ((list.getD []).map upperChars).filter (!·.isEmpty)
        unsigned := (ws.map upperChars).contains unsignedWord } := by
  obtain ⟨hws, ha⟩ := h.trimmedStart.trimmedEnd.upper.splitList_eq
  have hg : (list.map (·.map upperChars)).getD [] = (list.getD []).map upperChars := by
    cases list <;> rfl
  rw [ofChars]
  simp only [trimChars]
  rw [hws, ha, hg]

-- The token of a spelling is the one of its wording.
theorem Spells.ofChars_eq (h : Spells cs ws list) : ofChars cs = (Wording.of ws list).token := by
  have hg : ((list.map (·.map capitals)).getD []).map upperChars =
      (list.getD []).map upperChars := by
    cases list <;> simp [Function.comp_def, capitals, upperChars_map_toUpper]
  rw [h.ofChars_words, Wording.token, Wording.of]
  dsimp only
  rw [hg, filter_upperChars, contains_upperChars]

end Wording

section Numerals

def IsNumeral (cs : List Char) : Prop :=
  cs ≠ [] ∧ ∀ c ∈ cs, c.isDigit

instance (cs : List Char) : Decidable (IsNumeral cs) :=
  decidable_of_iff (cs ≠ [] ∧ cs.all Char.isDigit) (by simp [IsNumeral])

theorem IsNumeral.upperChars_eq (h : IsNumeral cs) : upperChars cs = cs := by
  have hd : ∀ n < 128, (Char.ofNat n).isDigit → (Char.ofNat n).toUpper = Char.ofNat n := by decide
  refine upperChars_of_inCapitals (List.all_eq_true.mpr fun c hc => ?_)
  have hl : c.toNat < 128 := by
    have := toNat_of_isDigit (h.2 c hc)
    omega
  have hu := forall_ascii (P := fun c => c.isDigit → c.toUpper = c) hd hl (h.2 c hc)
  simp [hl, hu]

theorem IsNumeral.numberOf?_eq (h : IsNumeral cs) :
    numberOf? cs = (some (digitsValue cs)).filter (· < UInt64.size) :=
  boundedNumeral?_digits h.2 h.1 UInt64.size

theorem Spells.arguments_eq (h : Spells cs ws list) (hl : ∀ a ∈ list.getD [], IsNumeral a) :
    (ofChars cs).arguments = list.getD [] := by
  have hm : (list.getD []).map upperChars = list.getD [] :=
    (List.map_congr_left fun a ha => (hl a ha).upperChars_eq).trans (List.map_id' _)
  rw [h.ofChars_words]
  dsimp only
  rw [hm]
  exact List.filter_eq_self.mpr fun a ha => by simpa using (hl a ha).1

end Numerals

end TypeToken

open TypeToken in
-- A type whose name has an entry is resolved by it. No entry is without a name.
theorem Dialect.resolve_of_typeRule? {d : Dialect} {source base : String} {r : TypeRule}
    (hb : (ofSource source).base = base) (hr : d.typeRule? base = some r) :
    d.resolve source = (Resolution.ofRule r (ofSource source)).noteClamped (ofSource source) := by
  have hn : d.typeRule? "" = none := by cases d <;> decide
  have hne : base ≠ "" := by
    rintro rfl
    exact nomatch hn.symm.trans hr
  rw [resolve, Resolution.ofToken, hb, if_neg hne, hr]

open TypeToken in
-- Types of one wording stand for the same, in every dialect.
theorem Dialect.resolve_respelled (d : Dialect) {source source' : String}
    {ws ws' : List (List Char)} {list list' : Option (List (List Char))}
    (h : Spells source.toList ws list) (h' : Spells source'.toList ws' list')
    (hw : Wording.of ws list = Wording.of ws' list') : d.resolve source = d.resolve source' := by
  rw [resolve, resolve, ofSource, ofSource, h.ofChars_eq, h'.ofChars_eq, hw]

open TypeToken in
theorem Dialect.resolve_respelled_int :
    let ws := ["int".toList, "unsigned".toList]
    let ws' := ["UNSIGNED".toList, "Signed".toList, "INT".toList]
    let list := some ["10".toList]
    Spells "int(10) unsigned".toList ws list ∧
      Spells "\tUNSIGNED ( 10\n)Signed INT ".toList ws' list ∧
      Wording.of ws list = Wording.of ws' list ∧
      mysql.resolve "int(10) unsigned" = mysql.resolve "\tUNSIGNED ( 10\n)Signed INT " := by
  intro ws ws' list
  have hp : Pads "10".toList "10".toList := ⟨[], [], rfl, by decide, by decide, by decide⟩
  have hp' : Pads " 10\n".toList "10".toList :=
    ⟨[' '], ['\n'], rfl, by decide, by decide, by decide⟩
  have h : Spells ([] ++ "int".toList ++ ([] ++ '(' :: ("10".toList ++ ')' ::
      ([' '] ++ "unsigned".toList ++ [])))) ws list :=
    .word (by decide) (by decide) (by decide) <| .list (by decide) (.last hp) <|
      .word (by decide) (by decide) (by decide) <| .blanks (by decide)
  have h' : Spells (['\t'] ++ "UNSIGNED".toList ++ ([' '] ++ '(' :: (" 10\n".toList ++ ')' ::
      ([] ++ "Signed".toList ++ ([' '] ++ "INT".toList ++ [' ']))))) ws' list :=
    .word (by decide) (by decide) (by decide) <| .list (by decide) (.last hp') <|
      .word (by decide) (by decide) (by decide) <| .word (by decide) (by decide) (by decide) <|
        .blanks (by decide)
  have hw : Wording.of ws list = Wording.of ws' list := by decide +kernel
  exact ⟨h, h', hw, resolve_respelled mysql h h' hw⟩

end TypedRows
