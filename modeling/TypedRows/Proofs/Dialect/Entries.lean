import TypedRows.Proofs.Dialect.Decimal
import TypedRows.Proofs.Dialect.OpenColumns

namespace TypedRows

open Text LetterCase TypeToken

theorem Text.words_upperChars (cs : List Char) :
    words (upperChars cs) = (words cs).map upperChars := by
  induction cs using words_induction
  case blanks cs hb =>
    have hu : upperChars cs = cs := upperChars_of_marks fun c hc => by simp [isMark, hb c hc]
    rw [hu, words_of_blanks hb, List.map_nil]
  case word before w rest hb hw hn hr hi =>
    have hu : upperChars before = before :=
      upperChars_of_marks fun c hc => by simp [isMark, hb c hc]
    have hw' : ∀ c ∈ upperChars w, isBlank c = false := by
      refine fun c hc => Bool.eq_false_iff.mpr fun hm => ?_
      have hc : c ∈ w := (mem_upperChars_of_isMark (by simp [isMark, hm])).mp hc
      exact Bool.eq_false_iff.mp (hw c hc) hm
    have hr' : ∀ c ∈ (upperChars rest).head?, isBlank c := by
      cases rest
      case nil => simp [upperChars]
      case cons c rest =>
        have hc : isBlank c := hr c rfl
        rw [upperChars_cons_of_isMark (by simp [isMark, hc])]
        simpa using hc
    rw [upperChars_append, upperChars_append, hu, words_append_blanks hb, words_append_blanks hb,
      words_append hw' (upperChars_ne_nil hn) hr', words_append hw hn hr, hi, List.map_cons]

namespace TypeToken

-- A type, its words, and the arguments of its list in capitals.
inductive Written : List Char → List (List Char) → List (List Char) → Prop
  | bare {name : List Char} (hn : '(' ∉ name) : Written name (words name) []
  | withList {before inner after : List Char} (hb : '(' ∉ before) (hi : ')' ∉ inner) :
      Written (before ++ '(' :: (inner ++ ')' :: after)) (words before ++ words after)
        (listItems (upperChars inner))

variable {cs : List Char} {ws arguments : List (List Char)}

theorem trimChars_list (before inner after : List Char) :
    trimChars (before ++ '(' :: (inner ++ ')' :: after)) =
      trimStart before ++ '(' :: (inner ++ ')' :: trimEnd after) := by
  have hs : trimStart (before ++ '(' :: (inner ++ ')' :: after)) =
      (trimStart before ++ '(' :: inner) ++ [')'] ++ after := by
    rw [trimStart, List.dropWhile_append]
    split_ifs with he
    case pos => simp [trimStart, List.isEmpty_iff.mp he, isBlank]
    case neg => simp [trimStart]
  have hl : ∀ c ∈ ((trimStart before ++ '(' :: inner) ++ [')']).getLast?, isBlank c = false := by
    rw [List.getLast?_concat]
    exact fun c hc => Option.some_inj.mp hc ▸ rfl
  rw [trimChars, hs, trimEnd_append hl]
  simp

-- The words are read in capitals, and what the list takes out is read as a blank.
theorem Written.splitList_eq (h : Written cs ws arguments) :
    words (splitList (upperChars (trimChars cs))).1 = ws.map upperChars ∧
      ((splitList (upperChars (trimChars cs))).2.map listItems).getD [] = arguments := by
  cases h
  case bare hn =>
    have ht : '(' ∉ upperChars (trimChars cs) := by
      rw [mem_upperChars_of_isMark rfl]
      obtain ⟨before, after, he, -⟩ := exists_eq_trimChars cs
      exact fun hm => hn (he ▸ by simp [hm])
    rw [splitList_of_not_mem ht, words_upperChars, words_trimChars]
    exact ⟨rfl, rfl⟩
  case withList before inner after hb hi =>
    have hb : '(' ∉ upperChars (trimStart before) := by
      rw [mem_upperChars_of_isMark rfl]
      exact fun hm => hb ((List.dropWhile_suffix _).subset hm)
    have hi : ')' ∉ upperChars inner := (mem_upperChars_of_isMark rfl).not.mpr hi
    rw [trimChars_list, upperChars_append, upperChars_cons_of_isMark rfl, upperChars_append,
      upperChars_cons_of_isMark rfl, splitList_append hb hi]
    refine ⟨?_, rfl⟩
    rw [words_append_cons rfl, words_upperChars, words_upperChars, words_trimStart, words_trimEnd,
      List.map_append]

theorem Written.ofChars_eq (h : Written cs ws arguments) :
    ofChars cs =
      { base := String.ofList (joinWords ((ws.map upperChars).filter (!isModifier ·)))
        arguments := arguments
        unsigned := (ws.map upperChars).contains unsignedWord } := by
  obtain ⟨hws, ha⟩ := h.splitList_eq
  rw [ofChars]
  simp only [hws, ha]

-- The words of a type spell a name, whatever their case.
def Names (source name : String) (arguments : List (List Char)) : Prop :=
  ∃ ws, Written source.toList ws arguments ∧ ws.map upperChars = words name.toList

end TypeToken

namespace TypeRule

def makesDecimal : TypeRule → Bool
  | decimal _ _ => true
  | exactly c => Resolution.isDecimal c
  | _ => false

theorem isDecimal_type (r : TypeRule) (t : TypeToken) :
    Resolution.isDecimal (r.type t) = r.makesDecimal := by
  cases r
  case exactly => rfl
  case decimal p s =>
    rw [type, decimalOf]
    split <;> rfl
  case tinyInteger | bits | float =>
    rw [type]
    split <;> rfl
  all_goals rfl

end TypeRule

namespace Resolution

-- What a rule says of the types that it makes.
def ruleNote (r : TypeRule) (t : TypeToken) : Option String :=
  if r.isLossy then some (t.base ++ " is represented as text")
  else if r.makesDecimal && hasWideArgument t then
    some (t.base ++ " arguments are out of range and clamped to " ++ (r.type t).render)
  else none

theorem noteClamped_ofRule_eq (r : TypeRule) (t : TypeToken) :
    (ofRule r t).noteClamped t = ⟨r.type t, ruleNote r t⟩ := by
  have hd := TypeRule.isDecimal_type r t
  rw [noteClamped, ofRule, ruleNote]
  cases r.isLossy
  case true => simp
  case false => cases hm : r.makesDecimal && hasWideArgument t <;> simp [hd, hm]

end Resolution

namespace Dialect

-- What SQLite answers for a type that reaches an entry.
def entryNote (t : TypeToken) (type : CanonicalType) : Option String :=
  if t.base ∈ ["TIME", "JSON"] then some (t.base ++ " is represented as text")
  else if t.base ∈ ["NUMERIC", "DECIMAL"] ∧ Resolution.hasWideArgument t then
    some (t.base ++ " arguments are out of range and clamped to " ++ type.render)
  else none

variable {source name : String} {arguments : List (List Char)} {r : TypeRule}

theorem sqliteRules_notes : ∀ e ∈ sqliteRules, ∀ n ∈ e.1,
    (e.2.isLossy ↔ n ∈ ["TIME", "JSON"]) ∧ (e.2.makesDecimal ↔ n ∈ ["NUMERIC", "DECIMAL"]) := by
  decide

-- Only one name has a word that is taken out.
theorem sqliteRules_names : ∀ e ∈ sqliteRules, ∀ n ∈ e.1,
    joinWords (words n.toList) = n.toList ∧
      (n = "UNSIGNED BIG INT" ∨ (words n.toList).all (!isModifier ·)) := by
  decide +kernel

theorem ofSource_of_names {e : List String × TypeRule} (h : Names source name arguments)
    (he : e ∈ sqliteRules) (hm : name ∈ e.1) (hn : name ≠ "UNSIGNED BIG INT") :
    ofSource source = { base := name, arguments, unsigned := false } := by
  obtain ⟨hj, hw⟩ := sqliteRules_names e he name hm
  have hw := List.all_eq_true.mp (hw.resolve_left hn)
  have hu : (words name.toList).contains unsignedWord = false := by
    refine Bool.eq_false_iff.mpr fun hc => ?_
    exact absurd (hw unsignedWord (List.contains_iff_mem.mp hc)) (by decide)
  obtain ⟨ws, hws, hc⟩ := h
  rw [ofSource, hws.ofChars_eq, hc, List.filter_eq_self.mpr hw, hj, String.ofList_toList, hu]

-- What the word `UNSIGNED` leaves of the name has no entry.
theorem resolve_unsigned_bigint (h : Names source "UNSIGNED BIG INT" arguments) :
    sqlite.resolve source = if arguments.any (fun a => (numberOf? a).isNone) then .unknown
      else ⟨.integer 64, some "BIG INT resolved by SQLite type affinity as integer(64)"⟩ := by
  have hw : String.ofList (joinWords ((words "UNSIGNED BIG INT".toList).filter (!isModifier ·))) =
      "BIG INT" := by
    decide
  have hr : sqlite.typeRule? "BIG INT" = none := by decide
  have hne : "BIG INT" ≠ "" := by decide
  have hp : Resolution.hasPart "BIG INT" "INT" := by decide
  obtain ⟨ws, hws, hc⟩ := h
  rw [resolve, ofSource, hws.ofChars_eq, hc, hw, Resolution.ofToken, if_neg hne, hr]
  simp only [if_true, Resolution.ofAffinity, Resolution.affinity?, hp, hasWordArguments]
  split_ifs <;> rfl

-- The word `UNSIGNED` is taken out before the name is looked up, and affinity answers for the rest.
theorem resolve_entry_iff (h : Names source name arguments) (hr : sqlite.typeRule? name = some r) :
    let t : TypeToken := { base := name, arguments, unsigned := false }
    sqlite.resolve source = ⟨r.type t, entryNote t (r.type t)⟩ ↔ name ≠ "UNSIGNED BIG INT" := by
  intro t
  obtain ⟨e, he, hm, rfl⟩ := mem_typeRules hr
  constructor
  case mp =>
    rintro ha rfl
    have hr : some e.2 = some (.exactly (.integer 64)) := hr.symm.trans (by decide)
    have hn : entryNote t (e.2.type t) = none := by simp [entryNote, t]
    rw [resolve_unsigned_bigint h, hn, Option.some_inj.mp hr] at ha
    split_ifs at ha <;> simp [Resolution.unknown, TypeRule.type] at ha
  case mpr =>
    intro hn
    have ht : ofSource source = t := ofSource_of_names h he hm hn
    have hb : (ofSource source).base = name := by rw [ht]
    have hnote : Resolution.ruleNote e.2 t = entryNote t (e.2.type t) := by
      obtain ⟨hl, hd⟩ := sqliteRules_notes e he name hm
      simp only [Resolution.ruleNote, entryNote, hl, hd, Bool.and_eq_true, t]
    rw [resolve_of_typeRule? hb hr, ht, Resolution.noteClamped_ofRule_eq, hnote]

theorem resolve_entry_varying :
    let source := "varying\t(a (b, 7) Character "
    let arguments := ["A (B".toList, "7".toList]
    Names source "VARYING CHARACTER" arguments ∧
      sqlite.typeRule? "VARYING CHARACTER" = some (.text none) ∧
      sqlite.resolve source = ⟨.text none, none⟩ := by
  intro source arguments
  have hs : source.toList =
      "varying\t".toList ++ '(' :: ("a (b, 7".toList ++ ')' :: " Character ".toList) := by decide
  have ha : arguments = listItems (upperChars "a (b, 7".toList) := by decide +kernel
  have hw : Written source.toList (words "varying\t".toList ++ words " Character ".toList)
      arguments := hs ▸ ha ▸ .withList (by decide) (by decide)
  have h : Names source "VARYING CHARACTER" arguments := ⟨_, hw, by decide +kernel⟩
  have hr : sqlite.typeRule? "VARYING CHARACTER" = some (.text none) := by decide
  exact ⟨h, hr, (resolve_entry_iff h hr).mpr (by decide)⟩

theorem resolve_entry_unreached :
    Names "UNSIGNED BIG INT" "UNSIGNED BIG INT" [] ∧
      sqlite.typeRule? "UNSIGNED BIG INT" = some (.exactly (.integer 64)) ∧
      sqlite.resolve "UNSIGNED BIG INT" ≠ ⟨.integer 64, none⟩ := by
  have hw : Written "UNSIGNED BIG INT".toList (words "UNSIGNED BIG INT".toList) [] :=
    .bare (by decide)
  have h : Names "UNSIGNED BIG INT" "UNSIGNED BIG INT" [] :=
    ⟨_, hw, by rw [← words_upperChars, upperChars_of_inCapitals (by decide)]⟩
  refine ⟨h, by decide, ?_⟩
  rw [resolve_unsigned_bigint h]
  simp

end Dialect

end TypedRows
