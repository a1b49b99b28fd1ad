import TypedRows.Proofs.Script.Boundary

namespace TypedRows.Ddl.Script

open Text

namespace Lexeme

variable {d : Dialect} {l : Lexeme} {ls ls' : List Lexeme} {ss : List (List Lexeme)}
  {cs rest rest' : List Char}

-- Lexemes that are read from their text where `rest` follows it.
def Lexed (d : Dialect) (rest : List Char) : List Lexeme → Prop
  | [] => True
  | l :: ls => Begins d (ls.flatMap source ++ rest) l ∧ Lexed d rest ls

section Lexed

theorem Begins.source_ne_nil (h : Begins d rest l) : l.source ≠ [] := by
  have ⟨c, cs, hs, _⟩ := h.first_eq false
  simp [hs]

theorem lexed_append : Lexed d rest (ls ++ ls') ↔
    Lexed d (ls'.flatMap source ++ rest) ls ∧ Lexed d rest ls' := by
  induction ls
  case nil => simp [Lexed]
  case cons l ls hi => simp [Lexed, hi, and_assoc]

theorem Lexed.lexemesFrom (h : Lexed d [] ls) (w : Bool) :
    (Lexicon.shared d).lexemesFrom w (ls.flatMap source) = ls := by
  induction ls generalizing w
  case nil => simp [Lexicon.lexemesFrom]
  case cons l ls hi =>
    obtain ⟨c, cs, hs, hf⟩ := h.1.first_eq w
    rw [List.append_nil] at hf
    simp [hs, Lexicon.lexemesFrom, hf, hi h.2]

theorem source_first (w : Bool) (c : Char) (cs : List Char) :
    ((Lexicon.shared d).first w c cs).source ++
      cs.drop (((Lexicon.shared d).first w c cs).source.length - 1) = c :: cs := by
  have hd : ((Lexicon.shared d).dollarQuotes && !w && decide (c = '$')) = false := rfl
  unfold Lexicon.first
  rw [hd]
  split_ifs with hs
  case pos => simp [source, hs]
  case pos =>
    have hr : cs.drop (cs.takeWhile (· ≠ '\n')).length = cs.dropWhile (· ≠ '\n') :=
      Reader.drop_length_takeWhile _ cs
    simp only [source, List.length_cons, Nat.add_sub_cancel, hr, List.cons_append,
      List.takeWhile_append_dropWhile]
  case pos => simp only [source, List.length_cons, Nat.add_sub_cancel, Reader.drop_length_take,
    List.cons_append, List.take_append_drop]
  case pos => simp only [source, List.length_cons, Nat.add_sub_cancel, Reader.drop_length_take,
    List.cons_append, List.take_append_drop]
  case pos => contradiction
  case pos => simp [source]
  case neg => simp [source]

theorem lexed_lexemesFrom (w : Bool) (cs : List Char) :
    Lexed d [] ((Lexicon.shared d).lexemesFrom w cs) ∧
      ((Lexicon.shared d).lexemesFrom w cs).flatMap source = cs := by
  fun_induction Lexicon.lexemesFrom (Lexicon.shared d) w cs
  case case1 => simp [Lexed]
  case case2 w c cs l hi =>
    have hb : Begins d (cs.drop (l.source.length - 1)) l := begins_first w c cs
    have hs : l.source ++ cs.drop (l.source.length - 1) = c :: cs := source_first w c cs
    simp [Lexed, hi, hb, hs]

-- Leaving out a line comment brings nothing together: a line break follows it, or nothing.
theorem Lexed.replaces_filter (h : Lexed d rest ls) :
    Replaces ((ls.filter (!·.isLineComment)).flatMap source ++ rest) (ls.flatMap source ++ rest) := by
  induction ls
  case nil => exact .inl rfl
  case cons l ls hi =>
    have hr := hi h.2
    have hb := h.1
    cases hl : l.isLineComment
    case false =>
      have ⟨c, cs, hs, _⟩ := hb.first_eq false
      exact .inl (by simp [hl, hs])
    case true =>
      cases hb
      case lineComment hx =>
        have ha : Apart ((ls.filter (!·.isLineComment)).flatMap source ++ rest) := by
          cases hr
          case inl hr =>
            intro c hc
            have he := hx c (hr ▸ hc)
            subst he
            exact .inr (by decide)
          case inr hr => exact hr.2
        refine .inr ⟨by simp [source], by simpa [hl] using ha⟩
      all_goals contradiction

theorem Lexed.filter (h : Lexed d rest ls) : Lexed d rest (ls.filter (!·.isLineComment)) := by
  induction ls
  case nil => exact h
  case cons l ls hi =>
    cases hl : l.isLineComment
    case false => simpa [Lexed, hl] using ⟨h.1.replaced hl h.2.replaces_filter, hi h.2⟩
    case true => simpa [hl] using hi h.2

end Lexed

section Trimmed

-- Without the blanks at the end.
def trimmedEnd : List Lexeme → List Lexeme
  | [] => []
  | l :: ls =>
    match trimmedEnd ls with
    | [] => if l.isBlank then [] else [l.shortened]
    | m :: ms => l :: m :: ms

-- What the text of a statement keeps of its segment.
def tidied (segment : List Lexeme) : List Lexeme :=
  trimmedEnd ((segment.filter (!·.isLineComment)).dropWhile isBlank)

theorem source_shortened (h : Begins d rest l) (hb : l.isBlank = false)
    (hl : l.isLineComment = false) : l.shortened.source = trimEnd l.source := by
  cases h
  case separator => decide
  case blank => contradiction
  case plain hw => simp [shortened, source, trimEnd, hw]
  case quoted => rfl
  case lineComment => contradiction
  case blockComment => rfl

theorem trimmedEnd_of_isBlank (h : ∀ l ∈ ls, l.isBlank) : trimmedEnd ls = [] := by
  induction ls
  case nil => rfl
  case cons l ls hi => simp_all [trimmedEnd]

theorem Lexed.isBlank_of_source (h : Lexed d rest ls)
    (hb : ∀ c ∈ ls.flatMap source, Text.isBlank c) : ∀ l ∈ ls, l.isBlank := by
  induction ls
  case nil => simp
  case cons l ls hi =>
    simp only [List.flatMap_cons, List.mem_append, or_imp, forall_and] at hb
    have ⟨c, cs, hs, _⟩ := h.1.first_eq false
    have hc : Text.isBlank c = l.isBlank := h.1.isBlank_head c (by simp [hs])
    have hl : l.isBlank := hc ▸ hb.1 c (by simp [hs])
    simpa [hl] using hi h.2 hb.2

theorem Lexed.flatMap_source_trimmedEnd (h : Lexed d rest ls)
    (hl : ∀ l ∈ ls, l.isLineComment = false) :
    (Lexeme.trimmedEnd ls).flatMap source = trimEnd (ls.flatMap source) := by
  induction ls
  case nil => rfl
  case cons l ls hi =>
    have ⟨hl, hls⟩ := List.forall_mem_cons.mp hl
    have hs := hi h.2 hls
    rw [List.flatMap_cons, trimEnd_append_eq, ← hs, Lexeme.trimmedEnd]
    split
    case h_1 he =>
      cases hb : l.isBlank
      case false => simp [he, source_shortened h.1 hb hl]
      case true =>
        cases h.1
        case blank hc _ => simp [he, source, trimEnd, hc]
        all_goals simp [isBlank] at hb
    case h_2 m ms he =>
      have hn : (m :: ms).flatMap source ≠ [] := by
        intro hn
        have hb := h.2.isBlank_of_source (trimEnd_eq_nil_iff.mp (by rw [← hs, he, hn]))
        simp [trimmedEnd_of_isBlank hb] at he
      rw [he, if_neg hn, List.flatMap_cons]

theorem head?_append_cut {text : List Char} (hp : cs <+: text) (hn : cs ≠ []) :
    (cs ++ rest').head? = (text ++ rest).head? := by
  have ⟨after, he⟩ := hp
  have ⟨c, cs', hc⟩ := List.exists_cons_of_ne_nil hn
  simp [← he, hc]

-- A lexeme still stands before what it stood before, or it is the last one.
theorem Lexed.trimmedEnd (h : Lexed d rest ls) (hl : ∀ l ∈ ls, l.isLineComment = false)
    (ha : Apart rest') (hr : rest = [] → rest' = []) : Lexed d rest' (trimmedEnd ls) := by
  induction ls
  case nil => exact h
  case cons l ls hi =>
    have ⟨hl, hls⟩ := List.forall_mem_cons.mp hl
    have ht := hi h.2 hls
    have hs := h.2.flatMap_source_trimmedEnd hls
    rw [Lexeme.trimmedEnd]
    split
    case h_1 =>
      cases hb : l.isBlank
      case false =>
        have hm : Begins d rest' l.shortened := h.1.shortened hb hl ha fun hn => hr (by simp_all)
        simpa [Lexed] using hm
      case true => simp [Lexed]
    case h_2 m ms he =>
      rw [he] at hs ht
      have hn : (m :: ms).flatMap source ≠ [] := by simp [ht.1.source_ne_nil]
      have hp : (m :: ms).flatMap source <+: ls.flatMap source := hs ▸ trimEnd_prefix _
      exact ⟨h.1.replaced hl (.inl (head?_append_cut hp hn)), ht⟩

theorem Lexed.dropWhile (h : Lexed d rest ls) (p : Lexeme → Bool) : Lexed d rest (ls.dropWhile p) := by
  rw [← List.takeWhile_append_dropWhile (p := p) (l := ls), lexed_append] at h
  exact h.2

theorem Lexed.flatMap_source_dropWhile (h : Lexed d rest ls) :
    (ls.dropWhile isBlank).flatMap source = trimStart (ls.flatMap source) := by
  induction ls
  case nil => rfl
  case cons l ls hi =>
    have hb := h.1.isBlank_head
    cases hl : l.isBlank
    case false =>
      have hd : ∀ c ∈ (l.source ++ ls.flatMap source).head?, Text.isBlank c = false := by
        rw [List.head?_append_of_ne_nil _ h.1.source_ne_nil]
        exact fun c hc => (hb c hc).trans hl
      simp [hl, trimStart, dropWhile_of_head hd]
    case true =>
      cases h.1
      case blank c hc =>
        rw [List.dropWhile_cons_of_pos hl, hi h.2]
        simp [trimStart, source, hc]
      all_goals simp [isBlank] at hl

theorem flatMap_source_filter (ls : List Lexeme) :
    (ls.filter (!·.isLineComment)).flatMap source = ls.flatMap kept := by
  induction ls
  case nil => rfl
  case cons l ls hi => cases l <;> simp_all [isLineComment, kept, source]

theorem mem_dropWhile_filter {l : Lexeme} (h : l ∈ (ls.filter (!·.isLineComment)).dropWhile isBlank) :
    l.isLineComment = false := by
  have hm := (List.dropWhile_sublist _).mem h
  simpa using (List.mem_filter.mp hm).2

theorem Lexed.flatMap_source_tidied (h : Lexed d rest ls) :
    (tidied ls).flatMap source = trimChars (ls.flatMap kept) := by
  have hl : ∀ l ∈ (ls.filter (!·.isLineComment)).dropWhile isBlank, l.isLineComment = false :=
    fun _ => mem_dropWhile_filter
  rw [tidied, (h.filter.dropWhile _).flatMap_source_trimmedEnd hl, h.filter.flatMap_source_dropWhile,
    flatMap_source_filter]
  rfl

theorem Lexed.tidied (h : Lexed d rest ls) (ha : Apart rest') (hr : rest = [] → rest' = []) :
    Lexed d rest' (tidied ls) :=
  (h.filter.dropWhile _).trimmedEnd (fun _ => mem_dropWhile_filter) ha hr

end Trimmed

section Kinds

theorem isToken_of_isBlank (h : l.isBlank) : l.isToken = false := by
  cases l <;> simp_all [isBlank, isToken]

theorem isToken_of_isLineComment (h : l.isLineComment) : l.isToken = false := by
  cases l <;> simp_all [isLineComment, isToken]

theorem isToken_shortened (l : Lexeme) : l.shortened.isToken = l.isToken := by
  cases l <;> rfl

theorem any_isToken_trimmedEnd (ls : List Lexeme) :
    (trimmedEnd ls).any isToken = ls.any isToken := by
  induction ls
  case nil => rfl
  case cons l ls hi =>
    rw [trimmedEnd, List.any_cons, ← hi]
    split
    case h_1 he =>
      cases hb : l.isBlank
      case false => simp [he, isToken_shortened]
      case true => simp [he, isToken_of_isBlank hb]
    case h_2 he => rw [he, List.any_cons]

theorem any_isToken_tidied (ls : List Lexeme) : (tidied ls).any isToken = ls.any isToken := by
  have hd : ∀ ls : List Lexeme, (ls.dropWhile isBlank).any isToken = ls.any isToken := by
    intro ls
    induction ls
    case nil => rfl
    case cons l ls hi =>
      cases hb : l.isBlank
      case false => simp [hb]
      case true => simp [hb, hi, isToken_of_isBlank]
  rw [tidied, any_isToken_trimmedEnd, hd, Bool.eq_iff_iff]
  simp only [List.any_eq_true, List.mem_filter]
  refine exists_congr fun l => ⟨fun h => ⟨h.1.1, h.2⟩, fun h => ⟨⟨h.1, ?_⟩, h.2⟩⟩
  by_contra hl
  simp_all [isToken_of_isLineComment]

theorem forall_trimmedEnd {p : Lexeme → Prop} (hs : ∀ l, p l → p l.shortened)
    (h : ∀ l ∈ ls, p l) : ∀ l ∈ trimmedEnd ls, p l := by
  induction ls
  case nil => exact h
  case cons l ls hi =>
    have ⟨hl, hls⟩ := List.forall_mem_cons.mp h
    rw [trimmedEnd]
    split
    case h_1 => cases hb : l.isBlank <;> simp [hs l hl]
    case h_2 he => exact he ▸ List.forall_mem_cons.mpr ⟨hl, hi hls⟩

theorem separator_not_mem_tidied (h : separator ∉ ls) : separator ∉ tidied ls := by
  have ht : ∀ l ∈ tidied ls, l ≠ separator := by
    refine forall_trimmedEnd (fun l hl => by cases l <;> simp_all [shortened]) fun l hl he => h ?_
    exact List.mem_of_mem_filter ((List.dropWhile_sublist _).mem (he ▸ hl))
  exact fun hm => ht _ hm rfl

theorem flatMap_kept_tidied (ls : List Lexeme) :
    (tidied ls).flatMap kept = (tidied ls).flatMap source := by
  have hl : ∀ l ∈ tidied ls, l.isLineComment = false :=
    forall_trimmedEnd (fun l hl => by cases l <;> simp_all [shortened, isLineComment])
      fun _ => mem_dropWhile_filter
  rw [← flatMap_source_filter, List.filter_eq_self.mpr (by simpa using hl)]

-- What is neither a blank nor a line comment, whatever blanks an open text ends with.
def marks (ls : List Lexeme) : List Lexeme :=
  (ls.filter fun l => !l.isBlank && !l.isLineComment).map shortened

theorem shortened_shortened (l : Lexeme) : l.shortened.shortened = l.shortened := by
  cases l <;> simp [shortened, trimEnd_trimEnd]

theorem marks_cons (l : Lexeme) (ls : List Lexeme) : marks (l :: ls) =
    if l.isBlank || l.isLineComment then marks ls else l.shortened :: marks ls := by
  cases hb : l.isBlank <;> cases hl : l.isLineComment <;> simp [marks, hb, hl]

theorem marks_append (ls ls' : List Lexeme) : marks (ls ++ ls') = marks ls ++ marks ls' := by
  simp [marks]

theorem marks_trimmedEnd (ls : List Lexeme) : marks (trimmedEnd ls) = marks ls := by
  induction ls
  case nil => rfl
  case cons l ls hi =>
    rw [trimmedEnd, marks_cons, ← hi]
    split
    case h_1 he =>
      have hs : l.shortened.isLineComment = l.isLineComment := by cases l <;> rfl
      have hw : l.shortened.isBlank = l.isBlank := by cases l <;> rfl
      cases hb : l.isBlank <;> simp [he, marks_cons, hs, hw, hb, shortened_shortened]
    case h_2 he => rw [he, marks_cons]

-- What a statement keeps of its segment has the same quoted texts and comments.
theorem marks_tidied (ls : List Lexeme) : marks (tidied ls) = marks ls := by
  have hd : ∀ ls : List Lexeme, marks (ls.dropWhile isBlank) = marks ls := by
    intro ls
    induction ls
    case nil => rfl
    case cons l ls hi => cases hb : l.isBlank <;> simp [marks_cons, hb, hi]
  rw [tidied, marks_trimmedEnd, hd]
  simp [marks, List.filter_filter]

theorem marks_intercalate (ss : List (List Lexeme)) :
    marks ([separator].intercalate ss) = [separator].intercalate (ss.map marks) := by
  induction ss
  case nil => rfl
  case cons s ss hi =>
    cases ss
    case nil => simp
    case cons =>
      rw [List.intercalate_cons_cons, marks_append, marks_append, hi]
      exact List.intercalate_cons_cons.symm

end Kinds

section Segments

theorem segmentsAfter_eq_splitOn (read ls : List Lexeme) :
    segmentsAfter read ls = (ls.splitOn separator).modifyHead (read ++ ·) := by
  induction ls generalizing read
  case nil => simp [segmentsAfter]
  case cons l ls hi =>
    simp only [List.splitOn_eq_splitOnP] at hi ⊢
    rw [segmentsAfter, hi, hi, List.splitOnP_cons_eq_if_modifyHead]
    split_ifs with hl hs hs
    case pos => simp [← Function.id_def]
    case neg => simp_all
    case pos => simp_all
    case neg => simp [Function.comp_def]

theorem segments_eq_splitOn (ls : List Lexeme) : segments ls = ls.splitOn separator := by
  simp [segments, segmentsAfter_eq_splitOn, ← Function.id_def]

theorem separator_not_mem_segments (ls : List Lexeme) : ∀ s ∈ segments ls, separator ∉ s := by
  have ha : ∀ ls read, separator ∉ read → ∀ s ∈ segmentsAfter read ls, separator ∉ s := by
    intro ls
    induction ls
    case nil => simp [segmentsAfter]
    case cons l ls hi =>
      intro read hr
      rw [segmentsAfter]
      split_ifs with hl
      case pos => simpa [hr] using hi [] List.not_mem_nil
      case neg => exact hi _ (by simp [hr, Ne.symm hl])
  exact ha ls [] List.not_mem_nil

-- Where a segment stands last or a separator follows it, so does what its statement keeps.
theorem Lexed.intercalate_tidied (h : Lexed d [] ([separator].intercalate ss)) :
    Lexed d [] ([separator].intercalate ((ss.filter (·.any isToken)).map Lexeme.tidied)) := by
  induction ss
  case nil => exact h
  case cons s ss hi =>
    cases ss
    case nil =>
      rw [List.intercalate_singleton] at h
      cases hs : s.any isToken
      case false => simp [hs, Lexed]
      case true => simpa [hs] using h.tidied (by simp [Apart]) fun _ => rfl
    case cons s' ss =>
      rw [List.intercalate_cons_cons, List.append_assoc, lexed_append] at h
      have hk := hi h.2.2
      cases hs : s.any isToken
      case false => simpa [hs] using hk
      case true =>
        cases he : ((s' :: ss).filter (·.any isToken)).map Lexeme.tidied
        case nil => simpa [hs, he] using h.1.tidied (by simp [Apart]) (by simp)
        case cons =>
          rw [List.filter_cons, if_pos hs, List.map_cons, he, List.intercalate_cons_cons,
            List.append_assoc, lexed_append, ← he]
          exact ⟨h.1.tidied (by simp [Apart, source]) (by simp [source]), .separator, hk⟩

end Segments

section Texts

theorem tokenLine?_isSome (line : Nat) (ls : List Lexeme) :
    (tokenLine? line ls).isSome = ls.any isToken := by
  induction ls generalizing line
  case nil => rfl
  case cons l ls hi => cases hl : l.isToken <;> simp [tokenLine?, hl, hi]

theorem map_text_statementsFrom (line : Nat) (ss : List (List Lexeme)) :
    (statementsFrom line ss).map (·.text) =
      (ss.filter (·.any isToken)).map fun s => String.ofList (trimChars (s.flatMap kept)) := by
  induction ss generalizing line
  case nil => rfl
  case cons s ss hi =>
    have hs := tokenLine?_isSome line s
    cases ht : tokenLine? line s <;> simp_all [statementsFrom, statement?]

theorem flatMap_intercalate (ss : List (List Lexeme)) :
    ([separator].intercalate ss).flatMap source = [';'].intercalate (ss.map (·.flatMap source)) := by
  induction ss
  case nil => rfl
  case cons s ss hi =>
    cases ss
    case nil => simp
    case cons => simp_all [List.intercalate_cons_cons, source]

theorem Lexed.of_mem_intercalate {s : List Lexeme} (h : Lexed d [] ([separator].intercalate ss))
    (hs : s ∈ ss) : ∃ rest, Lexed d rest s := by
  induction ss
  case nil => contradiction
  case cons s' ss hi =>
    cases ss
    case nil =>
      have he : s = s' := by simpa using hs
      exact ⟨[], by simpa [he] using h⟩
    case cons =>
      rw [List.intercalate_cons_cons, List.append_assoc, lexed_append] at h
      cases hs
      case head => exact ⟨_, h.1⟩
      case tail hs => exact hi h.2.2 hs

theorem source_ne_nil_of_isToken (h : Lexed d rest ls) (ht : ls.any isToken) :
    ls.flatMap source ≠ [] := by
  cases ls
  case nil => contradiction
  case cons => simp [h.1.source_ne_nil]

variable (d) in
-- What the statements of a script keep of its segments.
def keptSegments (cs : List Char) : List (List Lexeme) :=
  ((segments ((Lexicon.shared d).lexemes cs)).filter (·.any isToken)).map Lexeme.tidied

theorem lexed_segments (cs : List Char) :
    Lexed d [] ([separator].intercalate (segments ((Lexicon.shared d).lexemes cs))) := by
  rw [segments_eq_splitOn, List.intercalate_splitOn]
  exact (lexed_lexemesFrom false cs).1

theorem map_text_segments (cs : List Char) : (statementsOf d cs).map (·.text) =
    ((segments ((Lexicon.shared d).lexemes cs)).filter (·.any isToken)).map
      fun s => String.ofList (trimChars (s.flatMap kept)) := by
  rw [statementsOf_eq_shared, Lexicon.statements, map_text_statementsFrom]

theorem map_text_statementsOf (cs : List Char) : (statementsOf d cs).map (·.text) =
    (keptSegments d cs).map fun s => String.ofList (s.flatMap source) := by
  rw [map_text_segments, keptSegments, List.map_map]
  refine List.map_congr_left fun s hs => ?_
  have ⟨rest, h⟩ := (lexed_segments cs).of_mem_intercalate (List.mem_of_mem_filter hs)
  rw [Function.comp_apply, h.flatMap_source_tidied]

theorem mem_keptSegments {cs : List Char} {s : List Lexeme} (h : s ∈ keptSegments d cs) :
    s.any isToken ∧ separator ∉ s ∧ s.flatMap source ≠ [] ∧ s.flatMap kept = s.flatMap source ∧
      trimChars (s.flatMap source) = s.flatMap source := by
  have ⟨s', hs', he⟩ := List.mem_map.mp h
  have ⟨hm, ht⟩ := List.mem_filter.mp hs'
  have hn := separator_not_mem_segments _ s' hm
  have ⟨rest, hl⟩ := (lexed_segments cs).of_mem_intercalate hm
  have hd : Lexed d [] (tidied s') := hl.tidied (by simp [Apart]) fun _ => rfl
  subst he
  refine ⟨any_isToken_tidied s' ▸ ht, separator_not_mem_tidied hn, ?_, flatMap_kept_tidied s', ?_⟩
  case refine_1 => exact source_ne_nil_of_isToken hd (any_isToken_tidied s' ▸ ht)
  case refine_2 => rw [hl.flatMap_source_tidied, trimChars_trimChars]

-- The joined texts are read as the segments they come from.
theorem lexemes_joined (cs : List Char) :
    (Lexicon.shared d).lexemes (";".intercalate ((statementsOf d cs).map (·.text))).toList =
      [separator].intercalate (keptSegments d cs) := by
  have hl : Lexed d [] ([separator].intercalate (keptSegments d cs)) :=
    (lexed_segments cs).intercalate_tidied
  have ht : (";".intercalate ((statementsOf d cs).map (·.text))).toList =
      ([separator].intercalate (keptSegments d cs)).flatMap source := by
    rw [map_text_statementsOf, String.toList_intercalate, flatMap_intercalate]
    simp [Function.comp_def]
  rw [ht, Lexicon.lexemes, hl.lexemesFrom]

theorem filter_segments_intercalate (cs : List Char) :
    (segments ([separator].intercalate (keptSegments d cs))).filter (·.any isToken) =
      keptSegments d cs := by
  by_cases hn : keptSegments d cs = []
  case pos => simp [hn, segments_eq_splitOn]
  case neg =>
    rw [segments_eq_splitOn, List.splitOn_intercalate separator (fun s hs => (mem_keptSegments hs).2.1) hn]
    exact List.filter_eq_self.mpr fun s hs => (mem_keptSegments hs).1

end Texts
end Lexeme

open Lexeme

-- Statements can be read again from their texts.
theorem statements_joined (d : Dialect) (script : String) :
    let texts := (statements d script).map (·.text)
    let joined := ";".intercalate texts
    let read := (segments ((Lexicon.shared d).lexemes script.toList)).filter (·.any isToken)
    (∀ t ∈ texts, t ≠ "" ∧ trim t = t) ∧ (statements d joined).map (·.text) = texts ∧
      (Lexicon.shared d).lexemes joined.toList = [separator].intercalate (read.map tidied) ∧
      marks ((Lexicon.shared d).lexemes joined.toList) = [separator].intercalate (read.map marks) := by
  intro texts joined read
  have hl : (Lexicon.shared d).lexemes joined.toList = [separator].intercalate (read.map tidied) :=
    lexemes_joined script.toList
  have ht : texts = (keptSegments d script.toList).map fun s => String.ofList (s.flatMap source) :=
    map_text_statementsOf script.toList
  refine ⟨fun t hm => ?_, ?_, hl, ?_⟩
  case refine_1 =>
    have ⟨s, hs, he⟩ := List.mem_map.mp (ht ▸ hm)
    have ⟨_, _, hn, _, hc⟩ := mem_keptSegments hs
    simp [← he, hn, trim, hc]
  case refine_2 =>
    have hj : (segments ((Lexicon.shared d).lexemes joined.toList)).filter (·.any isToken) =
        keptSegments d script.toList := by
      rw [hl]
      exact filter_segments_intercalate script.toList
    rw [ht, statements, map_text_segments, hj]
    refine List.map_congr_left fun s hs => ?_
    have ⟨_, _, _, hk, hc⟩ := mem_keptSegments hs
    rw [hk, hc]
  case refine_3 => simp [hl, marks_intercalate, Function.comp_def, marks_tidied]

end TypedRows.Ddl.Script
