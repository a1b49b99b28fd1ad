import TypedRows.Proofs.Script.Rejoining

namespace TypedRows.Ddl.Script

open Text

inductive ScanState
  | normal
  | quoted (quote : Char)
  | lineComment
  | blockComment
  deriving DecidableEq, Repr

-- What a character of a script is part of.
inductive Part
  | code
  | quoted
  | lineComment
  | blockComment
  deriving DecidableEq, Repr

-- What a scan does with a character.
structure ScanStep where
  part : Part
  -- Whether the next character is read with this one, whatever it is.
  takesNext : Bool := false
  state : ScanState

structure ScannedChar where
  char : Char
  part : Part
  deriving DecidableEq, Repr

namespace ScanState

def step (d : Dialect) (s : ScanState) (c : Char) (next : Option Char) : ScanStep :=
  match s with
  | normal =>
    if c = '-' ∧ next = some '-' ∨ c = '#' ∧ d = .mysql then
      { part := .lineComment, state := lineComment }
    else if c = '/' ∧ next = some '*' then
      { part := .blockComment, takesNext := true, state := blockComment }
    else if c ∈ ['\x27', '\x22', '\x60'] then { part := .quoted, state := quoted c }
    else { part := .code, state := normal }
  | quoted q =>
    -- A doubled quote does not end the text, nor does any quote after a backslash.
    if c = q then
      if next = some q then { part := .quoted, takesNext := true, state := quoted q }
      else { part := .quoted, state := normal }
    else { part := .quoted, takesNext := c = '\\' ∧ q = '\x27', state := quoted q }
  | lineComment =>
    if c = '\n' then { part := .code, state := normal }
    else { part := .lineComment, state := lineComment }
  | blockComment =>
    if c = '*' ∧ next = some '/' then
      { part := .blockComment, takesNext := true, state := normal }
    else { part := .blockComment, state := blockComment }

end ScanState

def scanFrom (d : Dialect) (s : ScanState) : List Char → List ScannedChar
  | [] => []
  | c :: cs =>
    let r := s.step d c cs.head?
    if r.takesNext then
      match cs with
      | [] => [⟨c, r.part⟩]
      | next :: cs => ⟨c, r.part⟩ :: ⟨next, r.part⟩ :: scanFrom d r.state cs
    else ⟨c, r.part⟩ :: scanFrom d r.state cs

-- The characters of a script in their places.
def scan (d : Dialect) (script : List Char) : List (ScannedChar × Nat) :=
  (scanFrom d .normal script).zipIdx

namespace ScannedChar

def separates (x : ScannedChar) : Bool :=
  x.char = ';' && x.part = .code

-- Neither a blank nor in a comment.
def isToken (x : ScannedChar) : Bool :=
  !isBlank x.char && x.part ≠ .lineComment && x.part ≠ .blockComment

end ScannedChar

-- The statement of a segment, if any token stands in it.
def statementIn? (script : List Char) (segment : List (ScannedChar × Nat)) :
    Option ScriptStatement :=
  (segment.find? (·.1.isToken)).map fun first =>
    { text := String.ofList (trimChars ((segment.filter (·.1.part ≠ .lineComment)).map (·.1.char)))
      line := (script.take first.2).count '\n' + 1 }

namespace Lexeme

def part : Lexeme → Part
  | separator | blank _ | plain _ => .code
  | quoted _ => .quoted
  | lineComment _ => .lineComment
  | blockComment _ => .blockComment

def scanned (l : Lexeme) : List ScannedChar :=
  l.source.map (⟨·, l.part⟩)

end Lexeme

variable {d : Dialect} {c : Char} {cs : List Char}

section Steps

variable {s : ScanState} {r : ScanStep}

theorem scanFrom_step (h : s.step d c cs.head? = r) (hn : r.takesNext = false) :
    scanFrom d s (c :: cs) = ⟨c, r.part⟩ :: scanFrom d r.state cs := by
  rw [scanFrom.eq_def]
  simp only [h, hn, Bool.false_eq_true, if_false]

theorem scanFrom_pair {next : Char} (h : s.step d c (some next) = r) (hn : r.takesNext) :
    scanFrom d s (c :: next :: cs) = ⟨c, r.part⟩ :: ⟨next, r.part⟩ :: scanFrom d r.state cs := by
  rw [scanFrom.eq_def]
  simp only [List.head?_cons, h, hn, if_true]

end Steps

section Lexemes

theorem scanFrom_quoted (q : Char) (cs : List Char) :
    scanFrom d (.quoted q) cs =
      (cs.take ((Lexicon.shared d).quotedSize q cs)).map (⟨·, .quoted⟩) ++
        scanFrom d .normal (cs.drop ((Lexicon.shared d).quotedSize q cs)) := by
  fun_induction Lexicon.quotedSize (Lexicon.shared d) q cs
  case case1 => rfl
  case case2 c =>
    by_cases hc : c = q
    case pos => simp [scanFrom, ScanState.step, hc]
    case neg => by_cases he : c = '\\' ∧ q = '\x27' <;> simp [scanFrom, ScanState.step, hc, he]
  case case3 cs hi =>
    have hs : (ScanState.quoted q).step d q (some q) = ⟨.quoted, true, .quoted q⟩ := by
      simp [ScanState.step]
    rw [scanFrom_pair hs rfl, hi]
    rfl
  case case4 next cs hn =>
    have hs : (ScanState.quoted q).step d q (some next) = ⟨.quoted, false, .normal⟩ := by
      simp [ScanState.step, hn]
    rw [scanFrom_step hs rfl]
    rfl
  case case5 c next cs hc he hi =>
    have he : c = '\\' ∧ q = '\x27' := by simpa [Lexicon.shared] using he
    have hs : (ScanState.quoted q).step d c (some next) = ⟨.quoted, true, .quoted q⟩ := by
      rw [ScanState.step, if_neg hc, decide_eq_true he]
    rw [scanFrom_pair hs rfl, hi]
    rfl
  case case6 c next cs hc he hi =>
    have he : ¬(c = '\\' ∧ q = '\x27') := by simpa [Lexicon.shared] using he
    have hs : (ScanState.quoted q).step d c (some next) = ⟨.quoted, false, .quoted q⟩ := by
      rw [ScanState.step, if_neg hc, decide_eq_false he]
    rw [scanFrom_step hs rfl, hi]
    rfl

theorem scanFrom_blockComment (cs : List Char) :
    scanFrom d .blockComment cs =
      (cs.take (Lexicon.sizeThrough ['*', '/'] cs)).map (⟨·, .blockComment⟩) ++
        scanFrom d .normal (cs.drop (Lexicon.sizeThrough ['*', '/'] cs)) := by
  induction cs
  case nil => rfl
  case cons c cs hi =>
    rw [Lexicon.sizeThrough_cons]
    split_ifs with hm
    case pos =>
      obtain ⟨rfl, hh⟩ := hm
      obtain ⟨cs, rfl⟩ := List.head?_eq_some_iff.mp hh
      rw [scanFrom_pair (r := ⟨.blockComment, true, .normal⟩) rfl rfl]
      rfl
    case neg =>
      have hs : ScanState.blockComment.step d c cs.head? = ⟨.blockComment, false, .blockComment⟩ :=
        if_neg hm
      rw [scanFrom_step hs rfl, hi]
      rfl

theorem scanFrom_lineComment (cs : List Char) :
    scanFrom d .lineComment cs =
      (cs.takeWhile (· ≠ '\n')).map (⟨·, .lineComment⟩) ++
        scanFrom d .normal (cs.dropWhile (· ≠ '\n')) := by
  induction cs
  case nil => rfl
  case cons c cs hi =>
    by_cases hc : c = '\n'
    case pos =>
      have hn : ScanState.normal.step d '\n' cs.head? = ⟨.code, false, .normal⟩ := by
        simp [ScanState.step]
      rw [hc, scanFrom_step (r := ⟨.code, false, .normal⟩) rfl rfl]
      simp [scanFrom_step hn]
    case neg =>
      have hs : ScanState.lineComment.step d c cs.head? = ⟨.lineComment, false, .lineComment⟩ :=
        if_neg hc
      rw [scanFrom_step hs rfl, hi]
      simp [hc]

theorem step_code (hl : ¬(Lexicon.shared d).startsLineComment c cs)
    (hb : ¬(c = '/' ∧ cs.head? = some '*')) (hq : ¬Reader.isQuote c) :
    ScanState.normal.step d c cs.head? = ⟨.code, false, .normal⟩ := by
  have hl : ¬(c = '-' ∧ cs.head? = some '-' ∨ c = '#' ∧ d = .mysql) := by
    simpa [Lexicon.startsLineComment, Lexicon.shared] using hl
  have hq : c ∉ ['\x27', '\x22', '\x60'] := by simpa [Reader.isQuote, and_assoc] using hq
  rw [ScanState.step, if_neg hl, if_neg hb, if_neg hq]

-- The characters of a lexeme are parts of the same.
theorem Lexeme.Begins.scanFrom_append {l : Lexeme} {rest : List Char} (h : Begins d rest l) :
    scanFrom d .normal (l.source ++ rest) = l.scanned ++ scanFrom d .normal rest := by
  cases h
  case separator =>
    exact scanFrom_step (step_code (by simp [Lexicon.startsLineComment]) (by simp) (by decide)) rfl
  case blank c h =>
    have hc := not_mem_of_isBlank h
    refine scanFrom_step (step_code ?_ ?_ ?_) rfl
    case refine_1 => simp_all [Lexicon.startsLineComment]
    case refine_2 => simp_all
    case refine_3 => simp_all [Reader.isQuote]
  case plain c hs hl hb hq hw => exact scanFrom_step (step_code hl hb hq) rfl
  case quoted q cs hq h =>
    have hs : ScanState.normal.step d q (cs ++ rest).head? = ⟨.quoted, false, .quoted q⟩ := by
      have hc := not_mem_of_isQuote hq
      simp_all [ScanState.step, Reader.isQuote, or_assoc]
    rw [source, List.cons_append, scanFrom_step hs rfl, scanFrom_quoted, h, List.take_left,
      List.drop_left]
    rfl
  case lineComment c cs hl hn hr =>
    have hs : ScanState.normal.step d c (cs ++ rest).head? =
        ⟨.lineComment, false, .lineComment⟩ := by
      refine if_pos ?_
      simpa [Lexicon.startsLineComment, Lexicon.shared] using hl
    have hm : ∀ x ∈ cs, decide (x ≠ '\n') := fun x hx => decide_eq_true (ne_of_mem_of_not_mem hx hn)
    have hr : ∀ x ∈ rest.head?, decide (x ≠ '\n') = false := by simpa using hr
    rw [source, List.cons_append, scanFrom_step hs rfl, scanFrom_lineComment,
      takeWhile_append_of_head hm hr, dropWhile_append_of_head hm hr]
    rfl
  case blockComment cs h =>
    have hs : ScanState.normal.step d '/' (some '*') = ⟨.blockComment, true, .blockComment⟩ := by
      simp [ScanState.step]
    rw [source, List.cons_append, List.cons_append, scanFrom_pair hs rfl, scanFrom_blockComment, h,
      List.take_left, List.drop_left]
    rfl

theorem Lexeme.Lexed.scanFrom_eq {ls : List Lexeme} (h : Lexed d [] ls) :
    scanFrom d .normal (ls.flatMap source) = ls.flatMap scanned := by
  induction ls
  case nil => rfl
  case cons l ls hi =>
    have hb : Begins d (ls.flatMap source) l := by simpa using h.1
    rw [List.flatMap_cons, hb.scanFrom_append, hi h.2, List.flatMap_cons]

end Lexemes

section Segments

namespace Lexeme

variable {l : Lexeme} {ls segment : List Lexeme} {rest : List Char}

theorem newlines_eq_count (ls : List Lexeme) : newlines ls = (ls.flatMap source).count '\n' := by
  induction ls
  case nil => rfl
  case cons l ls hi => rw [newlines, hi, List.flatMap_cons, List.count_append]

theorem Lexed.exists_begins (h : Lexed d rest ls) : ∀ l ∈ ls, ∃ rest, Begins d rest l := by
  induction ls
  case nil => simp
  case cons l ls hi => exact List.forall_mem_cons.mpr ⟨⟨_, h.1⟩, hi h.2⟩

theorem Begins.separates_eq_false (h : Begins d rest l) (hs : l ≠ Lexeme.separator) :
    ∀ x ∈ l.scanned, x.separates = false := by
  cases h
  case separator => contradiction
  case blank c h =>
    have hc := not_mem_of_isBlank h
    simp_all [scanned, source, ScannedChar.separates]
  case plain => simp_all [scanned, source, ScannedChar.separates]
  all_goals simp [scanned, part, ScannedChar.separates]

theorem Begins.isToken_eq_false (h : Begins d rest l) (hs : l ≠ Lexeme.separator)
    (ht : l.isToken = false) : ∀ x ∈ l.scanned, x.isToken = false := by
  cases h
  case separator => contradiction
  case blank => simp_all [scanned, source, ScannedChar.isToken]
  case plain | quoted => contradiction
  all_goals simp [scanned, part, ScannedChar.isToken]

theorem Begins.isToken_head (h : Begins d rest l) (ht : l.isToken) :
    ∃ x xs, l.scanned = x :: xs ∧ x.isToken := by
  cases h
  case plain c hs hl hb hq hw =>
    exact ⟨⟨c, .code⟩, [], rfl, by simp [ScannedChar.isToken, hw]⟩
  case quoted q cs hq h =>
    exact ⟨⟨q, .quoted⟩, _, rfl, by simp [ScannedChar.isToken, isBlank_of_isQuote hq]⟩
  all_goals contradiction

theorem map_char_filter_scanned (l : Lexeme) :
    (l.scanned.filter (·.part ≠ .lineComment)).map (·.char) = l.kept := by
  have hk (cs : List Char) (p : Part) (hp : p ≠ .lineComment) :
      ((cs.map (ScannedChar.mk · p)).filter (·.part ≠ .lineComment)).map (·.char) = cs := by
    simp [List.filter_map, Function.comp_def, hp]
  cases l
  case lineComment => simp [scanned, part, kept]
  all_goals exact hk _ _ (by simp [part])

theorem map_char_filter_zipIdx (n : Nat) :
    (((segment.flatMap scanned).zipIdx n).filter (·.1.part ≠ .lineComment)).map (·.1.char) =
      segment.flatMap kept := by
  have hz : (((segment.flatMap scanned).zipIdx n).filter (·.1.part ≠ .lineComment)).map Prod.fst =
      (segment.flatMap scanned).filter (·.part ≠ .lineComment) := by
    conv_rhs => rw [← List.zipIdx_map_fst n (segment.flatMap scanned), List.filter_map]
    rfl
  calc
    (((segment.flatMap scanned).zipIdx n).filter (·.1.part ≠ .lineComment)).map (·.1.char)
    _ = ((segment.flatMap scanned).filter (·.part ≠ .lineComment)).map (·.char) := by
      rw [← hz, List.map_map]
      rfl
    _ = segment.flatMap kept := by
      rw [List.filter_flatMap, List.map_flatMap]
      exact List.flatMap_congr fun l _ => map_char_filter_scanned l

-- Induction along the segment. What precedes its first token lies before the line.
theorem map_find?_zipIdx (hb : ∀ l ∈ segment, ∃ rest, Begins d rest l) (hs : separator ∉ segment)
    (before after : List Char) :
    (((segment.flatMap scanned).zipIdx before.length).find? (·.1.isToken)).map
        (fun x => ((before ++ segment.flatMap source ++ after).take x.2).count '\n' + 1) =
      tokenLine? (before.count '\n' + 1) segment := by
  induction segment generalizing before
  case nil => rfl
  case cons l ls hi =>
    obtain ⟨⟨rest, hl⟩, hb⟩ := List.forall_mem_cons.mp hb
    obtain ⟨hn, hs⟩ : separator ≠ l ∧ separator ∉ ls := by simpa using hs
    simp only [List.flatMap_cons]
    rw [List.zipIdx_append, List.find?_append, tokenLine?]
    split
    case isTrue ht =>
      obtain ⟨x, xs, hx, hxt⟩ := hl.isToken_head ht
      simp [hx, hxt]
    case isFalse ht =>
      have hf : (l.scanned.zipIdx before.length).find? (·.1.isToken) = none := by
        refine List.find?_eq_none.mpr fun x hx => ?_
        have ht : l.isToken = false := by simpa using ht
        simpa using hl.isToken_eq_false hn.symm ht x.1 (List.fst_mem_of_mem_zipIdx hx)
      have hlen : before.length + l.scanned.length = (before ++ l.source).length := by
        simp [scanned]
      have hc : before.count '\n' + 1 + l.source.count '\n' =
          (before ++ l.source).count '\n' + 1 := by
        rw [List.count_append, Nat.add_right_comm]
      rw [hf, Option.none_or, hc, ← hi hb hs, hlen]
      simp only [List.append_assoc]

theorem statementIn?_eq (hb : ∀ l ∈ segment, ∃ rest, Begins d rest l) (hs : separator ∉ segment)
    (before after : List Char) :
    statementIn? (before ++ segment.flatMap source ++ after)
        ((segment.flatMap scanned).zipIdx before.length) =
      statement? (before.count '\n' + 1) segment := by
  rw [statementIn?, statement?, ← map_find?_zipIdx hb hs before after, Option.map_map,
    map_char_filter_zipIdx]
  rfl

theorem separates_eq_false_of_mem (hb : ∀ l ∈ segment, ∃ rest, Begins d rest l)
    (hs : separator ∉ segment) (n : Nat) :
    ∀ x ∈ (segment.flatMap scanned).zipIdx n, x.1.separates = false := by
  intro x hx
  obtain ⟨l, hl, hx⟩ := List.mem_flatMap.mp (List.fst_mem_of_mem_zipIdx hx)
  obtain ⟨rest, h⟩ := hb l hl
  exact h.separates_eq_false (ne_of_mem_of_not_mem hl hs) x.1 hx

theorem zipIdx_separator (read ls : List Lexeme) (before : List Char) :
    ((read ++ separator :: ls).flatMap scanned).zipIdx before.length =
      (read.flatMap scanned).zipIdx before.length ++
        (⟨';', .code⟩, (before ++ read.flatMap source).length) ::
          (ls.flatMap scanned).zipIdx (before ++ read.flatMap source ++ [';']).length := by
  have hlen : (read.flatMap scanned).length = (read.flatMap source).length := by
    simp [List.length_flatMap, scanned]
  rw [List.flatMap_append, List.zipIdx_append, List.flatMap_cons, scanned, source,
    List.map_singleton, List.singleton_append, List.zipIdx_cons, hlen, part]
  simp only [List.length_append, List.length_singleton]

-- Induction along the lexemes that were not read yet.
theorem statementsFrom_segmentsAfter (read : List Lexeme)
    (hb : ∀ l ∈ read ++ ls, ∃ rest, Begins d rest l) (hs : separator ∉ read)
    (before : List Char) :
    statementsFrom (before.count '\n' + 1) (segmentsAfter read ls) =
      ((((read ++ ls).flatMap scanned).zipIdx before.length).splitOnP (·.1.separates)).filterMap
        (statementIn? (before ++ (read ++ ls).flatMap source)) := by
  induction ls generalizing read before
  case nil =>
    rw [List.append_nil] at hb ⊢
    have ht := statementIn?_eq hb hs before []
    rw [List.append_nil] at ht
    rw [List.splitOnP_eq_singleton (separates_eq_false_of_mem hb hs _), segmentsAfter,
      statementsFrom, statementsFrom, List.append_nil, List.filterMap_cons, ht]
    cases statement? (before.count '\n' + 1) read <;> rfl
  case cons l ls hi =>
    rw [segmentsAfter]
    split
    case isTrue hl =>
      subst hl
      obtain ⟨hr, -, hls⟩ : (∀ l ∈ read, ∃ rest, Begins d rest l) ∧
          (∃ rest, Begins d rest separator) ∧ ∀ l ∈ ls, ∃ rest, Begins d rest l := by
        rwa [List.forall_mem_append, List.forall_mem_cons] at hb
      have hsource : before ++ (read ++ separator :: ls).flatMap source =
          before ++ read.flatMap source ++ ([';'] ++ ls.flatMap source) := by
        simp [source]
      have hline : before.count '\n' + 1 + newlines read =
          (before ++ read.flatMap source ++ [';']).count '\n' + 1 := by
        rw [newlines_eq_count]
        simp
        omega
      have hi := hi [] hls List.not_mem_nil (before ++ read.flatMap source ++ [';'])
      rw [zipIdx_separator, List.splitOnP_append_cons_of_forall_mem
        (separates_eq_false_of_mem hr hs _) _ rfl, statementsFrom, hline, hi, hsource,
        List.filterMap_cons, statementIn?_eq hr hs, List.append_assoc _ [';']]
      cases statement? (before.count '\n' + 1) read <;> rfl
    case isFalse hl =>
      have hi := hi (read ++ [l]) (by simpa using hb) (by simp [hs, Ne.symm hl]) before
      rwa [List.append_assoc, List.singleton_append] at hi

end Lexeme

end Segments

variable (d)

theorem lexed_lexemes (cs : List Char) :
    Lexeme.Lexed d [] ((Lexicon.shared d).lexemes cs) ∧
      ((Lexicon.shared d).lexemes cs).flatMap Lexeme.source = cs :=
  Lexeme.lexed_lexemesFrom false cs

theorem scan_eq (cs : List Char) :
    scan d cs = (((Lexicon.shared d).lexemes cs).flatMap Lexeme.scanned).zipIdx := by
  have ⟨hl, hs⟩ := lexed_lexemes d cs
  rw [scan, ← hl.scanFrom_eq, hs]

theorem map_char_scan (cs : List Char) : (scan d cs).map (·.1.char) = cs := by
  calc
    (scan d cs).map (·.1.char)
    _ = ((scan d cs).map Prod.fst).map (·.char) := List.map_map.symm
    _ = (((Lexicon.shared d).lexemes cs).flatMap Lexeme.scanned).map (·.char) := by
      rw [scan_eq, List.zipIdx_map_fst]
    _ = ((Lexicon.shared d).lexemes cs).flatMap Lexeme.source := by
      rw [List.map_flatMap]
      exact List.flatMap_congr fun l _ => by simp [Lexeme.scanned, Function.comp_def]
    _ = cs := (lexed_lexemes d cs).2

-- Every segment with a token gives its statement, and no other segment gives one.
theorem statements_scanned (script : String) :
    (scan d script.toList).map (·.1.char) = script.toList ∧
      statements d script =
        ((scan d script.toList).splitOnP (·.1.separates)).filterMap
          (statementIn? script.toList) := by
  constructor
  case left => exact map_char_scan d script.toList
  case right =>
    have ⟨hl, hs⟩ := lexed_lexemes d script.toList
    have hb : ∀ l ∈ [] ++ (Lexicon.shared d).lexemes script.toList,
        ∃ rest, Lexeme.Begins d rest l := hl.exists_begins
    have h := Lexeme.statementsFrom_segmentsAfter [] hb List.not_mem_nil []
    rw [List.nil_append, List.nil_append, hs] at h
    rw [statements, statementsOf_eq_shared, Lexicon.statements, scan_eq]
    exact h

end TypedRows.Ddl.Script
