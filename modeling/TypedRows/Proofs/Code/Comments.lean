import TypedRows.Proofs.Code.Models

namespace TypedRows

open Code Code.Lexicon Identifier Text

namespace Code.Lexicon

variable {x : Lexicon} {a b n s : String}

-- A text in a line comment that is open after each of its characters.
def StaysInComment (x : Lexicon) (cs : List Char) : Prop :=
  ∀ p, p <+: cs → ∃ question, scan x.step (.lineComment false) p = ([], .lineComment question)

-- A line that is a comment from its mark to its end.
def IsLineComment (x : Lexicon) (mark line : String) : Prop :=
  x.Reads .code mark [] (.lineComment false) ∧
    ∃ text, line = mark ++ text ∧ x.StaysInComment text.toList

theorem StaysInComment.step {cs front rest : List Char} {c : Char} {question : Bool}
    (h : x.StaysInComment cs) (hc : cs = front ++ c :: rest)
    (hf : scan x.step (.lineComment false) front = ([], .lineComment question)) :
    ∃ after, x.step (.lineComment question) c = ([], .lineComment after) := by
  obtain ⟨after, ha⟩ := h (front ++ [c]) ⟨rest, by simp [hc]⟩
  rw [scan_append hf rfl] at ha
  simp only [scan, List.append_nil, List.nil_append] at ha
  exact ⟨after, ha⟩

theorem staysInComment_iff : x.StaysInComment s.toList ↔ x.Keeps s := by
  constructor
  case mp =>
    intro h
    have hl : ∀ c ∈ s.toList, c ∉ x.lineEnds := by
      intro c hc he
      obtain ⟨front, rest, hs⟩ := List.append_of_mem hc
      obtain ⟨question, hf⟩ := h front ⟨c :: rest, hs.symm⟩
      obtain ⟨after, ha⟩ := h.step hs hf
      simp [step, he] at ha
    refine ⟨hl, ?_⟩
    rintro ht ⟨front, rest, hi⟩
    have hs : s.toList = front ++ '?' :: ('>' :: rest) := by simp [← hi]
    obtain ⟨question, hf⟩ := h front ⟨_, hs.symm⟩
    have hq : '?' ∉ x.lineEnds := hl '?' (by simp [hs])
    have hg : '>' ∉ x.lineEnds := hl '>' (by simp [hs])
    have hn : x.step (.lineComment question) '?' = ([], .lineComment true) := by simp [step, hq]
    have hfn : scan x.step (.lineComment false) (front ++ ['?']) = ([], .lineComment true) :=
      scan_append hf (scan_cons hn rfl)
    have hsn : s.toList = front ++ ['?'] ++ '>' :: rest := by simp [hs]
    obtain ⟨after, ha⟩ := h.step hsn hfn
    simp [step, hg, ht] at ha
  case mpr =>
    intro h p hp
    apply scan_lineComment
    case he => exact fun c hc => h.1 c (hp.subset hc)
    case hq => exact fun ht hi => h.2 ht (hi.trans hp.isInfix)
    case hp => simp

-- A text around others that neither ends a line comment nor begins or ends what does.
def Neutral (x : Lexicon) (s : String) : Prop :=
  ∀ c ∈ s.toList, c ∉ x.lineEnds ∧ c ≠ '?' ∧ c ≠ '>'

instance (x : Lexicon) (s : String) : Decidable (x.Neutral s) :=
  List.decidableBAll _ s.toList

theorem Neutral.append (ha : x.Neutral a) (hb : x.Neutral b) : x.Neutral (a ++ b) := by
  rw [Neutral, String.toList_append]
  exact List.forall_mem_append.mpr ⟨ha, hb⟩

theorem keeps_between (ha : x.Neutral a) (hb : x.Neutral b) :
    x.Keeps (a ++ n ++ b) ↔ x.Keeps n := by
  have hl : (∀ c ∈ (a ++ n ++ b).toList, c ∉ x.lineEnds) ↔ ∀ c ∈ n.toList, c ∉ x.lineEnds := by
    simp only [String.toList_append, List.forall_mem_append]
    exact ⟨fun h => h.1.2, fun h => ⟨⟨fun c hc => (ha c hc).1, h⟩, fun c hc => (hb c hc).1⟩⟩
  have hi : ['?', '>'] <:+: (a ++ n ++ b).toList ↔ ['?', '>'] <:+: n.toList := by
    have hp : ∀ {p q : List Char}, ['?', '>'] = p ++ q → p ≠ [] → q ≠ [] → '?' ∈ p ∧ '>' ∈ q := by
      intro p q he hp hq
      rcases p with _ | ⟨c, _ | ⟨d, p⟩⟩
      case nil => contradiction
      case cons.nil =>
        obtain ⟨rfl, rfl⟩ := List.cons.inj he
        simp
      case cons.cons => simp_all
    simp only [String.toList_append, List.infix_append_iff_ne_nil]
    constructor
    case mp =>
      rintro (((h | h | ⟨p, q, hp', hq, he, hs, _⟩) | h | ⟨p, q, hp', hq, he, _, hs⟩))
      · exact absurd rfl (ha '?' (h.subset (by simp))).2.1
      · exact h
      · exact absurd rfl (ha '?' (hs.subset (hp he hp' hq).1)).2.1
      · exact absurd rfl (hb '>' (h.subset (by simp))).2.2
      · exact absurd rfl (hb '>' (hs.subset (hp he hp' hq).2)).2.2
    case mpr => exact fun h => .inl (.inr (.inl h))
  rw [Keeps, Keeps, hl, hi]

end Code.Lexicon

namespace Language

variable {l : Language} {name : String}

def commentMark : Language → String
  | python => "#"
  | go | rust | typescript | php => "//"

-- Whatever ends a line comment. Comment texts escape the line breaks among them.
def lineCommentEnds (l : Language) : List (List Char) :=
  [['\n'], ['\r']] ++ l.commentEnds

theorem reads_commentMark (l : Language) :
    l.lexicon.Reads .code l.commentMark [] (.lineComment false) := by
  cases l <;> exact .fixed rfl

theorem infix_comment_iff {e : List Char} (h : e ∈ l.commentEnds) :
    e <:+: (Escape.comment name).toList ↔ e <:+: name.toList := by
  rw [Escape.comment, String.toList_ofList]
  have hc : ∀ c ∈ ['\u2028', '\u2029'],
      ([c] <:+: Escape.commentChars name.toList ↔ [c] <:+: name.toList) := by
    intro c hc
    simp only [List.singleton_infix_iff]
    exact Escape.mem_commentChars (by simp_all; rcases hc with rfl | rfl <;> decide) _
  cases l
  case typescript =>
    simp only [commentEnds, List.mem_cons, List.not_mem_nil, or_false] at h
    rcases h with rfl | rfl
    case inl => exact hc _ (by decide)
    case inr => exact hc _ (by decide)
  case php =>
    obtain rfl := List.mem_singleton.mp h
    exact ⟨Escape.pair_infix_commentChars (by decide) (by decide),
      Escape.pair_infix_commentChars_of_infix (by decide) (by decide)⟩
  all_goals contradiction

theorem no_lineBreak_comment (name : String) :
    '\n' ∉ (Escape.comment name).toList ∧ '\r' ∉ (Escape.comment name).toList := by
  rw [Escape.comment, String.toList_ofList]
  exact ColumnAnnotation.Spelling.Closed.no_lineBreak (.commentChars _)

-- A comment text holds what ends line comments if the name that it is for does.
theorem lineCommentEnds_comment_iff :
    (∀ e ∈ l.lineCommentEnds, ¬e <:+: (Escape.comment name).toList) ↔ l.KeepsComments name := by
  have ⟨hn, hr⟩ := no_lineBreak_comment name
  have hb : ∀ e ∈ [['\n'], ['\r']], ¬e <:+: (Escape.comment name).toList := by
    simp [List.singleton_infix_iff, hn, hr]
  rw [lineCommentEnds, List.forall_mem_append, KeepsComments]
  constructor
  case mp => exact fun h e he hi => h.2 e he ((infix_comment_iff he).mpr hi)
  case mpr => exact fun h => ⟨hb, fun e he hi => h e he ((infix_comment_iff he).mp hi)⟩

theorem keeps_comment_iff : l.lexicon.Keeps (Escape.comment name) ↔ l.KeepsComments name := by
  constructor
  case mp =>
    intro ⟨hl, ht⟩ e he hi
    have hc : e <:+: (Escape.comment name).toList := (infix_comment_iff he).mpr hi
    cases l
    case typescript =>
      simp only [commentEnds, List.mem_cons, List.not_mem_nil, or_false] at he
      rcases he with rfl | rfl
      all_goals exact hl _ ((List.singleton_infix_iff _ _).mp hc) (by decide)
    case php =>
      obtain rfl := List.mem_singleton.mp he
      exact ht rfl hc
    all_goals contradiction
  case mpr => exact keeps_comment

end Language

namespace Layout

variable {l : Language} {d : Dialect} {t : Table} {m : TableModel}

-- What stands before and after the name of a table in the line comments that mention it.
def headingFrames (typeName : String) : Language → List (String × String)
  | .go => [("// " ++ typeName ++ " maps rows of the ", " table."),
      ("// SQL statements for the ", " table.")]
  | .rust => [("//! Generated by schema_codegen from the \x60", "\x60 table. Do not edit."),
      ("/// Row of the \x60", "\x60 table.")]
  | .typescript | .php => [("// Generated by schema_codegen from the ", " table. Do not edit.")]
  | .python => [("# Generated by schema_codegen from the ", " table. Do not edit.")]

def headings (l : Language) (m : TableModel) : Lines :=
  (headingFrames m.typeName l).map fun f => f.1 ++ commentName m ++ f.2

theorem headings_sublist (l : Language) (m : TableModel) :
    (headings l m).Sublist (unitLines l m) := by
  cases l
  case go =>
    have hr : ∀ {a b c : Lines} {line : String}, [line].Sublist (a ++ line :: b ++ c) :=
      List.singleton_sublist.mpr (by simp)
    exact ((hr.append (List.singleton_sublist.mpr (by simp))).trans
      (List.sublist_append_left _ _)).trans (List.sublist_append_left _ _)
  case rust => exact (((List.nil_sublist _).cons_cons _).cons _).cons_cons _
  case typescript => exact List.singleton_sublist.mpr List.mem_cons_self
  case python => exact List.singleton_sublist.mpr List.mem_cons_self
  case php => exact List.singleton_sublist.mpr (by simp [unitLines, Php.unit])

theorem neutral_of_isWord {s : String} (h : IsWord s) : l.lexicon.Neutral s := by
  intro c hc
  have hw : isWordChar c := h.isWordChar c hc
  refine ⟨?_, ?_, ?_⟩
  case refine_1 =>
    intro he
    have hn : l.lexicon.lineEnds.all fun c => !isWordChar c := by cases l <;> rfl
    simpa [hw] using List.all_eq_true.mp hn c he
  case refine_2 => rintro rfl; contradiction
  case refine_3 => rintro rfl; contradiction

theorem headingFrames_marked (h : Legible l m) {f : String × String}
    (hf : f ∈ headingFrames m.typeName l) :
    ∃ a, f.1 = l.commentMark ++ a ∧ l.lexicon.Neutral a ∧ l.lexicon.Neutral f.2 := by
  cases l
  case go =>
    have hn : Language.go.lexicon.Neutral m.typeName := neutral_of_isWord (h.isWord (by decide))
    have hs : Language.go.lexicon.Neutral (" " ++ m.typeName ++ " maps rows of the ") :=
      .append (.append (by decide) hn) (by decide)
    simp only [headingFrames, List.mem_cons, List.not_mem_nil, or_false] at hf
    rcases hf with rfl | rfl
    case inl =>
      refine ⟨_, ?_, hs, (by decide : Language.go.lexicon.Neutral " table.")⟩
      simp only [← String.append_assoc]
      rfl
    case inr => exact ⟨" SQL statements for the ", rfl, by decide, by decide⟩
  case rust =>
    simp only [headingFrames, List.mem_cons, List.not_mem_nil, or_false] at hf
    rcases hf with rfl | rfl
    case inl => exact ⟨"! Generated by schema_codegen from the \x60", rfl, by decide, by decide⟩
    case inr => exact ⟨"/ Row of the \x60", rfl, by decide, by decide⟩
  all_goals
    obtain rfl := List.mem_singleton.mp hf
    exact ⟨" Generated by schema_codegen from the ", rfl, by decide, by decide⟩

theorem headings_inComments_iff (h : Legible l m) :
    (∀ line ∈ headings l m, l.lexicon.IsLineComment l.commentMark line) ↔
      l.KeepsComments m.table := by
  have hf : ∀ f ∈ headingFrames m.typeName l,
      l.lexicon.IsLineComment l.commentMark (f.1 ++ commentName m ++ f.2) ↔
        l.KeepsComments m.table := by
    intro f hf
    obtain ⟨a, he, ha, hb⟩ := headingFrames_marked h hf
    have ht : f.1 ++ commentName m ++ f.2 = l.commentMark ++ (a ++ commentName m ++ f.2) := by
      rw [he]
      simp only [String.append_assoc]
    rw [← Language.keeps_comment_iff, ← keeps_between ha hb, ← staysInComment_iff, ht]
    constructor
    case mp =>
      intro ⟨_, text, he, ht⟩
      exact (String.append_right_inj _).mp he ▸ ht
    case mpr => exact fun ht => ⟨l.reads_commentMark, _, rfl, ht⟩
  have hn : ∃ f, f ∈ headingFrames m.typeName l := by cases l <;> exact ⟨_, List.mem_cons_self⟩
  rw [headings, List.forall_mem_map]
  constructor
  case mp =>
    intro hl
    obtain ⟨f, hm⟩ := hn
    exact (hf f hm).mp (hl f hm)
  case mpr => exact fun hk f hm => (hf f hm).mpr hk

end Layout

namespace TableModel

open Layout

-- The comments that mention a table hold nothing else, and nothing of its name becomes code,
-- exactly if the name keeps comments.
theorem headings_inComments_iff_keeps {l : Language} {d : Dialect} {t : Table} {m : TableModel}
    (h : ofTable l d t = .ok m) :
    headings l m ≠ [] ∧ (headings l m).Sublist (unitLines l m) ∧
    (∀ line ∈ headings l m, (Escape.comment t.name).toList <:+: line.toList) ∧
    ((∀ e ∈ l.lineCommentEnds, ¬e <:+: (Escape.comment t.name).toList) ↔
      l.KeepsComments t.name) ∧
    ((∀ line ∈ headings l m, l.lexicon.IsLineComment l.commentMark line) ↔
      l.KeepsComments t.name) ∧
    (l.KeepsComments t.name → (unit l m).declarations l = declared l m) := by
  have hl : Legible l m := ofTable_legible h
  obtain ⟨_, rfl⟩ := ofTable_ok h
  refine ⟨?_, headings_sublist l _, ?_, Language.lineCommentEnds_comment_iff,
    headings_inComments_iff hl, unit_declarations hl⟩
  case refine_1 => cases l <;> exact List.cons_ne_nil _ _
  case refine_2 =>
    rw [headings, List.forall_mem_map]
    intro f _
    rw [String.toList_append, String.toList_append]
    exact List.infix_append _ _ _

-- Each half of what closes a comment or the code stands in this name.
theorem headings_inComments_halves :
    let t : Table :=
      { name := "a?*/ >\n<?php", columns := [{ name := "id", canonical := some .date }] }
    ∃ m, ofTable .php .mysql t = .ok m ∧
      (∀ e ∈ Language.php.lineCommentEnds, ¬e <:+: (Escape.comment t.name).toList) ∧
      ∀ line ∈ headings .php m, Language.php.lexicon.IsLineComment "//" line := by
  intro t
  have ht : (ofTable .php .mysql t).isOk := by decide +kernel
  have hk : Language.php.KeepsComments t.name := by decide +kernel
  cases hm : ofTable .php .mysql t
  case error => rw [hm] at ht; contradiction
  case ok m =>
    have ⟨_, _, _, he, hc, _⟩ := headings_inComments_iff_keeps hm
    exact ⟨m, rfl, he.mpr hk, hc.mpr hk⟩

theorem headings_leave_comments :
    ¬∀ (l : Language) (d : Dialect) (t : Table) (m : TableModel), ofTable l d t = .ok m →
      (∀ e ∈ l.lineCommentEnds, ¬e <:+: (Escape.comment t.name).toList) ∧
      ∀ line ∈ headings l m, l.lexicon.IsLineComment l.commentMark line := by
  intro h
  let t : Table := { name := "a ?> b", columns := [{ name := "id", canonical := some .date }] }
  have ht : (ofTable .php .mysql t).isOk := by decide +kernel
  cases hm : ofTable .php .mysql t
  case error => rw [hm] at ht; contradiction
  case ok m =>
    have hk : ¬Language.php.KeepsComments t.name := by decide +kernel
    exact hk (Language.lineCommentEnds_comment_iff.mp (h .php .mysql t m hm).1)

end TableModel
end TypedRows
