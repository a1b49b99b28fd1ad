import Mathlib.Data.List.Infix
import TypedRows.Proofs.Annotation.Layouts
import TypedRows.Proofs.Code.Lines

namespace TypedRows

open Code Code.Lexicon Identifier Text

namespace Language

theorem spells_escapeKeyword (l : Language) {name : String} (h : IsWord name) :
    l.lexicon.Spells (l.escapeKeyword name) [.word (l.escapeKeyword name)] := by
  rcases l.escapeKeyword_eq name with he | ⟨he, rfl⟩ | he
  case inl => rw [he]; exact h.spells
  case inr.inl => rw [he]; exact .of_rawWord rfl h.isWordChar
  case inr.inr =>
    have hu : IsWord (name ++ "_") := h.append_right (List.all_eq_true.mp rfl)
    rw [he]
    exact hu.spells

theorem spells_identifier (l : Language) {casing : Casing} (hk : casing ≠ .kebab) (raw : String) :
    l.lexicon.Spells (l.identifier casing raw) [.word (l.identifier casing raw)] := by
  obtain ⟨name, hn, he⟩ := l.identifier_eq hk raw
  exact he ▸ l.spells_escapeKeyword hn

theorem isWord_escapeKeyword {l : Language} (hl : l ≠ .rust) {name : String} (h : IsWord name) :
    IsWord (l.escapeKeyword name) := by
  rcases l.escapeKeyword_eq name with he | ⟨_, rfl⟩ | he
  case inl => rwa [he]
  case inr.inl => contradiction
  case inr.inr => rw [he]; exact h.append_right (List.all_eq_true.mp rfl)

theorem isWord_identifier {l : Language} (hl : l ≠ .rust) {casing : Casing} (hk : casing ≠ .kebab)
    (raw : String) : IsWord (l.identifier casing raw) := by
  obtain ⟨name, hn, he⟩ := l.identifier_eq hk raw
  exact he ▸ isWord_escapeKeyword hl hn

-- A line ends at a break, which comment texts escape, or at what they leave as it is.
theorem mem_lineEnds {l : Language} {c : Char} (h : c ∈ l.lexicon.lineEnds) : c ∈ ['\n', '\r'] ∨
    [c] ∈ l.commentEnds ∧ c ∉ ['\\', '\x22', '\n', '\r', '\t', 'n', 'r', 't'] := by
  have hd : ∀ c ∈ l.lexicon.lineEnds, c ∈ ['\n', '\r'] ∨
      [c] ∈ l.commentEnds ∧ c ∉ ['\\', '\x22', '\n', '\r', '\t', 'n', 'r', 't'] := by
    cases l <;> simp [lexicon, commentEnds]
  exact hd c h

theorem keeps_comment {l : Language} {name : String} (h : l.KeepsComments name) :
    l.lexicon.Keeps (Escape.comment name) := by
  have hc : ColumnAnnotation.Spelling.Closed (Escape.commentChars name.toList) := .commentChars _
  have ⟨hn, hr⟩ := hc.no_lineBreak
  rw [Keeps, Escape.comment, String.toList_ofList]
  constructor
  case left =>
    intro c hc he
    rcases mem_lineEnds he with hb | ⟨hm, hs⟩
    case inl =>
      simp only [List.mem_cons, List.not_mem_nil, or_false] at hb
      rcases hb with rfl | rfl <;> contradiction
    case inr =>
      have hn : c ∈ name.toList := (Escape.mem_commentChars hs _).mp hc
      exact h [c] hm ((List.singleton_infix_iff _ _).mpr hn)
  case right =>
    intro ht hi
    cases l
    case php =>
      exact h ['?', '>'] (List.mem_singleton.mpr rfl)
        (Escape.pair_infix_commentChars (by decide) (by decide) hi)
    all_goals contradiction

theorem keeps_of_no_lineBreak {l : Language} (hl : l.commentEnds = []) {s : String}
    (h : '\n' ∉ s.toList ∧ '\r' ∉ s.toList) : l.lexicon.Keeps s := by
  constructor
  case left =>
    intro c hc he
    rcases mem_lineEnds he with hb | ⟨hm, _⟩
    case inl =>
      simp only [List.mem_cons, List.not_mem_nil, or_false] at hb
      rcases hb with rfl | rfl
      case inl => exact h.1 hc
      case inr => exact h.2 hc
    case inr => simp [hl] at hm
  case right => cases l <;> first | contradiction | simp [lexicon]

theorem keeps_quoteless {l : Language} (hl : l.commentEnds = []) {s : String}
    (h : ColumnAnnotation.Quoteless s) : l.lexicon.Keeps s := by
  apply keeps_of_no_lineBreak hl
  exact ColumnAnnotation.Spelling.Closed.no_lineBreak h

theorem keeps_render {l : Language} (hl : l.commentEnds = []) (a : ColumnAnnotation) :
    l.lexicon.Keeps a.render := by
  have hr : a.renderChars = ColumnAnnotation.Spelling.inQuotes ColumnAnnotation.Spelling.word
      [Escape.commentChars a.column.toList, a.afterName ++ []] := by
    simpa using a.renderChars_append [] []
  apply keeps_of_no_lineBreak hl
  unfold ColumnAnnotation.render
  rw [String.toList_ofList, hr]
  apply ColumnAnnotation.Spelling.inQuotes_no_lineBreak (.of_check rfl)
  simp only [List.mem_cons, List.not_mem_nil, or_false, forall_eq_or_imp, forall_eq]
  exact ⟨.commentChars _, a.closed_afterName (.inl rfl)⟩

end Language

namespace ColumnAnnotation

variable (l : Language) (a : ColumnAnnotation)

theorem slash_not_mem_type : '/' ∉ a.canonical.render.toList := by
  obtain ⟨letters, arguments, he, _, hs, ha⟩ := Spelling.isType_render a.canonical
  have hl : '/' ∉ letters := fun hm => absurd (hs _ hm) (by decide)
  rw [he]
  rcases ha with rfl | ⟨inner, rfl, _, hi⟩
  case inl => simpa using hl
  case inr =>
    have hn : '/' ∉ inner := fun hm => absurd (hi _ hm) (by decide)
    simp [hl, hn]

theorem slash_not_mem_afterName : '/' ∉ a.afterName := by
  have hf : '/' ∉ a.flagsText := by
    unfold flagsText flags
    cases a.primaryKey <;> cases a.notNull <;> cases a.autoIncrement <;> decide
  simp [afterName, a.slash_not_mem_type, hf]

-- A comment closes with a slash, which only the name of the column can hold.
theorem reads_render_in_block :
    ∃ star, l.lexicon.Reads (.blockComment false) a.render [] (.blockComment star) := by
  have ho : scan l.lexicon.step (.blockComment false) opening = ([], .blockComment false) := rfl
  obtain ⟨star, hn⟩ : ∃ star, scan l.lexicon.step (.blockComment false)
      (Escape.commentChars a.column.toList) = ([], .blockComment star) :=
    scan_blockComment (Escape.not_close_guardClose _) (by simp)
  have hs : '/' ∉ '\x22' :: a.afterName := by simp [a.slash_not_mem_afterName]
  obtain ⟨star, ha⟩ : ∃ after, scan l.lexicon.step (.blockComment star)
      ('\x22' :: a.afterName) = ([], .blockComment after) :=
    scan_blockComment (fun hi => hs (hi.subset (by simp))) (by simp)
  refine ⟨star, ?_⟩
  have hr : a.renderChars = opening ++ Escape.commentChars a.column.toList ++
      '\x22' :: a.afterName := by
    simp [renderChars, afterName, flagsText]
  rw [Reads, render, String.toList_ofList, hr]
  exact scan_append (scan_append ho hn) ha

end ColumnAnnotation

theorem Code.Lexicon.reads_comment_in_quotes {x : Lexicon} (before : List Char) (s : String) :
    x.Reads (.quoted '\x22' before) (Escape.comment s) []
      (.quoted '\x22' (before ++ (Escape.comment s).toList)) := by
  have hq : ∀ cs, ColumnAnnotation.Spelling.Closed cs → ∀ before,
      scan x.step (.quoted '\x22' before) cs = ([], .quoted '\x22' (before ++ cs)) := by
    intro cs h
    induction h
    case nil => intro before; rw [List.append_nil]; rfl
    case plain c cs hc _ hi =>
      intro before
      simp only [List.mem_cons, not_or] at hc
      have hs : x.step (.quoted '\x22' before) c = ([], .quoted '\x22' (before ++ [c])) := by
        simp [step, hc]
      rw [scan_cons hs (hi _)]
      simp
    case escape c cs _ _ hi =>
      intro before
      have hb : x.step (.quoted '\x22' before) '\\' =
          ([], .escaped '\x22' (before ++ ['\\'])) := rfl
      have hc : x.step (.escaped '\x22' (before ++ ['\\'])) c =
          ([], .quoted '\x22' (before ++ ['\\'] ++ [c])) := rfl
      rw [scan_cons hb (scan_cons hc (hi _))]
      simp
  apply hq
  rw [Escape.comment, String.toList_ofList]
  exact .commentChars _

namespace Layout

-- Code that declares nothing, outside of brackets and in one.
def Harmless (l : Language) (s : String) : Prop :=
  ∃ ts, l.lexicon.Spells s ts ∧
    ∀ depth ≤ 1, scan (Scope.step l) ⟨.other, none, depth⟩ ts = ([], ⟨.other, none, depth⟩)

namespace Harmless

def check (l : Language) (cs : List Char) : Bool :=
  let harmless (ts : List Token) :=
    [0, 1].all fun depth =>
      scan (Scope.step l) ⟨.other, none, depth⟩ ts = ([], ⟨.other, none, depth⟩)
  match scan l.lexicon.step .code cs with
  | (ts, .code) => harmless ts
  | (ts, .word w) => harmless (ts ++ [.word (String.ofList w)])
  | _ => false

theorem fixed {l : Language} {cs : List Char} (h : check l cs) : Harmless l (String.ofList cs) := by
  have hd : ∀ ts : List Token, ([0, 1].all fun depth => decide (scan (Scope.step l)
      ⟨.other, none, depth⟩ ts = ([], ⟨.other, none, depth⟩))) →
      ∀ depth ≤ 1, scan (Scope.step l) ⟨.other, none, depth⟩ ts =
        ([], ⟨.other, none, depth⟩) := by
    intro ts hs depth hd
    simp only [List.all_cons, List.all_nil, Bool.and_true, Bool.and_eq_true,
      decide_eq_true_eq] at hs
    rcases Nat.le_one_iff_eq_zero_or_eq_one.mp hd with rfl | rfl
    case inl => exact hs.1
    case inr => exact hs.2
  unfold check at h
  dsimp only at h
  split at h
  case h_1 ts hr => exact ⟨ts, .code (.fixed hr), hd ts h⟩
  case h_2 ts w hr => exact ⟨_, .word (.fixed hr), hd _ h⟩
  case h_3 => contradiction

theorem ofKind (l : Language) (k : TypeKind) (nullable : Bool) :
    Harmless l ((TypeTokens.ofKind l k).select nullable) := by
  cases l <;> cases k <;> cases nullable <;>
    (simp only [TypeTokens.ofKind, TypeTokens.select, TypeTokens.go, TypeTokens.rustName,
      TypeTokens.typescriptName, TypeTokens.pythonName, TypeTokens.phpName, reduceIte,
      Bool.false_eq_true, String.reduceAppend]; exact fixed rfl)

end Harmless

-- A model of a table whose names are words, and whose types bring no declaration.
structure Legible (l : Language) (m : TableModel) : Prop where
  typeName : l.lexicon.Spells m.typeName [.word m.typeName]
  isWord : l ≠ .rust → IsWord m.typeName
  fieldName : ∀ f ∈ m.fields, l.lexicon.Spells f.name [.word f.name]
  typeToken : ∀ f ∈ m.fields, Harmless l f.typeToken

end Layout
end TypedRows
